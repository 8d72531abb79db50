/-
  ScriptDiagnosis/Proofs/SyntaxCheck/NamedLine.lean
  =================================================
  **A verdict's message names its line.**  Whoever looks for a line in the message of a verdict
  finds the verdict's own, and finds none if it has none (`message_names_line`).

  A message with a line begins with it, and the search takes the first line that it meets, so other
  lines that the rest of the message speaks of do not matter.  A message without a line is the text
  of the fault as it came: that there is no line is known from searching that text, and the words
  in front of it that would be taken off name a line themselves, so there are none.
-/
import ScriptDiagnosis.Proofs.Diagnosis.Recovery
import ScriptDiagnosis.Proofs.Json.Writing

namespace ScriptDiagnosis.SyntaxCheck
open Text Diagnosis

/-! ### Words that name a line -/

/-- Words in front of a text that name a line: a number, a colon and white space. -/
def NamesLine (own : Text) : Prop :=
  ∃ digits gap, digits ≠ [] ∧ (∀ c ∈ digits, isDigit c = true) ∧ (∀ c ∈ gap, isBlank c = true) ∧
    own = ("Line " : Text) ++ digits ++ ':' :: gap

/-- What a text says: the rest of it behind the words that name a line, with all of the white space
    that follows them, or the whole if it does not begin with such words. -/
inductive Says : Text → Text → Prop
  | behind {own rest : Text} (hown : NamesLine own) (hrest : Stops isBlank rest) :
    Says (own ++ rest) rest
  | whole {text : Text} (hnone : ∀ own, own <+: text → ¬ NamesLine own) : Says text text

/-- The line at the beginning of a text is the first that the text refers to. -/
theorem lineDigits?_of_digits {digits rest : Text} (hne : digits ≠ [])
    (hdigits : ∀ c ∈ digits, isDigit c = true) (hrest : Stops isDigit rest) :
    lineDigits? (("Line " : Text) ++ digits ++ rest) = some digits := by
  have hhere : lineDigitsHere? ('L' :: 'i' :: 'n' :: 'e' :: ' ' :: (digits ++ rest)) =
      some digits := by
    have hafter : afterLineWord? ('L' :: 'i' :: 'n' :: 'e' :: ' ' :: (digits ++ rest)) =
        some (' ' :: (digits ++ rest)) := rfl
    have htake := takeWhile_append_of_stops hdigits hrest
    rw [lineDigitsHere?, hafter]
    simp [htake, hne]
  show lineDigits? ('L' :: 'i' :: 'n' :: 'e' :: ' ' :: (digits ++ rest)) = some digits
  rw [lineDigits?, hhere]

theorem dropLinePrefix_of_digits {digits : Text} (hne : digits ≠ [])
    (hdigits : ∀ c ∈ digits, isDigit c = true) (behind : Text) :
    dropLinePrefix (("Line " : Text) ++ digits ++ ':' :: behind) = behind.dropWhile isBlank := by
  have hstops : Stops isDigit (':' :: behind) := stops_cons (by decide)
  show dropLinePrefix ('L' :: 'i' :: 'n' :: 'e' :: ' ' :: (digits ++ ':' :: behind)) = _
  have htake := takeWhile_append_of_stops hdigits hstops
  simp [dropLinePrefix, htake, hne]

/-- Nothing is taken off a text that does not begin with such words. -/
theorem dropLinePrefix_of_none {text : Text} (hnone : ∀ own, own <+: text → ¬ NamesLine own) :
    dropLinePrefix text = text := by
  rw [dropLinePrefix.eq_def]
  split
  · next rest =>
    dsimp only
    split
    · next tail htail =>
      split
      · rfl
      · next hne =>
        have htake := List.prefix_iff_eq_take.mp (List.takeWhile_prefix isDigit (l := rest))
        have hrest : rest.takeWhile isDigit ++ ':' :: tail = rest := by
          rw [← htail, htake, List.length_take_of_le (List.takeWhile_prefix isDigit).length_le,
            List.take_append_drop]
        -- otherwise the text would begin with words that name a line
        have hown : ("Line " : Text) ++ rest.takeWhile isDigit ++ [':'] <+:
            'L' :: 'i' :: 'n' :: 'e' :: ' ' :: rest := by
          refine ⟨tail, ?_⟩
          show ("Line " : Text) ++ rest.takeWhile isDigit ++ [':'] ++ tail =
            ("Line " : Text) ++ rest
          rw [List.append_assoc, List.append_assoc, List.singleton_append, hrest]
        have hline : NamesLine (("Line " : Text) ++ rest.takeWhile isDigit ++ [':']) :=
          ⟨_, [], by simpa using hne, mem_takeWhile, List.forall_mem_nil _, rfl⟩
        exact absurd hline (hnone _ hown)
    · rfl
  · rfl

/-- What is left of a text after that is what it says. -/
theorem says_dropLinePrefix (text : Text) : Says text (dropLinePrefix text) := by
  by_cases hnamed : ∃ own, own <+: text ∧ NamesLine own
  · obtain ⟨own, ⟨rest, rfl⟩, digits, gap, hne, hdigits, hgap, rfl⟩ := hnamed
    have hlong : NamesLine
        (("Line " : Text) ++ digits ++ ':' :: (gap ++ rest.takeWhile isBlank)) := by
      refine ⟨digits, gap ++ rest.takeWhile isBlank, hne, hdigits, ?_, rfl⟩
      intro c hc
      rcases List.mem_append.mp hc with hc | hc
      · exact hgap c hc
      · exact mem_takeWhile c hc
    have htext : ("Line " : Text) ++ digits ++ ':' :: gap ++ rest =
        ("Line " : Text) ++ digits ++ ':' :: (gap ++ rest.takeWhile isBlank) ++
          rest.dropWhile isBlank := by
      simp only [List.append_assoc, List.cons_append, List.takeWhile_append_dropWhile]
    have hdrop : dropLinePrefix (("Line " : Text) ++ digits ++ ':' :: gap ++ rest) =
        rest.dropWhile isBlank := by
      rw [List.append_assoc, List.cons_append, dropLinePrefix_of_digits hne hdigits,
        List.dropWhile_append_of_pos hgap]
    rw [hdrop, htext]
    exact .behind hlong (stops_dropWhile isBlank rest)
  · have hnone : ∀ own, own <+: text → ¬ NamesLine own := fun own hown hline =>
      hnamed ⟨own, hown, hline⟩
    rw [dropLinePrefix_of_none hnone]
    exact .whole hnone

/-- A text that refers to no line keeps all of its words. -/
theorem dropLinePrefix_of_lineDigits {text : Text} (h : lineDigits? text = none) :
    dropLinePrefix text = text := by
  apply dropLinePrefix_of_none
  rintro own ⟨rest, rfl⟩ ⟨digits, gap, hne, hdigits, _, rfl⟩
  have hstops : Stops isDigit (':' :: (gap ++ rest)) := stops_cons (by decide)
  have hfound := lineDigits?_of_digits hne hdigits hstops
  rw [List.append_assoc, List.cons_append, hfound] at h
  cases h

/-! ### The line of a message -/

/-- A line is found in the message that begins with it. -/
theorem lineDigits?_lineMessage {line : Int} (hline : 0 ≤ line) (said : Text) :
    lineDigits? (lineMessage line said) = some (Nat.toDigits 10 line.natAbs) := by
  have hdigits : ∀ c ∈ Nat.toDigits 10 line.natAbs, isDigit c = true := by
    intro c hc
    rw [isDigit, Json.digitValue?_of_isDecimalDigit ((Json.isWhole_toDigits _).digits.2 c hc)]
    rfl
  have hstops : Stops isDigit (':' :: ' ' :: said) := stops_cons (by decide)
  have hmessage : lineMessage line said =
      ("Line " : Text) ++ Nat.toDigits 10 line.natAbs ++ ':' :: ' ' :: said := by
    have hwritten : ofInt line = Nat.toDigits 10 line.natAbs := if_neg (Int.not_lt.mpr hline)
    show ("Line " : Text) ++ ofInt line ++ (": " : Text) ++ said = _
    rw [hwritten, List.append_assoc _ _ said]
    rfl
  rw [hmessage, lineDigits?_of_digits Nat.toDigits_ne_nil hdigits hstops]

theorem length_toDigits_le_iff (line : Int) :
    (Nat.toDigits 10 line.natAbs).length ≤ maxDigits ↔ writable line = true := by
  have hpos : 0 < maxDigits := by decide
  unfold writable
  generalize maxDigits = most at hpos ⊢
  rw [decide_eq_true_iff]
  exact Nat.length_toDigits_le_iff (by decide) hpos

theorem findLine_lineMessage {line : Int} (hline : 0 ≤ line) (hfits : writable line = true)
    (said : Text) : findLine (lineMessage line said) = .ok (some line.natAbs) := by
  have hshort := (length_toDigits_le_iff line).mpr hfits
  rw [findLine, lineDigits?_lineMessage hline]
  show (readDigits _).map some = _
  rw [readDigits, if_neg (Nat.not_lt.mpr hshort), Json.digitsValue_toDigits]
  rfl

theorem findLine_eq_none_iff {text : Text} :
    findLine text = .ok none ↔ lineDigits? text = none := by
  rw [findLine]
  cases hdigits : lineDigits? text with
  | none => simp
  | some ds =>
    show (readDigits ds).map some = .ok none ↔ _
    rw [readDigits]
    split <;> simp [Except.map]

/-! ### Verdicts -/

/-- A text under a line, if there is one. -/
def headed : Option Int → Text → Text
  | some line, said => lineMessage line said
  | none, said => said

/-- A verdict's message and its line agree.  If the verdict rests on a fault, the line stands where
    the words that named one in front of the fault's text stood. -/
structure Agrees (answer : ParserAnswer) (r : SyntaxResult) : Prop where
  found : ∃ line : Option Nat, findLine r.message = .ok line ∧ r.line = line.map Nat.cast
  invalid : r.isValid = false → r.message ≠ [] ∧
    ∀ line, r.line = some line → ∃ said, r.message = lineMessage line said
  worded : ∀ text line column, answer = .fault text line column →
    ∃ rest, Says text rest ∧
      r.message = headed r.line (if rest.isEmpty then unknownMessage else rest)
  valid : r.isValid = true → r.line = none ∧ r.column = none

/-- The answers of a parser that the check makes a verdict of. -/
inductive Handled : ParserAnswer → Prop
  | program {ends : List Place} (hne : ends ≠ []) : Handled (.program ends)
  | fault (text : Text) (line column : Option Int) (hline : ∀ n, line = some n → 0 ≤ n) :
    Handled (.fault text line column)
  | failed {f : Failure}
    (h : f.kind.isA .recursion = true ∨ f.kind.isA .value = true ∨ f.kind.isA .index = true) :
    Handled (.failed f)

/-- The numbers of an answer have no more digits than a number may have. -/
def Legible : ParserAnswer → Prop
  | .program ends => ∀ p ∈ ends, writable p.line = true
  | .fault text line _ => NumbersFit text line
  | .failed _ => True

section Verdicts

variable {mode : Mode} {snippet : Text} {answer : ParserAnswer} {r : SyntaxResult}

/-- A verdict with a line names it in its message. -/
theorem agrees_placed {said : Text} {line : Int} {column : Option Int} (hline : 0 ≤ line)
    (hworded : ∀ text l c, answer = .fault text l c →
      ∃ rest, Says text rest ∧ said = if rest.isEmpty then unknownMessage else rest)
    (h : placed said line column = .ok r) : Agrees answer r := by
  cases hfits : writable line with
  | false =>
    rw [placed_of_not_writable hfits] at h
    cases h
  | true =>
    rw [placed_of_writable hfits] at h
    cases h
    have hfound := findLine_lineMessage hline hfits said
    refine ⟨⟨some line.natAbs, hfound, ?_⟩, fun _ => ⟨?_, ?_⟩, ?_, ?_⟩
    · rw [Option.map_some, Int.natAbs_of_nonneg hline]
    · exact List.cons_ne_nil _ _
    · intro n hn
      cases hn
      exact ⟨said, rfl⟩
    · intro text l c hanswer
      obtain ⟨rest, hsays, hsaid⟩ := hworded text l c hanswer
      exact ⟨rest, hsays, by rw [headed, hsaid]⟩
    · intro hvalid
      cases hvalid

theorem says_description (text : Text) :
    ∃ rest, Says text rest ∧ description text = if rest.isEmpty then unknownMessage else rest :=
  ⟨dropLinePrefix text, says_dropLinePrefix text, rfl⟩

theorem description_ne_nil (text : Text) : description text ≠ [] := by
  rw [description]
  split
  · exact List.cons_ne_nil _ _
  · next hne => simpa using hne

theorem lineDigits?_description {text : Text} (h : lineDigits? text = none) :
    lineDigits? (description text) = none := by
  rw [description, dropLinePrefix_of_lineDigits h]
  split
  · decide
  · exact h

/-- Carrying a line to the snippet does not take it below zero. -/
theorem placeIn_nonneg (mode : Mode) (snippet : Text) {line : Int} (hline : 0 ≤ line)
    (column : Option Int) : 0 ≤ (placeIn mode snippet line column).1 := by
  cases mode with
  | script => exact hline
  | functionBody =>
    have hpos : 1 ≤ (lines snippet).length := by
      rw [length_lines]
      exact Nat.le_add_left 1 _
    have hone := (relocate_line hpos (lastLine snippet).length line column).1
    exact Int.le_trans (by decide) hone

theorem agrees_fault {text : Text} {line column : Option Int} (hline : ∀ n, line = some n → 0 ≤ n)
    (h : faultResult mode snippet text line column = .ok r) :
    Agrees (.fault text line column) r := by
  have hworded : ∀ t l c, ParserAnswer.fault text line column = .fault t l c →
      ∃ rest, Says t rest ∧ description text = if rest.isEmpty then unknownMessage else rest := by
    intro t l c hanswer
    cases hanswer
    exact says_description text
  cases line with
  | some n =>
    rw [faultResult_given] at h
    exact agrees_placed (placeIn_nonneg mode snippet (hline n rfl) column) hworded h
  | none =>
    rw [faultResult_sought] at h
    split at h
    · cases h
    · next hfind =>
      -- the text names no line, so nothing is taken off it
      have hdigits := findLine_eq_none_iff.mp hfind
      cases h
      refine ⟨⟨none, findLine_eq_none_iff.mpr (lineDigits?_description hdigits), rfl⟩,
        fun _ => ⟨description_ne_nil text, ?_⟩, ?_, ?_⟩
      · intro n hn
        cases hn
      · exact hworded
      · intro hvalid
        cases hvalid
    · exact agrees_placed (Int.natCast_nonneg _) hworded h

/-- **A verdict agrees with the answer that it is about,** whichever of the five ways it was
    reached. -/
theorem agrees_of_verdict (hanswer : Handled answer) (h : verdict mode snippet answer = .ok r) :
    Agrees answer r := by
  cases hanswer with
  | fault text line column hline => exact agrees_fault hline h
  -- one statement is fine, none or several end at a stray brace
  | @program ends hne =>
    have hworded : ∀ text l c, ParserAnswer.program ends = .fault text l c →
        ∃ rest, Says text rest ∧ strayBrace = if rest.isEmpty then unknownMessage else rest := by
      intro text l c hanswer
      cases hanswer
    rw [verdict] at h
    split at h
    · obtain ⟨p, ps, rfl⟩ := List.exists_cons_of_ne_nil hne
      rw [earlyEnd_cons] at h
      exact agrees_placed (by omega) hworded h
    · cases h
      refine ⟨⟨none, by decide, rfl⟩, ?_, ?_, fun _ => ⟨rfl, rfl⟩⟩
      · intro hinvalid
        cases hinvalid
      · intro text l c hanswer
        cases hanswer
  -- a failure that is caught has a message of its own, without a line
  | failed hkind =>
    rw [verdict] at h
    split at h
    · cases h
      refine ⟨⟨none, by decide, rfl⟩, fun _ => ⟨List.cons_ne_nil _ _, ?_⟩, ?_, ?_⟩
      · intro n hn
        cases hn
      · intro text l c hanswer
        cases hanswer
      · intro hvalid
        cases hvalid
    · cases h

/-! ### There is a verdict -/

theorem exists_earlyEnd {p : Place} {ps : List Place} (h : writable p.line = true) :
    ∃ r, earlyEnd (p :: ps) = .ok r := by
  have hfits : writable (max (p.line - 1) 1) = true := by
    rcases Int.lt_or_le 1 p.line with hbelow | hfirst
    · exact writable_of_le (by omega) h
    · have hone : max (p.line - 1) 1 = 1 := by omega
      rw [hone]
      decide +kernel
  rw [earlyEnd_cons, placed_of_writable hfits]
  exact ⟨_, rfl⟩

/-- Where every number can be read and written, there is a verdict. -/
theorem exists_verdict (hanswer : Handled answer) (hfits : Legible answer) :
    ∃ r, verdict mode snippet answer = .ok r := by
  cases hanswer with
  | fault text line column _ =>
    have hsettles : Settles mode snippet (.fault text line column) := (Fails.fault ..).settles
    cases hsettles with
    | recovered _ hverdict _ => exact ⟨_, hverdict⟩
    | escaped hescapes _ => exact absurd hescapes (not_escapes_of_numbersFit hfits column)
  | @program ends hne =>
    obtain ⟨p, ps, rfl⟩ := List.exists_cons_of_ne_nil hne
    rw [verdict]
    split
    · exact exists_earlyEnd (hfits p (.head _))
    · exact ⟨_, rfl⟩
  | @failed f hkind =>
    have hgives : givesUp f.kind = true := by
      rw [givesUp, Bool.or_eq_true, Bool.or_eq_true, or_assoc]
      exact hkind
    rw [verdict, if_pos hgives]
    exact ⟨_, rfl⟩

end Verdicts

/-- **Message and line agree.**  Every answer of the parser that the check handles is made a verdict
    of, unless it has a number that is too long, and every verdict that is made of one agrees with
    its message: the line found in the message is the verdict's, the message of an invalid snippet
    is not empty and begins with that line, in place of the line that the parser's text began with,
    and a valid snippet has no place. -/
theorem message_names_line {parse : Text → ParserAnswer} {mode : Mode} {snippet : Text}
    (hanswer : Handled (parse (sourceFor mode snippet))) :
    (Legible (parse (sourceFor mode snippet)) → ∃ r, check parse mode snippet = .ok r) ∧
    ∀ r, check parse mode snippet = .ok r → Agrees (parse (sourceFor mode snippet)) r := by
  constructor
  · exact exists_verdict hanswer
  · intro r hcheck
    exact agrees_of_verdict hanswer hcheck

/-- A fault behind the snippet, in a text that speaks of another line. -/
def astray : Text → ParserAnswer := fun _ => .fault "Line 12: \tnear LİNE ٤" (some 12) (some 3)

theorem message_names_line_astray :
    Handled (astray (sourceFor .functionBody "a\nbc")) ∧
    Legible (astray (sourceFor .functionBody "a\nbc")) ∧
    check astray .functionBody "a\nbc" =
      .ok ⟨false, "Line 2: near LİNE ٤", some 2, some 3⟩ ∧
    findLine "Line 2: near LİNE ٤" = .ok (some 2) := by
  have hline : ∀ n : Int, some 12 = some n → 0 ≤ n ∧ writable n = true := by
    intro n hn
    cases hn
    exact ⟨by decide, by decide +kernel⟩
  have hhandled : Handled (astray (sourceFor .functionBody "a\nbc")) :=
    .fault _ _ _ fun n hn => (hline n hn).1
  have hlegible : Legible (astray (sourceFor .functionBody "a\nbc")) := by
    refine ⟨fun n hn => (hline n hn).2, ?_⟩
    intro digits hdigits
    have hfound : lineDigits? "Line 12: \tnear LİNE ٤" = some ("12" : Text) := by decide +kernel
    rw [hfound] at hdigits
    cases hdigits
    decide
  have hcheck : check astray .functionBody "a\nbc" =
      .ok ⟨false, "Line 2: near LİNE ٤", some 2, some 3⟩ := by
    rw [check, astray, verdict, faultResult_given, placed_of_writable (by decide +kernel)]
    decide +kernel
  obtain ⟨_, hagrees⟩ := message_names_line hhandled
  obtain ⟨line, hfound, hnamed⟩ := (hagrees _ hcheck).found
  cases line with
  | none => cases hnamed
  | some n =>
    cases hnamed
    exact ⟨hhandled, hlegible, hcheck, hfound⟩

end ScriptDiagnosis.SyntaxCheck
