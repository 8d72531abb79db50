/-
  ScriptDiagnosis/Proofs/SyntaxCheck/Relocation.lean
  ==================================================
  Faults carried from a wrapped source to the snippet in it.  The head is one line and the snippet
  keeps its columns, so an offset of the snippet is one line further down in the source.  With line
  feeds as the only line ends, every offset of the source is carried to the snippet: its own
  offsets to themselves, the tail to its end, the head to its first line (`check_relocates`).

  The check counts the lines of the snippet by its line feeds, the parser by every line end.  Where
  the parser counts more, a fault inside the snippet is taken for one behind it, and then the two
  ways of reading a snippet do not place it alike (`modes_agree_iff`).
-/
import Mathlib.Data.List.TakeWhile
import ScriptDiagnosis.Proofs.Script.Positions
import ScriptDiagnosis.Proofs.SyntaxCheck.Verdicts
import ScriptDiagnosis.SyntaxCheck.ScriptParser

namespace ScriptDiagnosis.SyntaxCheck
open Text Script

/-- A parser's fault at a position. -/
def faultAt (text : Text) (p : Position) : ParserAnswer := .fault text (some p.line) (some p.column)

/-! ### Positions in a wrapped source -/

theorem behind_wrapperHead (rest : Text) :
    Position.first.behind wrapperHead rest = Position.first.down 1 := rfl

/-- A character of the snippet stands one line further down in the wrapped source. -/
theorem positionAt_snippet {snippet : Text} {o : Nat} (ho : o ≤ snippet.length)
    (hend : o < snippet.length ∨ snippet.getLast? ≠ some '\r') :
    positionAt (sourceFor .functionBody snippet) (wrapperHead.length + o) =
      (positionAt snippet o).down 1 :=
  positionAt_enclosed behind_wrapperHead ho hend

/-- The head is a single line, its line feed included. -/
theorem line_positionAt_head (snippet : Text) {o : Nat} (ho : o < wrapperHead.length) :
    (positionAt (sourceFor .functionBody snippet) o).line = 1 := by
  have htake : (sourceFor .functionBody snippet).take o = wrapperHead.take o := by
    rw [sourceFor, List.append_assoc, List.take_append_of_le_length (Nat.le_of_lt ho)]
  have hsub : (wrapperHead.take o).Sublist (wrapperHead.take 22) :=
    List.take_sublist_take_left (Nat.le_of_lt_succ ho)
  have hhead : OnlyFeeds (wrapperHead.take 22) := by decide
  have hfeeds : OnlyFeeds (wrapperHead.take o) := fun c hc => hhead c (hsub.subset hc)
  have hcount : (wrapperHead.take o).count '\n' = 0 :=
    Nat.le_zero.mp (hsub.count_le '\n')
  rw [positionAt, htake, hfeeds.behind, hcount]
  rfl

/-- The tail begins with a line feed, so what is behind it is below the snippet. -/
theorem line_positionAt_tail {snippet : Text} (hfeeds : OnlyFeeds snippet) {o : Nat}
    (ho : wrapperHead.length + snippet.length < o) :
    (lines snippet).length + 1 < (positionAt (sourceFor .functionBody snippet) o).line := by
  obtain ⟨w, hw⟩ : ∃ w, (sourceFor .functionBody snippet).take o =
      (wrapperHead ++ snippet) ++ ('\n' :: w) := by
    obtain ⟨k, rfl⟩ := Nat.exists_eq_add_of_lt ho
    refine ⟨("\x7d".toList).take k, ?_⟩
    rw [sourceFor, Nat.add_assoc, ← List.length_append, List.take_length_add_append]
    rfl
  rw [positionAt, hw, Position.behind_append, Position.behind_append, behind_wrapperHead,
    hfeeds.behind, Position.behind, Position.past_feed, length_lines]
  refine Nat.lt_of_lt_of_le ?_ (Position.line_behind _ w _).1
  show snippet.count '\n' + 1 + 1 < 1 + 1 + snippet.count '\n' + 1
  omega

/-! ### Faults of a wrapped source -/

/-- Where an offset of a wrapped source is in the snippet: a line, and a column unless it is in
    front of the snippet. -/
inductive Carries (snippet : Text) : Nat → Nat → Option Nat → Prop
  /-- In the snippet or at its end. -/
  | inside {o : Nat} (ho : o ≤ snippet.length) :
    Carries snippet (wrapperHead.length + o) (positionAt snippet o).line
      (some (positionAt snippet o).column)
  /-- In the tail: at the end of the snippet. -/
  | tail {o : Nat} (ho : wrapperHead.length + snippet.length < o) :
    Carries snippet o (positionAt snippet snippet.length).line
      (some (positionAt snippet snippet.length).column)
  | head {o : Nat} (ho : o < wrapperHead.length) : Carries snippet o 1 none

/-- Each offset has one place in the snippet. -/
theorem Carries.unique {snippet : Text} {o line line' : Nat} {column column' : Option Nat}
    (h : Carries snippet o line column) (h' : Carries snippet o line' column') :
    line = line' ∧ column = column' := by
  generalize ho : o = o' at h'
  cases h with
  | inside hk =>
    cases h' with
    | inside hk' => rw [Nat.add_left_cancel ho]; exact ⟨rfl, rfl⟩
    | tail hlt => omega
    | head hlt => omega
  | tail hlt =>
    cases h' with
    | inside hk' => omega
    | tail _ => exact ⟨rfl, rfl⟩
    | head hlt' => omega
  | head hlt =>
    cases h' with
    | inside hk' => omega
    | tail hlt' => omega
    | head _ => exact ⟨rfl, rfl⟩

theorem Carries.line_mem {snippet : Text} (hfeeds : OnlyFeeds snippet) {o line : Nat}
    {column : Option Nat} (h : Carries snippet o line column) :
    1 ≤ line ∧ line ≤ (lines snippet).length := by
  cases h with
  | inside _ => exact ⟨(line_positionAt snippet _).1, hfeeds.line_le _⟩
  | tail _ => exact ⟨(line_positionAt snippet _).1, hfeeds.line_le _⟩
  | head _ =>
    rw [length_lines]
    exact ⟨Nat.le_refl 1, Nat.le_add_left 1 _⟩

theorem exists_carries {snippet : Text} (hfeeds : OnlyFeeds snippet) (o : Nat) :
    ∃ line column, Carries snippet o line column ∧
      relocate (lines snippet).length (lastLine snippet).length
          (positionAt (sourceFor .functionBody snippet) o).line
          (some ((positionAt (sourceFor .functionBody snippet) o).column : Int)) =
        ((line : Int), column.map fun n => (n : Int)) := by
  rcases Nat.lt_or_ge o wrapperHead.length with hhead | hge
  · refine ⟨1, none, .head hhead, ?_⟩
    rw [relocate_before (by rw [line_positionAt_head snippet hhead]; decide)]
    rfl
  · obtain ⟨k, rfl⟩ := Nat.exists_eq_add_of_le hge
    rcases Nat.lt_or_ge snippet.length k with htail | hinside
    · have hline := line_positionAt_tail hfeeds (Nat.add_lt_add_left htail wrapperHead.length)
      refine ⟨_, _, .tail (Nat.add_lt_add_left htail _), ?_⟩
      rw [relocate_behind (by omega), hfeeds.positionAt_length]
      rfl
    · refine ⟨_, _, .inside hinside, ?_⟩
      rw [positionAt_snippet hinside (.inr hfeeds.getLast?_ne)]
      exact relocate_inside (line_positionAt snippet k).1 (hfeeds.line_le k) _

theorem check_script_of_fault {parse : Text → ParserAnswer} {snippet text : Text} {p : Position}
    (h : parse (sourceFor .script snippet) = faultAt text p) :
    check parse .script snippet = placed (description text) p.line (some (p.column : Int)) := by
  rw [check, h]
  exact faultResult_given .script snippet text p.line (some p.column)

theorem check_body_of_fault {parse : Text → ParserAnswer} {snippet text : Text} {p : Position}
    {line : Int} {column : Option Int}
    (h : parse (sourceFor .functionBody snippet) = faultAt text p)
    (hplace : relocate (lines snippet).length (lastLine snippet).length p.line
      (some (p.column : Int)) = (line, column)) :
    check parse .functionBody snippet = placed (description text) line column := by
  rw [check, h]
  show faultResult .functionBody snippet text (some (p.line : Int)) (some (p.column : Int)) = _
  rw [faultResult_given, placeIn, hplace]

/-- A fault on a line of the snippet keeps its place. -/
theorem check_body_inside {parse : Text → ParserAnswer} {snippet text : Text} {p : Position}
    (h : parse (sourceFor .functionBody snippet) = faultAt text (p.down 1)) (hpos : 1 ≤ p.line)
    (hle : p.line ≤ (lines snippet).length) :
    check parse .functionBody snippet = placed (description text) p.line (some (p.column : Int)) :=
  check_body_of_fault h (relocate_inside hpos hle _)

/-- A fault below its lines is moved to its end. -/
theorem check_body_behind {parse : Text → ParserAnswer} {snippet text : Text} {p : Position}
    (h : parse (sourceFor .functionBody snippet) = faultAt text (p.down 1))
    (hlt : (lines snippet).length < p.line) :
    check parse .functionBody snippet = placed (description text) (lines snippet).length
      (some ((lastLine snippet).length + 1)) := by
  refine check_body_of_fault h (relocate_behind ?_ _)
  show ((lines snippet).length : Int) + 1 < (p.line + 1 : Nat)
  omega

theorem writable_of_le_length {snippet : Text} (hsize : writable (snippet.length + 1) = true)
    {line : Nat} (h : line ≤ snippet.length + 1) : writable line = true :=
  have hle : (line : Int).natAbs ≤ ((snippet.length : Int) + 1).natAbs := by omega
  writable_of_le hle hsize

/-- **Relocation.**  A fault of a wrapped source at any offset is placed in the snippet: at the
    offset itself, at the end of the snippet, or on its first line; never outside it. -/
theorem check_relocates {parse : Text → ParserAnswer} {snippet text : Text} {o : Nat}
    (hfeeds : OnlyFeeds snippet)
    (hparse : parse (sourceFor .functionBody snippet) =
      faultAt text (positionAt (sourceFor .functionBody snippet) o)) :
    ∃ (line : Nat) (column : Option Nat), Carries snippet o line column ∧
      1 ≤ line ∧ line ≤ (lines snippet).length ∧
      check parse .functionBody snippet =
        placed (description text) line (column.map fun n => (n : Int)) ∧
      (writable (snippet.length + 1) = true →
        ∃ r, check parse .functionBody snippet = .ok r ∧ r.isValid = false ∧
          r.line = some (line : Int) ∧ r.column = column.map fun n => (n : Int)) := by
  obtain ⟨line, column, hcarries, hplace⟩ := exists_carries hfeeds o
  obtain ⟨hpos, hle⟩ := hcarries.line_mem hfeeds
  have hcheck := check_body_of_fault hparse hplace
  refine ⟨line, column, hcarries, hpos, hle, hcheck, fun hsize => ?_⟩
  have hcount : snippet.count '\n' ≤ snippet.length := List.count_le_length
  rw [length_lines] at hle
  rw [hcheck, placed_of_writable (writable_of_le_length hsize (by omega))]
  exact ⟨_, rfl, rfl, rfl, rfl⟩

theorem parseScript_of_fault {source : Text} {f : Fault}
    (h : readScript source = .error (.fault f)) : parseScript source = faultAnswer f := by
  rw [parseScript, h]

/-- A block that nothing closes: the reader comes to the end of the source, in the tail. -/
theorem check_relocates_unclosed :
    OnlyFeeds "x;\nif (x) \x7b" ∧
    parseScript (sourceFor .functionBody "x;\nif (x) \x7b") =
      faultAt "Line 4: Unexpected end of input"
        (positionAt (sourceFor .functionBody "x;\nif (x) \x7b") 36) ∧
    ∃ r, check parseScript .functionBody "x;\nif (x) \x7b" = .ok r ∧ r.isValid = false ∧
      r.line = some 2 ∧ r.column = some 9 := by
  have hfeeds : OnlyFeeds "x;\nif (x) \x7b" := by decide
  have hread : readScript (sourceFor .functionBody "x;\nif (x) \x7b") =
      .error (.fault ⟨.unexpectedEnd, 4, 2⟩) := by decide +kernel
  have hparse : parseScript (sourceFor .functionBody "x;\nif (x) \x7b") =
      faultAt "Line 4: Unexpected end of input"
        (positionAt (sourceFor .functionBody "x;\nif (x) \x7b") 36) :=
    parseScript_of_fault hread
  obtain ⟨line, column, hcarries, _, _, _, hresult⟩ := check_relocates hfeeds hparse
  obtain ⟨rfl, rfl⟩ := hcarries.unique (.tail (by decide))
  obtain ⟨r, hcheck, hinvalid, hline, hcolumn⟩ := hresult (by decide +kernel)
  exact ⟨hfeeds, hparse, r, hcheck, hinvalid, hline, hcolumn⟩

/-! ### The two ways of reading -/

/-- **Where the modes agree.**  A fault at the same offset of a snippet, met in the snippet itself
    or inside the wrapped source, has the same place in both verdicts exactly when its line is not
    below the lines that line feeds make.  Below them the wrapped snippet is faulted at its end. -/
theorem modes_agree_iff {parse : Text → ParserAnswer} {snippet bodyText scriptText : Text}
    {o : Nat} (hsize : writable (snippet.length + 1) = true) (ho : o < snippet.length)
    (hbody : parse (sourceFor .functionBody snippet) = faultAt bodyText
      (positionAt (sourceFor .functionBody snippet) (wrapperHead.length + o)))
    (hscript : parse (sourceFor .script snippet) = faultAt scriptText (positionAt snippet o)) :
    ∃ body script, check parse .functionBody snippet = .ok body ∧
      check parse .script snippet = .ok script ∧
      script.line = some ((positionAt snippet o).line : Int) ∧
      script.column = some ((positionAt snippet o).column : Int) ∧
      (body.line = script.line ∧ body.column = script.column ↔
        (positionAt snippet o).line ≤ snippet.count '\n' + 1) ∧
      (snippet.count '\n' + 1 < (positionAt snippet o).line →
        body.line = some ((snippet.count '\n' + 1 : Nat) : Int) ∧
          body.column = some (((lastLine snippet).length + 1 : Nat) : Int)) := by
  obtain ⟨hpos, hle⟩ := line_positionAt snippet o
  have hcount : snippet.count '\n' ≤ snippet.length := List.count_le_length
  have hlines := length_lines snippet
  rw [positionAt_snippet (Nat.le_of_lt ho) (.inl ho)] at hbody
  have hscript := check_script_of_fault hscript
  rw [placed_of_writable (writable_of_le_length hsize hle)] at hscript
  -- the two differ where the parser counts more lines than there are line feeds
  rcases Nat.lt_or_ge (lines snippet).length (positionAt snippet o).line with hbelow | hin
  · -- The parser has counted a line end that is no line feed.
    have hbody := check_body_behind hbody hbelow
    rw [placed_of_writable (writable_of_le_length hsize (by omega))] at hbody
    refine ⟨_, _, hbody, hscript, rfl, rfl, ⟨?_, ?_⟩, fun _ => ⟨?_, rfl⟩⟩
    · rintro ⟨hline, _⟩
      have hline : ((lines snippet).length : Int) = (positionAt snippet o).line :=
        Option.some.inj hline
      omega
    · intro hle
      omega
    · rw [hlines]
  · have hbody := check_body_inside hbody hpos hin
    rw [placed_of_writable (writable_of_le_length hsize hle)] at hbody
    rw [hlines] at hin
    refine ⟨_, _, hbody, hscript, rfl, rfl, ⟨fun _ => hin, fun _ => ⟨rfl, rfl⟩⟩, ?_⟩
    intro hlt
    omega

/-- A carriage return with its line feed is one line end to both. -/
theorem modes_agree_pair :
    parseScript (sourceFor .functionBody "\r\n)") = faultAt "Line 3: Unexpected token )"
      (positionAt (sourceFor .functionBody "\r\n)") (wrapperHead.length + 2)) ∧
    parseScript (sourceFor .script "\r\n)") =
      faultAt "Line 2: Unexpected token )" (positionAt "\r\n)" 2) ∧
    ∃ body script, check parseScript .functionBody "\r\n)" = .ok body ∧
      check parseScript .script "\r\n)" = .ok script ∧
      body.line = script.line ∧ body.column = script.column := by
  have hreadBody : readScript (sourceFor .functionBody "\r\n)") =
      .error (.fault ⟨.unexpectedToken ")", 3, 1⟩) := by decide +kernel
  have hreadScript : readScript (sourceFor .script "\r\n)") =
      .error (.fault ⟨.unexpectedToken ")", 2, 1⟩) := by decide +kernel
  have hbody : parseScript (sourceFor .functionBody "\r\n)") = faultAt "Line 3: Unexpected token )"
      (positionAt (sourceFor .functionBody "\r\n)") (wrapperHead.length + 2)) :=
    parseScript_of_fault hreadBody
  have hscript : parseScript (sourceFor .script "\r\n)") =
      faultAt "Line 2: Unexpected token )" (positionAt "\r\n)" 2) :=
    parseScript_of_fault hreadScript
  obtain ⟨body, script, hcheckBody, hcheckScript, _, _, hagree, _⟩ :=
    modes_agree_iff (by decide +kernel) (by decide) hbody hscript
  obtain ⟨hline, hcolumn⟩ := hagree.mpr (by decide)
  exact ⟨hbody, hscript, body, script, hcheckBody, hcheckScript, hline, hcolumn⟩

/-- A carriage return by itself ends a line for the parser only, so a fault behind it is moved to
    the end of the snippet. -/
theorem lone_return_parts_modes :
    parseScript (sourceFor .functionBody "\r)") = faultAt "Line 3: Unexpected token )"
      (positionAt (sourceFor .functionBody "\r)") (wrapperHead.length + 1)) ∧
    parseScript (sourceFor .script "\r)") =
      faultAt "Line 2: Unexpected token )" (positionAt "\r)" 1) ∧
    check parseScript .functionBody "\r)" =
      .ok ⟨false, "Line 1: Unexpected token )", some 1, some 3⟩ ∧
    check parseScript .script "\r)" =
      .ok ⟨false, "Line 2: Unexpected token )", some 2, some 1⟩ := by
  have hreadBody : readScript (sourceFor .functionBody "\r)") =
      .error (.fault ⟨.unexpectedToken ")", 3, 1⟩) := by decide +kernel
  have hreadScript : readScript (sourceFor .script "\r)") =
      .error (.fault ⟨.unexpectedToken ")", 2, 1⟩) := by decide +kernel
  have hbody : parseScript (sourceFor .functionBody "\r)") = faultAt "Line 3: Unexpected token )"
      (positionAt (sourceFor .functionBody "\r)") (wrapperHead.length + 1)) :=
    parseScript_of_fault hreadBody
  have hscript : parseScript (sourceFor .script "\r)") =
      faultAt "Line 2: Unexpected token )" (positionAt "\r)" 1) :=
    parseScript_of_fault hreadScript
  refine ⟨hbody, hscript, ?_, ?_⟩
  · rw [check_body_of_fault hbody (relocate_behind (by decide) _),
      placed_of_writable (by decide +kernel)]
    rfl
  · rw [check_script_of_fault hscript, placed_of_writable (by decide +kernel)]
    rfl

end ScriptDiagnosis.SyntaxCheck
