/-
  ScriptDiagnosis/Proofs/CommandLine/Printed.lean
  ===============================================
  **What is printed as JSON is read back.**  With JSON asked for, a run prints nothing, or one
  verdict, or one merged diagnosis (`stdout_runCheck`): a document with a line feed behind it,
  verdicts held to ASCII and diagnoses in the characters that they have.  The decoder for replies
  reads either as the object that was written, which has all the fields under their names
  (`Shows`); so two different ones are never printed alike.
-/
import ScriptDiagnosis.CommandLine.Run
import ScriptDiagnosis.Proofs.Json.Writing
import ScriptDiagnosis.Proofs.Suggestion.Segmentation

namespace ScriptDiagnosis.CommandLine
open Text Json SyntaxCheck
open Provider (Contact)

/-! ### Fields that may be absent -/

/-- Line and column, where they are there, have at most 4300 digits. -/
structure Placed (line column : Option Int) : Prop where
  line : ∀ n, line = some n → n.natAbs < 10 ^ maxDigits
  column : ∀ n, column = some n → n.natAbs < 10 ^ maxDigits

theorem writable_ofInt? (n : Option Int) : Writable (ofInt? n) := by
  cases n with
  | none => exact .null
  | some n => exact .integer n

theorem writable_ofText? (t : Option Text) : Writable (ofText? t) := by
  cases t with
  | none => exact .null
  | some t => exact .string t

theorem fits_ofInt? {n : Option Int} (h : ∀ k, n = some k → k.natAbs < 10 ^ maxDigits)
    (depth : Nat) : Fits depth (ofInt? n) := by
  cases n with
  | none => cases depth <;> trivial
  | some n =>
    have hn := h n rfl
    cases depth <;> exact hn

theorem fits_ofText? (t : Option Text) (depth : Nat) : Fits depth (ofText? t) := by
  cases t <;> cases depth <;> trivial

theorem ofInt?_injective : Function.Injective ofInt? := by
  intro n k h
  cases n <;> cases k <;> cases h <;> rfl

theorem ofText?_injective : Function.Injective ofText? := by
  intro t u h
  cases t <;> cases u <;> cases h <;> rfl

/-! ### Diagnoses -/

/-- A diagnosis as JSON can be written. -/
theorem writable_json (d : Diagnosis) : Writable d.json := by
  have hblock : ∀ b, Writable (Diagnosis.blockJson b) := by
    intro b
    refine .object ?_
    simp only [List.forall_mem_cons]
    exact ⟨.string _, .string _, nofun⟩
  have hblocks : Writable (.array (d.annotations.map Diagnosis.blockJson)) := by
    refine .array fun v hv => ?_
    obtain ⟨b, _, rfl⟩ := List.mem_map.mp hv
    exact hblock b
  refine .object ?_
  simp only [List.forall_mem_cons]
  exact ⟨.bool _, .string _, .string _, .string _, writable_ofInt? _, writable_ofInt? _,
    writable_ofText? _, writable_ofText? _, writable_ofText? _, writable_ofText? _, hblocks, nofun⟩

/-- It meets no limit of the decoder, if its line and column have few enough digits. -/
theorem fits_json {d : Diagnosis} (h : Placed d.line d.column) : Fits maxDepth d.json := by
  have hblocks : ∀ bs : List Suggestion.Block,
      FitItems (maxDepth - 2) (bs.map Diagnosis.blockJson) := by
    intro bs
    induction bs with
    | nil => trivial
    | cons b bs ih => exact ⟨⟨trivial, trivial, trivial⟩, ih⟩
  show FitMembers (maxDepth - 1) _
  rw [fitMembers_iff]
  simp only [List.forall_mem_cons]
  exact ⟨trivial, trivial, trivial, trivial, fits_ofInt? h.line _, fits_ofInt? h.column _,
    fits_ofText? _ _, fits_ofText? _ _, fits_ofText? _ _, fits_ofText? _ _, hblocks _, nofun⟩

/-- Two diagnoses with the same JSON are one. -/
theorem json_injective : Function.Injective Diagnosis.json := by
  have hkind : Function.Injective DiagnosisKind.name := by
    intro k l
    cases k <;> cases l <;> decide
  have hseverity : Function.Injective Severity.name := by
    intro k l
    cases k <;> cases l <;> decide
  intro d d' h
  simp only [Diagnosis.json, Json.object.injEq, List.cons.injEq, Prod.mk.injEq, true_and,
    Json.bool.injEq, Json.string.injEq] at h
  obtain ⟨hvalid, hmessage, hkindName, hseverityName, hline, hcolumn, hsuggestion, hcode,
    hexplanation, htips, _⟩ := h
  cases d
  cases d'
  congr
  · exact hkind hkindName
  · exact hseverity hseverityName
  · exact ofInt?_injective hline
  · exact ofInt?_injective hcolumn
  · exact ofText?_injective hsuggestion
  · exact ofText?_injective hcode
  · exact ofText?_injective hexplanation
  · exact ofText?_injective htips

/-- The members that a diagnosis is printed with: its fields, kind and severity by their names, and
    the blocks of its suggestion. -/
structure Shows (d : Diagnosis) (ms : List (Text × Json)) : Prop where
  names : ms.map Prod.fst = ["is_valid", "message", "kind", "severity", "line", "column",
    "suggestion_text", "fixed_code", "explanation", "performance_tips", "annotations"]
  isValid : lastOf "is_valid" ms = some (.bool d.isValid)
  message : lastOf "message" ms = some (.string d.message)
  kind : lastOf "kind" ms = some (.string d.kind.name)
  severity : lastOf "severity" ms = some (.string d.severity.name)
  line : lastOf "line" ms = some (ofInt? d.line)
  column : lastOf "column" ms = some (ofInt? d.column)
  suggestionText : lastOf "suggestion_text" ms = some (ofText? d.suggestionText)
  fixedCode : lastOf "fixed_code" ms = some (ofText? d.fixedCode)
  explanation : lastOf "explanation" ms = some (ofText? d.explanation)
  performanceTips : lastOf "performance_tips" ms = some (ofText? d.performanceTips)
  annotations : ∃ bs, Suggestion.blocks? (d.suggestionText.getD []) = some bs ∧
    lastOf "annotations" ms = some (.array (bs.map fun b =>
      .object [("label", .string b.label), ("content", .string b.content)]))

theorem exists_shows (d : Diagnosis) : ∃ ms, d.json = .object ms ∧ Shows d ms := by
  have hwritten := (Suggestion.isCut_cut (d.suggestionText.getD [])).isWritten
  have hblocks := Suggestion.label_pieces hwritten
  refine ⟨_, rfl, rfl, rfl, rfl, rfl, rfl, rfl, rfl, rfl, rfl, rfl, rfl, _, hblocks, ?_⟩
  have hannotations : d.annotations = (Suggestion.cut (d.suggestionText.getD [])).blocks := by
    rw [Diagnosis.annotations, Suggestion.blocks, Suggestion.blocks?, hblocks, Option.getD_some]
  rw [← hannotations]
  rfl

/-! ### Verdicts -/

theorem verdict_writable (r : SyntaxResult) : Writable r.json := by
  refine .object ?_
  simp only [List.forall_mem_cons]
  exact ⟨.bool _, .string _, writable_ofInt? _, writable_ofInt? _, nofun⟩

theorem verdict_fits {r : SyntaxResult} (h : Placed r.line r.column) : Fits maxDepth r.json := by
  show FitMembers (maxDepth - 1) _
  rw [fitMembers_iff]
  simp only [List.forall_mem_cons]
  exact ⟨trivial, trivial, fits_ofInt? h.line _, fits_ofInt? h.column _, nofun⟩

theorem verdict_injective : Function.Injective SyntaxResult.json := by
  intro r r' h
  simp only [SyntaxResult.json, Json.object.injEq, List.cons.injEq, Prod.mk.injEq, true_and,
    Json.bool.injEq, Json.string.injEq] at h
  obtain ⟨hvalid, hmessage, hline, hcolumn, _⟩ := h
  cases r
  cases r'
  congr
  · exact ofInt?_injective hline
  · exact ofInt?_injective hcolumn

/-! ### In ASCII -/

def IsAscii (t : Text) : Prop := ∀ c ∈ t, c.toNat < 0x80

instance (t : Text) : Decidable (IsAscii t) := List.decidableBAll _ t

theorem isAscii_nil : IsAscii [] := List.forall_mem_nil _

theorem isAscii_append {t u : Text} (ht : IsAscii t) (hu : IsAscii u) : IsAscii (t ++ u) := by
  intro c hc
  rcases List.mem_append.mp hc with hc | hc
  · exact ht c hc
  · exact hu c hc

theorem isAscii_cons {c : Char} {t : Text} (hc : c.toNat < 0x80) (ht : IsAscii t) :
    IsAscii (c :: t) :=
  List.forall_mem_cons.mpr ⟨hc, ht⟩

theorem isAscii_codeEscape (n : Nat) : IsAscii (codeEscape n) := by
  have hdigit : ∀ d, d < 16 → (hexDigit d).toNat < 0x80 := by decide
  have hhex : ∀ digits n, IsAscii (hex digits n) := by
    intro digits
    induction digits with
    | zero => exact fun _ => isAscii_nil
    | succ digits ih =>
      exact fun n => isAscii_append (ih _)
        (isAscii_cons (hdigit _ (Nat.mod_lt n (by decide))) isAscii_nil)
  exact isAscii_cons (by decide) (isAscii_cons (by decide) (hhex 4 n))

theorem isAscii_ite {p : Prop} [Decidable p] {t u : Text} (ht : IsAscii t)
    (hu : ¬ p → IsAscii u) : IsAscii (if p then t else u) := by
  by_cases hp : p
  · rwa [if_pos hp]
  · rw [if_neg hp]
    exact hu hp

/-- A character is written in ASCII: as itself, or escaped. -/
theorem isAscii_writeChar (c : Char) : IsAscii (writeChar true c) := by
  rw [writeChar]
  -- the characters that have a letter, then those that are written by their codes
  refine isAscii_ite (by decide) fun _ => isAscii_ite (by decide) fun _ =>
    isAscii_ite (by decide) fun _ => isAscii_ite (by decide) fun _ =>
    isAscii_ite (by decide) fun _ => isAscii_ite (by decide) fun _ =>
    isAscii_ite (by decide) fun _ => isAscii_ite (isAscii_codeEscape _) fun _ =>
    isAscii_ite ?_ fun hplain => ?_
  · exact isAscii_ite (isAscii_codeEscape _) fun _ =>
      isAscii_append (isAscii_codeEscape _) (isAscii_codeEscape _)
  · rw [Bool.true_and, decide_eq_true_eq] at hplain
    exact isAscii_cons (by omega) isAscii_nil

theorem isAscii_writeString (t : Text) : IsAscii (writeString true t) := by
  have hbody : IsAscii (t.flatMap (writeChar true)) := by
    intro c hc
    obtain ⟨x, _, hx⟩ := List.mem_flatMap.mp hc
    exact isAscii_writeChar x c hx
  exact isAscii_append (isAscii_cons (by decide) hbody) (by decide)

theorem isAscii_ofInt (n : Int) : IsAscii (ofInt n) := by
  have hdigits : IsAscii (Nat.toDigits 10 n.natAbs) := by
    intro c hc
    have hdigit := Nat.isDigit_of_mem_toDigits (by decide) (by decide) hc
    simp only [Char.isDigit, Bool.and_eq_true, decide_eq_true_eq] at hdigit
    exact Nat.lt_of_le_of_lt hdigit.2 (by decide)
  rw [ofInt]
  split
  · exact isAscii_cons (by decide) hdigits
  · exact hdigits

theorem isAscii_newLine (level : Nat) : IsAscii (newLine level) := by
  refine isAscii_cons (by decide) ?_
  intro c hc
  rw [List.eq_of_mem_replicate hc]
  decide

theorem isAscii_member {v : Json} {level : Nat} (k : Text)
    (h : IsAscii (write verdictStyle level v)) {rest : Text} (hrest : IsAscii rest) :
    IsAscii (writeString true k ++ ':' :: ' ' :: write verdictStyle level v ++ rest) :=
  isAscii_append (isAscii_append (isAscii_writeString k)
    (isAscii_cons (by decide) (isAscii_cons (by decide) h))) hrest

theorem isAscii_writeMembers {ms : List (Text × Json)} {level : Nat}
    (h : ∀ m ∈ ms, IsAscii (write verdictStyle level m.2)) :
    IsAscii (writeMembers verdictStyle level ms) := by
  induction ms with
  | nil => exact isAscii_nil
  | cons m ms ih =>
    have hbetween : IsAscii (between verdictStyle level) :=
      isAscii_cons (by decide) (isAscii_newLine level)
    have hrest := ih fun u hu => h u (List.mem_cons_of_mem m hu)
    have hmember := isAscii_append hbetween (isAscii_member m.1 (h m (.head _)) hrest)
    rw [writeMembers]
    simp only [List.append_assoc] at hmember ⊢
    exact hmember

theorem isAscii_encode_object {ms : List (Text × Json)}
    (h : ∀ m ∈ ms, IsAscii (write verdictStyle 1 m.2)) :
    IsAscii (encode verdictStyle (.object ms)) := by
  cases ms with
  | nil => decide
  | cons m ms =>
    have hclose : IsAscii (edge verdictStyle 0 ++ ['\x7d']) := by decide
    have hrest := isAscii_writeMembers fun u hu => h u (List.mem_cons_of_mem m hu)
    have hmember := isAscii_member m.1 (h m (.head _)) (isAscii_append hrest hclose)
    have hopen : IsAscii ('\x7b' :: edge verdictStyle 1) := by decide
    have hobject := isAscii_append hopen hmember
    rw [encode, write]
    simp only [List.append_assoc] at hobject ⊢
    exact hobject

theorem isAscii_verdict (r : SyntaxResult) : IsAscii (encode verdictStyle r.json) := by
  have hnumber : ∀ n, IsAscii (write verdictStyle 1 (ofInt? n)) := by
    intro n
    cases n with
    | none => decide
    | some n => exact isAscii_ofInt n
  have hbool : ∀ b, IsAscii (write verdictStyle 1 (.bool b)) := by decide
  refine isAscii_encode_object ?_
  simp only [List.forall_mem_cons]
  exact ⟨hbool _, isAscii_writeString _, hnumber _, hnumber _, nofun⟩

/-! ### What a run prints -/

/-- A diagnosis is merged from the verdict and from what the review came to. -/
theorem exists_merge {mode : Mode} {answer : ParserAnswer} {c : Config}
    {reviewer : Review.Reviewer} {snippet : Text} {d : Diagnosis}
    (h : (Diagnosis.diagnose mode answer c reviewer snippet).result = .ok d) :
    ∃ s, verdict mode snippet answer = .ok s ∧ ∃ reviewed, d = Diagnosis.merge s reviewed := by
  unfold Diagnosis.diagnose at h
  split at h
  · cases h
  · next s hlogged =>
    unfold loggedVerdict at hlogged
    split at hlogged
    · next r hverdict =>
      cases hlogged
      dsimp only [Diagnosis.conclude] at h
      split at h
      · cases h
      · cases h
        exact ⟨s, hverdict, _, rfl⟩
    · cases hlogged

/-- Nothing is printed, and the status, if there is one, says that there is nothing to check. -/
structure PrintsNothing (r : Outcome) : Prop where
  stdout : r.stdout = []
  status : ∀ status, r.ending = .exit status → status = statusUsage

/-- What a check of the syntax of a text alone prints is its verdict on the text. -/
def PrintsVerdict (parse : Text → ParserAnswer) (o : CheckOptions) (t : Text) (r : Outcome) :
    Prop :=
  ∃ s, check parse (modeOf o) t = .ok s ∧ r.stdout = verdictText o s

/-- What a check with a review prints is the diagnosis that it came to: its verdict on the text,
    merged with what the review came to. -/
def PrintsDiagnosis (parse : Text → ParserAnswer) (w : World) (o : CheckOptions) (t : Text)
    (r : Outcome) : Prop :=
  ∃ c d, configOf w o = .ok c ∧
    (Diagnosis.diagnose (modeOf o) (parse (sourceFor (modeOf o) t)) c
      ((Contact.ofConfig c).reviewer w.client) t).result = .ok d ∧
    (∃ s, check parse (modeOf o) t = .ok s ∧ ∃ reviewed, d = Diagnosis.merge s reviewed) ∧
    r.stdout = diagnosisText o d

/-- What is printed is the text of the diagnosis that the run has computed. -/
theorem printed_eq_ok {o : CheckOptions} {d : Diagnosis} {marked : Except Failure Diagnosis}
    {text : Text} (h : printed o d marked = .ok text) : text = diagnosisText o d := by
  unfold printed at h
  split at h
  · exact (Except.ok.inj h).symm
  · split at h
    · cases h
    · exact (Except.ok.inj h).symm

theorem prints_runSyntaxOnly (parse : Text → ParserAnswer) (o : CheckOptions) (t : Text) :
    PrintsNothing (runSyntaxOnly parse o t) ∨
      PrintsVerdict parse o t (runSyntaxOnly parse o t) := by
  cases hcheck : check parse (modeOf o) t with
  | error f =>
    left
    rw [runSyntaxOnly, loggedVerdict, show verdict _ _ _ = _ from hcheck]
    exact ⟨rfl, nofun⟩
  | ok s =>
    refine .inr ⟨s, hcheck, ?_⟩
    rw [runSyntaxOnly, loggedVerdict, show verdict _ _ _ = _ from hcheck]

/-- A check with a review prints its own diagnosis, or nothing. -/
theorem prints_runReviewed (parse : Text → ParserAnswer) (w : World) (o : CheckOptions)
    (t : Text) :
    PrintsNothing (runReviewed parse w o t) ∨
      PrintsDiagnosis parse w o t (runReviewed parse w o t) := by
  cases hconfig : configOf w o with
  | error f =>
    left
    rw [runReviewed, hconfig]
    exact ⟨rfl, nofun⟩
  | ok c =>
    rw [runReviewed, hconfig]
    dsimp only
    rw [reported]
    split
    · exact .inl ⟨rfl, nofun⟩
    · next d hresult =>
      split
      · exact .inl ⟨rfl, nofun⟩
      · next text htext =>
        exact .inr ⟨c, d, hconfig, hresult, exists_merge hresult, printed_eq_ok htext⟩

/-- **Every check prints what it has computed, or nothing.** -/
theorem prints_runCheck (parse : Text → ParserAnswer) (w : World) (o : CheckOptions) :
    PrintsNothing (runCheck parse w o) ∨ ∃ t, readSnippet w o = .ok t ∧
      if o.syntaxOnly then PrintsVerdict parse o t (runCheck parse w o)
      else PrintsDiagnosis parse w o t (runCheck parse w o) := by
  unfold runCheck
  split
  · left
    split
    · exact ⟨rfl, fun _ h => (Ending.exit.inj h).symm⟩
    · exact ⟨rfl, nofun⟩
  · next t hread =>
    split
    · exact .inl ⟨rfl, fun _ h => (Ending.exit.inj h).symm⟩
    · split
      · exact (prints_runSyntaxOnly parse o t).imp_right fun h => ⟨t, hread, h⟩
      · exact (prints_runReviewed parse w o t).imp_right fun h => ⟨t, hread, h⟩

/-! ### What is read back -/

/-- What a reader of the output relies on. -/
structure Faithful (o : CheckOptions) : Prop where
  /-- Nothing is printed but the verdict or the diagnosis that the run itself came to. -/
  printed : ∀ parse w, PrintsNothing (runCheck parse w o) ∨ ∃ t, readSnippet w o = .ok t ∧
    if o.syntaxOnly then PrintsVerdict parse o t (runCheck parse w o)
    else PrintsDiagnosis parse w o t (runCheck parse w o)
  diagnosis : ∀ d : Diagnosis, Placed d.line d.column → ∃ ms,
    decode (diagnosisText o d) = .ok (.object ms) ∧ d.json = .object ms ∧ Shows d ms
  verdict : ∀ r : SyntaxResult, Placed r.line r.column →
    decode (verdictText o r) = .ok (.object [("is_valid", .bool r.isValid),
      ("message", .string r.message), ("line", ofInt? r.line), ("column", ofInt? r.column)])
  /-- A verdict is held to ASCII. -/
  ascii : ∀ r, IsAscii (verdictText o r)
  diagnosesDiffer : ∀ d d' : Diagnosis, Placed d.line d.column → Placed d'.line d'.column →
    diagnosisText o d = diagnosisText o d' → d = d'
  verdictsDiffer : ∀ r r' : SyntaxResult, Placed r.line r.column → Placed r'.line r'.column →
    verdictText o r = verdictText o r' → r = r'

theorem decode_diagnosisText {o : CheckOptions} (hjson : o.json = true) {d : Diagnosis}
    (h : Placed d.line d.column) : decode (diagnosisText o d) = .ok d.json := by
  rw [diagnosisText, if_pos hjson]
  exact decode_encode _ (writable_json d) (fits_json h) (by decide)

theorem decode_verdictText {o : CheckOptions} (hjson : o.json = true) {r : SyntaxResult}
    (h : Placed r.line r.column) : decode (verdictText o r) = .ok r.json := by
  rw [verdictText, if_pos hjson]
  exact decode_encode _ (verdict_writable r) (verdict_fits h) (by decide)

/-- **What is printed as JSON is read back** with all its fields, so that no two diagnoses and no
    two verdicts are printed alike. -/
theorem json_output_faithful {o : CheckOptions} (hjson : o.json = true) : Faithful o where
  printed := fun parse w => prints_runCheck parse w o
  diagnosis := by
    intro d h
    obtain ⟨ms, hms, hshows⟩ := exists_shows d
    exact ⟨ms, hms ▸ decode_diagnosisText hjson h, hms, hshows⟩
  verdict := fun r h => decode_verdictText hjson h
  ascii := by
    intro r
    rw [verdictText, if_pos hjson]
    exact isAscii_append (isAscii_verdict r) (by decide)
  diagnosesDiffer := by
    intro d d' h h' heq
    have hread := decode_diagnosisText hjson h
    rw [heq, decode_diagnosisText hjson h'] at hread
    exact (json_injective (Except.ok.inj hread)).symm
  verdictsDiffer := by
    intro r r' h h' heq
    have hread := decode_verdictText hjson h
    rw [heq, decode_verdictText hjson h'] at hread
    exact (verdict_injective (Except.ok.inj hread)).symm

/-- Quotes, a backslash, a line feed, a control character, one beyond ASCII and one beyond sixteen
    bits, and a suggestion in two blocks. -/
def escaped : Diagnosis :=
  { isValid := false, message := "\"\\\n\x01é😀", kind := .syntactic, severity := .error,
    line := some (-3), suggestionText := some "Line 1: a\nLine 2: b" }

theorem json_output_faithful_escaped :
    ({ json := true } : CheckOptions).json = true ∧ Placed escaped.line escaped.column ∧
      ∃ ms, decode (diagnosisText { json := true } escaped) = .ok (.object ms) ∧
        escaped.json = .object ms ∧ Shows escaped ms := by
  have hthree : 3 < 10 ^ maxDigits :=
    Nat.lt_of_lt_of_le (show 3 < 10 ^ 1 by decide) (Nat.pow_le_pow_right (by decide) (by decide))
  have hplaced : Placed escaped.line escaped.column := by
    refine ⟨?_, nofun⟩
    intro n hn
    cases hn
    exact hthree
  exact ⟨rfl, hplaced, (json_output_faithful rfl).diagnosis escaped hplaced⟩

end ScriptDiagnosis.CommandLine
