/-
  ScriptDiagnosis/Proofs/CommandLine/Input.lean
  =============================================
  Which input ends a check with a status.  Bytes that cannot be had, since the operating system
  fails, end it with the status for nothing to check, and so does a blank text.  Bytes that are no
  UTF-8 do not: the failure to read them as a text is of another family than those of the operating
  system, and nobody handles it.  A check that gets verdicts and settings ends with a status exactly
  if its input is UTF-8 or cannot be had, and no half of a surrogate pair would have to be printed
  in the end (`input_ends_in_status_iff`).
-/
import ScriptDiagnosis.Proofs.CommandLine.Status
import ScriptDiagnosis.Proofs.Text.Decoding

namespace ScriptDiagnosis.CommandLine
open Text SyntaxCheck Provider Review

/-! ### The input -/

/-- The bytes that a check reads: those of its file, or of standard input. -/
def inputBytes (w : World) (o : CheckOptions) : Except Failure (List UInt8) :=
  match fileOf o with
  | none => .ok w.stdin
  | some p => if p.contains '\x00' then .error nulInPath else w.read p

/-- What a check relies on besides its input: there is a verdict on every text that is not blank,
    and a review has settings.  Where the input cannot be had, the operating system says why. -/
structure Supplied (parse : Text → ParserAnswer) (w : World) (o : CheckOptions) : Prop where
  reading : ∀ f, inputBytes w o = .error f → f.kind.isA .system = true
  checking : ∀ t, readSnippet w o = .ok t → isBlankText t = false →
    ∃ r, check parse (modeOf o) t = .ok r
  settings : o.syntaxOnly = false → ∃ c, Config.ofEnvironment w.environment = .ok c

/-- The run ends with one of the three statuses. -/
def EndsInStatus (r : Outcome) : Prop := ∃ status ≤ 2, r.ending = .exit status

/-- Nothing is printed, and nobody is asked. -/
structure Silent (r : Outcome) : Prop where
  stdout : r.stdout = []
  asksNobody : AsksNobody r

/-- The input is reviewed, and the reply puts half of a surrogate pair into the diagnosis. -/
def EndsInHalf (parse : Text → ParserAnswer) (w : World) (o : CheckOptions) : Prop :=
  o.syntaxOnly = false ∧ HasKey w.environment ∧ ∃ t r c reply, Checks parse w o t r ∧
    Config.ofEnvironment w.environment = .ok c ∧ RepliesWithin c.maxAttempts w.client reply ∧
    ShowsHalf r reply

/-- How a check ends, by its input. -/
structure InputLaws (parse : Text → ParserAnswer) (w : World) (o : CheckOptions) (r : Outcome) :
    Prop where
  /-- With clients whose failures can all be handled, nothing but the input and such a reply
      decides whether there is a status. -/
  status : Manageable w.client →
    (EndsInStatus r ↔
      (∀ bytes, inputBytes w o = .ok bytes → IsUtf8 bytes) ∧ ¬ EndsInHalf parse w o)
  unreadable : ∀ f, inputBytes w o = .error f →
    r.ending = .exit 2 ∧ r.logs = written o [unreadableRecord o f] ∧ Silent r
  undecodable : ∀ bytes, inputBytes w o = .ok bytes → ¬ IsUtf8 bytes →
    ∃ fault, decodeUtf8 bytes = .error fault ∧ r.ending = .raised fault.failure ∧ r.logs = [] ∧
      Silent r
  /-- No other failure that can be handled leaves a check. -/
  escapes : ∀ f, r.failure? = some f → f.kind.handled = true →
    (∃ bytes fault, inputBytes w o = .ok bytes ∧ decodeUtf8 bytes = .error fault ∧
      f = fault.failure) ∨ (r.ending = .unprinted ∧ f.kind = .unencodableText)

variable {parse : Text → ParserAnswer} {w : World} {o : CheckOptions}

theorem readSnippet_eq (w : World) (o : CheckOptions) :
    readSnippet w o = inputBytes w o >>= textOfBytes := by
  rw [readSnippet, inputBytes]
  cases fileOf o with
  | none => rfl
  | some p =>
    dsimp only
    split <;> rfl

theorem textOfBytes_eq_error_iff {bytes : List UInt8} {f : Failure} :
    textOfBytes bytes = .error f ↔
      ∃ fault, decodeUtf8 bytes = .error fault ∧ f = fault.failure := by
  rw [textOfBytes]
  cases decodeUtf8 bytes with
  | ok t => simp
  | error fault => simp [eq_comm]

theorem exists_textOfBytes {bytes : List UInt8} (h : IsUtf8 bytes) :
    ∃ t, textOfBytes bytes = .ok t := by
  obtain ⟨t, ht⟩ := isUtf8_iff.mp h
  exact ⟨unifyLineEnds t, by rw [textOfBytes, ht]⟩

/-! ### What a check comes to -/

/-- Input that cannot be had ends the check with status two, and nobody is asked. -/
theorem runCheck_of_unreadable {f : Failure} (hinput : inputBytes w o = .error f)
    (hsystem : f.kind.isA .system = true) :
    (runCheck parse w o).ending = .exit 2 ∧
      (runCheck parse w o).logs = written o [unreadableRecord o f] ∧
      Silent (runCheck parse w o) := by
  have hread : readSnippet w o = .error f := by
    rw [readSnippet_eq, hinput]
    rfl
  rw [runCheck, hread]
  dsimp only
  rw [if_pos hsystem]
  exact ⟨rfl, rfl, rfl, rfl, rfl⟩

/-- Input that is not UTF-8 leaves the check as a failure. -/
theorem runCheck_of_undecodable {bytes : List UInt8} {fault : Utf8Fault}
    (hinput : inputBytes w o = .ok bytes) (hfault : decodeUtf8 bytes = .error fault) :
    (runCheck parse w o).ending = .raised fault.failure ∧ (runCheck parse w o).logs = [] ∧
      Silent (runCheck parse w o) := by
  have hread : readSnippet w o = .error fault.failure := by
    rw [readSnippet_eq, hinput]
    exact textOfBytes_eq_error_iff.mpr ⟨fault, hfault, rfl⟩
  -- it is a failure of a value, so that the program does not take it for an unreadable file
  have hkind : fault.failure.kind.isA .system = false := rfl
  rw [runCheck, hread]
  dsimp only
  rw [if_neg (Bool.eq_false_iff.mp hkind)]
  exact ⟨rfl, rfl, rfl, rfl, rfl⟩

/-- Only half of a surrogate pair keeps a diagnosis from being printed. -/
theorem printed_error_kind {d : Diagnosis} {marked : Except Failure Diagnosis} {f : Failure}
    (h : printed o d marked = .error f) : f.kind = .unencodableText := by
  unfold printed at h
  split at h
  · cases h
  · split at h
    · cases h
      rfl
    · cases h

/-- A failure that leaves a review cannot be handled, or it is that of printing. -/
theorem runReviewed_fails {c : Config} {t : Text} {r : SyntaxResult} {f : Failure}
    (hcheck : check parse (modeOf o) t = .ok r) (hsettings : configOf w o = .ok c)
    (h : (runReviewed parse w o t).failure? = some f) :
    f.kind.handled = false ∨
      ((runReviewed parse w o t).ending = .unprinted ∧ f.kind = .unencodableText) := by
  rw [runReviewed_eq hsettings, reported] at h ⊢
  split at h
  · next g hresult =>
    cases h
    exact .inl (Diagnosis.not_handled_of_diagnose hcheck hresult)
  · next d hresult =>
    split at h
    · next g hprinted =>
      cases h
      exact .inr ⟨rfl, printed_error_kind hprinted⟩
    · cases h

/-- What becomes of the input of a check. -/
inductive Becomes (parse : Text → ParserAnswer) (w : World) (o : CheckOptions) : Prop
  | unreadable {f : Failure} (hinput : inputBytes w o = .error f)
    (hsystem : f.kind.isA .system = true)
  | undecodable {bytes : List UInt8} {fault : Utf8Fault} (hinput : inputBytes w o = .ok bytes)
    (hfault : decodeUtf8 bytes = .error fault)
  | blank {bytes : List UInt8} {t : Text} (hinput : inputBytes w o = .ok bytes)
    (hutf8 : IsUtf8 bytes) (hread : readSnippet w o = .ok t) (hblank : isBlankText t = true)
  | checked {bytes : List UInt8} {t : Text} {r : SyntaxResult}
    (hinput : inputBytes w o = .ok bytes) (hutf8 : IsUtf8 bytes) (h : Checks parse w o t r)

/-- What becomes of the input: it cannot be had, or not decoded, or it is blank, or it is
    checked. -/
theorem Supplied.becomes (h : Supplied parse w o) : Becomes parse w o := by
  cases hinput : inputBytes w o with
  | error f => exact .unreadable hinput (h.reading f hinput)
  | ok bytes =>
    by_cases hutf8 : IsUtf8 bytes
    · obtain ⟨t, ht⟩ := exists_textOfBytes hutf8
      have hread : readSnippet w o = .ok t := by
        rw [readSnippet_eq, hinput]
        exact ht
      cases hblank : isBlankText t with
      | true => exact .blank hinput hutf8 hread hblank
      | false =>
        obtain ⟨r, hcheck⟩ := h.checking t hread hblank
        exact .checked hinput hutf8 ⟨hread, hblank, hcheck⟩
    · obtain ⟨fault, hfault⟩ := not_isUtf8_iff.mp hutf8
      exact .undecodable hinput hfault

theorem Supplied.exists_settings (h : Supplied parse w o) (honly : o.syntaxOnly = false) :
    ∃ c, configOf w o = .ok c := by
  obtain ⟨c, hconfig⟩ := h.settings honly
  obtain ⟨model, hsettings⟩ := exists_configOf (o := o) hconfig
  exact ⟨_, hsettings⟩

section Checked

variable {t : Text} {r : SyntaxResult}

theorem Checks.unique {t' : Text} {r' : SyntaxResult} (h : Checks parse w o t r)
    (h' : Checks parse w o t' r') : t = t' ∧ r = r' := by
  have htext : t = t' := Except.ok.inj (h.read.symm.trans h'.read)
  subst htext
  exact ⟨rfl, Except.ok.inj (h.verdict.symm.trans h'.verdict)⟩

/-- A snippet that is checked ends in a status, unless half of a surrogate pair is to be printed.
    -/
theorem Supplied.endsInStatus (h : Supplied parse w o) (hchecks : Checks parse w o t r)
    (hclient : Manageable w.client) :
    EndsInStatus (runCheck parse w o) ↔ ¬ EndsInHalf parse w o := by
  rw [hchecks.runCheck_eq]
  cases honly : o.syntaxOnly with
  | true =>
    rw [if_pos rfl]
    have hstatus : EndsInStatus (runSyntaxOnly parse o t) := by
      refine ⟨_, ?_, (runSyntaxOnly_ending hchecks.verdict).1⟩
      split <;> decide
    refine ⟨fun _ hhalf => ?_, fun _ => hstatus⟩
    rw [hhalf.1] at honly
    cases honly
  | false =>
    obtain ⟨c, hconfig⟩ := h.settings honly
    obtain ⟨model, hsettings⟩ := exists_configOf (o := o) hconfig
    have hkeys := hasKey_iff hconfig
    have hlaws := runReviewed_status hchecks.verdict hsettings hkeys hclient
    rw [if_neg Bool.false_ne_true]
    have hhalf : (runReviewed parse w o t).ending = .unprinted ↔ EndsInHalf parse w o := by
      rw [hlaws.unprinted]
      constructor
      · rintro ⟨hkey, reply, hwithin, hshows⟩
        exact ⟨honly, hkey, t, r, c, reply, hchecks, hconfig, hwithin, hshows⟩
      · rintro ⟨_, hkey, t', r', c', reply, hchecks', hconfig', hwithin, hshows⟩
        obtain ⟨rfl, rfl⟩ := hchecks.unique hchecks'
        cases hconfig.symm.trans hconfig'
        exact ⟨hkey, reply, hwithin, hshows⟩
    rw [← hhalf]
    constructor
    · rintro ⟨status, _, hending⟩
      rw [hending]
      nofun
    · intro hprinted
      rcases hlaws.others with hok | hfindings | hunprinted
      · exact ⟨0, by decide, hok⟩
      · exact ⟨1, by decide, hfindings⟩
      · exact absurd hunprinted hprinted

/-- What else can leave such a check is no failure that is handled. -/
theorem Supplied.fails (h : Supplied parse w o) (hchecks : Checks parse w o t r) {f : Failure}
    (hfails : (runCheck parse w o).failure? = some f) :
    f.kind.handled = false ∨
      ((runCheck parse w o).ending = .unprinted ∧ f.kind = .unencodableText) := by
  rw [hchecks.runCheck_eq] at hfails ⊢
  cases honly : o.syntaxOnly with
  | true =>
    rw [honly, if_pos rfl, Outcome.failure?, (runSyntaxOnly_ending hchecks.verdict).1] at hfails
    cases hfails
  | false =>
    obtain ⟨c, hsettings⟩ := h.exists_settings honly
    rw [honly, if_neg Bool.false_ne_true] at hfails
    rw [if_neg Bool.false_ne_true]
    exact runReviewed_fails hchecks.verdict hsettings hfails

end Checked

theorem not_endsInHalf_of_nothing (h : ∀ t r, ¬ Checks parse w o t r) : ¬ EndsInHalf parse w o := by
  rintro ⟨_, _, t, r, _, _, hchecks, _⟩
  exact h t r hchecks

/-- Whether a check ends in a status is decided by the input and by the reply. -/
theorem Supplied.endsInStatus_iff (h : Supplied parse w o) (hclient : Manageable w.client) :
    EndsInStatus (runCheck parse w o) ↔
      (∀ bytes, inputBytes w o = .ok bytes → IsUtf8 bytes) ∧ ¬ EndsInHalf parse w o := by
  have hothers : ∀ {bytes}, inputBytes w o = .ok bytes → IsUtf8 bytes →
      ∀ other, inputBytes w o = .ok other → IsUtf8 other := by
    intro bytes hinput hutf8 other hother
    rw [hinput] at hother
    cases hother
    exact hutf8
  -- by what becomes of the input
  cases h.becomes with
  | unreadable hinput hsystem =>
    have hstatus : EndsInStatus (runCheck parse w o) :=
      ⟨2, Nat.le_refl 2, (runCheck_of_unreadable hinput hsystem).1⟩
    have hnothing : ¬ EndsInHalf parse w o := not_endsInHalf_of_nothing fun t r hchecks => by
      have hread := hchecks.read
      rw [readSnippet_eq, hinput] at hread
      cases hread
    simp [hstatus, hinput, hnothing]
  | undecodable hinput hfault =>
    constructor
    · rintro ⟨status, -, hending⟩
      rw [(runCheck_of_undecodable hinput hfault).1] at hending
      cases hending
    · rintro ⟨hall, -⟩
      exact absurd (hall _ hinput) (not_isUtf8_iff.mpr ⟨_, hfault⟩)
  | blank hinput hutf8 hread hblank =>
    have hending : (runCheck parse w o).ending = .exit 2 :=
      (runCheck_of_nothing (.inr ⟨_, hread, hblank⟩)).1
    have hnothing : ¬ EndsInHalf parse w o := not_endsInHalf_of_nothing fun t r hchecks => by
      have hfilled := hchecks.filled
      rw [← Except.ok.inj (hread.symm.trans hchecks.read), hblank] at hfilled
      cases hfilled
    exact ⟨fun _ => ⟨hothers hinput hutf8, hnothing⟩, fun _ => ⟨2, Nat.le_refl 2, hending⟩⟩
  | checked hinput hutf8 hchecks =>
    rw [h.endsInStatus hchecks hclient]
    exact (and_iff_right (hothers hinput hutf8)).symm

/-- Of the failures that are handled only two kinds leave a check. -/
theorem Supplied.escapes (h : Supplied parse w o) {f : Failure}
    (hfails : (runCheck parse w o).failure? = some f) (hhandled : f.kind.handled = true) :
    (∃ bytes fault, inputBytes w o = .ok bytes ∧ decodeUtf8 bytes = .error fault ∧
      f = fault.failure) ∨
      ((runCheck parse w o).ending = .unprinted ∧ f.kind = .unencodableText) := by
  cases h.becomes with
  | unreadable hinput hsystem =>
    rw [Outcome.failure?, (runCheck_of_unreadable hinput hsystem).1] at hfails
    cases hfails
  | undecodable hinput hfault =>
    rw [Outcome.failure?, (runCheck_of_undecodable hinput hfault).1] at hfails
    cases hfails
    exact .inl ⟨_, _, hinput, hfault, rfl⟩
  | blank _ _ hread hblank =>
    rw [Outcome.failure?, (runCheck_of_nothing (.inr ⟨_, hread, hblank⟩)).1] at hfails
    cases hfails
  | checked _ _ hchecks =>
    rcases h.fails hchecks hfails with hnot | hunprinted
    · rw [hnot] at hhandled
      cases hhandled
    · exact .inr hunprinted

/-- One file, no key, and clients that say nothing. -/
def oneFile (read : Except Failure (List UInt8)) : World where
  stdin := []
  read := fun _ => read
  environment := fun _ => none
  client := fun _ => {}

def theFile : CheckOptions := { file := some "x.js" }

theorem readArguments_theFile : readArguments ["check", "x.js"] = .check theFile := by decide

theorem manageable_oneFile (read : Except Failure (List UInt8)) :
    Manageable (oneFile read).client := by
  intro n f hf
  cases hf

end ScriptDiagnosis.CommandLine
