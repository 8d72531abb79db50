/-
  ScriptDiagnosis/Proofs/Diagnosis/Recovery.lean
  ==============================================
  What becomes of a parser that fails.  A fault is recovered into a verdict with its place, unless
  the number of its line is too long; a failure of the parser is recovered into a verdict that says
  no more than that it gave up, if it is of one of three kinds.  Every other failure leaves the
  check, and then there is neither a review nor a diagnosis (`parser_failure_escapes_iff`).  A
  source with an empty substitution makes the parser fail in such a way.
-/
import ScriptDiagnosis.Proofs.Diagnosis.Verdict
import ScriptDiagnosis.Proofs.SyntaxCheck.Relocation

namespace ScriptDiagnosis.Diagnosis
open Text SyntaxCheck Review

/-! ### Answers that are no program -/

/-- A parser fails: it finds a fault, or fails itself in a way that a caller may handle. -/
inductive Fails : ParserAnswer → Prop
  | fault (text : Text) (line column : Option Int) : Fails (.fault text line column)
  | failed {f : Failure} (h : f.kind.handled = true) : Fails (.failed f)

/-- The verdict that a failed parser is recovered into. -/
inductive Recovers (mode : Mode) (snippet : Text) : ParserAnswer → SyntaxResult → Prop
  /-- A fault with a line is placed in the snippet. -/
  | given (text : Text) (line : Int) (column : Option Int) :
    Recovers mode snippet (.fault text (some line) column)
      ⟨false, lineMessage (placeIn mode snippet line column).1 (description text),
        some (placeIn mode snippet line column).1, (placeIn mode snippet line column).2⟩
  /-- A fault without one is placed on the line that its text refers to. -/
  | sought {text : Text} {line : Nat} (column : Option Int)
    (h : findLine text = .ok (some line)) :
    Recovers mode snippet (.fault text none column)
      ⟨false, lineMessage line (description text), some (line : Int), column⟩
  | unplaced {text : Text} (column : Option Int) (h : findLine text = .ok none) :
    Recovers mode snippet (.fault text none column) ⟨false, description text, none, column⟩
  | givenUp (f : Failure) : Recovers mode snippet (.failed f) ⟨false, unknownMessage, none, none⟩

/-- What the check does not recover. -/
inductive Escapes (mode : Mode) (snippet : Text) : ParserAnswer → Prop
  /-- A fault on a line whose number cannot be written. -/
  | unwritable {text : Text} {line : Int} {column : Option Int}
    (h : writable (placeIn mode snippet line column).1 = false) :
    Escapes mode snippet (.fault text (some line) column)
  /-- A fault whose text refers to a line with too long a number. -/
  | unreadable {text digits : Text} {column : Option Int} (h : lineDigits? text = some digits)
    (hlong : maxDigits < digits.length) : Escapes mode snippet (.fault text none column)
  /-- A failure of a kind that the check does not know. -/
  | unknown {f : Failure} (hrecursion : f.kind.isA .recursion = false)
    (hvalue : f.kind.isA .value = false) (hindex : f.kind.isA .index = false) :
    Escapes mode snippet (.failed f)

/-- The numbers of a fault have no more digits than a number may have. -/
structure NumbersFit (text : Text) (line : Option Int) : Prop where
  given : ∀ n, line = some n → writable n = true
  sought : ∀ digits, lineDigits? text = some digits → digits.length ≤ maxDigits

/-- The numbers that the check has to write or to read have no more digits than a number may have:
    where statements end, the line of a fault, and for a fault without one the line that its text
    refers to. -/
def WithinLimits : ParserAnswer → Prop
  | .program ends => ∀ p ∈ ends, writable p.line = true
  | .fault _ (some line) _ => writable line = true
  | .fault text none _ => ∀ digits, lineDigits? text = some digits → digits.length ≤ maxDigits
  | .failed _ => True

theorem NumbersFit.withinLimits {text : Text} {line : Option Int} (h : NumbersFit text line)
    (column : Option Int) : WithinLimits (.fault text line column) := by
  cases line with
  | some n => exact h.given n rfl
  | none => exact h.sought

section Check

variable {mode : Mode} {snippet : Text}

theorem Recovers.invalid {answer : ParserAnswer} {r : SyntaxResult}
    (h : Recovers mode snippet answer r) : r.isValid = false := by
  cases h <;> rfl

theorem not_escapes_of_withinLimits {text : Text} {line column : Option Int}
    (h : WithinLimits (.fault text line column)) :
    ¬ Escapes mode snippet (.fault text line column) := by
  intro hescapes
  cases hescapes with
  | unwritable hline =>
    rw [writable_placeIn mode snippet h] at hline
    cases hline
  | unreadable hdigits hlong => exact absurd (h _ hdigits) (Nat.not_le.mpr hlong)

theorem not_escapes_of_numbersFit {text : Text} {line : Option Int} (h : NumbersFit text line)
    (column : Option Int) : ¬ Escapes mode snippet (.fault text line column) :=
  not_escapes_of_withinLimits (h.withinLimits column)

/-- The failures that are caught besides the parser's own. -/
theorem givesUp_iff (k : FailureKind) :
    givesUp k = false ↔ k.isA .recursion = false ∧ k.isA .value = false ∧ k.isA .index = false := by
  rw [givesUp, Bool.or_eq_false_iff, Bool.or_eq_false_iff, and_assoc]

/-- An answer settles the check: it is recovered, or it escapes. -/
inductive Settles (mode : Mode) (snippet : Text) (answer : ParserAnswer) : Prop
  | recovered (hnot : ¬ Escapes mode snippet answer) {r : SyntaxResult}
    (hverdict : verdict mode snippet answer = .ok r) (h : Recovers mode snippet answer r)
  | escaped (h : Escapes mode snippet answer) {f : Failure}
    (hverdict : verdict mode snippet answer = .error f)

/-- A fault with a line is recovered if the line can be written. -/
theorem settles_given (text : Text) (line : Int) (column : Option Int) :
    Settles mode snippet (.fault text (some line) column) := by
  have hverdict : verdict mode snippet (.fault text (some line) column) =
      placed (description text) (placeIn mode snippet line column).1
        (placeIn mode snippet line column).2 := faultResult_given ..
  cases hline : writable (placeIn mode snippet line column).1 with
  | true =>
    rw [placed_of_writable hline] at hverdict
    refine .recovered ?_ hverdict (.given text line column)
    intro hescapes
    cases hescapes with
    | unwritable hnot =>
      rw [hline] at hnot
      cases hnot
  | false =>
    rw [placed_of_not_writable hline] at hverdict
    exact .escaped (.unwritable hline) hverdict

/-- One without is recovered if the line that its text names can be read. -/
theorem settles_sought (text : Text) (column : Option Int) :
    Settles mode snippet (.fault text none column) := by
  have hverdict : verdict mode snippet (.fault text none column) = _ :=
    faultResult_sought mode snippet text column
  by_cases hshort : ∀ digits, lineDigits? text = some digits → digits.length ≤ maxDigits
  · have hfit : NumbersFit text none := by
      refine ⟨?_, hshort⟩
      intro n hn
      cases hn
    have hnot : ¬ Escapes mode snippet (.fault text none column) :=
      not_escapes_of_numbersFit hfit column
    rcases findLine_of_short hshort with hfind | ⟨n, hfind, hline⟩
    · rw [hfind] at hverdict
      exact .recovered hnot hverdict (.unplaced column hfind)
    · rw [hfind] at hverdict
      exact .recovered hnot (hverdict.trans (placed_of_writable hline _ _)) (.sought column hfind)
  · simp only [not_forall, Nat.not_le] at hshort
    obtain ⟨digits, hdigits, hlong⟩ := hshort
    rw [findLine_of_lineDigits hdigits hlong] at hverdict
    exact .escaped (.unreadable hdigits hlong) hverdict

/-- A failure is recovered if it is one that is caught. -/
theorem settles_failed (f : Failure) : Settles mode snippet (.failed f) := by
  have hverdict : verdict mode snippet (.failed f) =
      if givesUp f.kind then .ok ⟨false, unknownMessage, none, none⟩ else .error f := rfl
  cases hgives : givesUp f.kind with
  | true =>
    rw [if_pos hgives] at hverdict
    refine .recovered ?_ hverdict (.givenUp f)
    intro hescapes
    cases hescapes with
    | unknown hrecursion hvalue hindex =>
      rw [(givesUp_iff f.kind).mpr ⟨hrecursion, hvalue, hindex⟩] at hgives
      cases hgives
  | false =>
    obtain ⟨hrecursion, hvalue, hindex⟩ := (givesUp_iff f.kind).mp hgives
    rw [if_neg (by simp [hgives])] at hverdict
    exact .escaped (.unknown hrecursion hvalue hindex) hverdict

/-- **Whatever the parser fails with is recovered, or escapes.** -/
theorem Fails.settles {answer : ParserAnswer} (hfails : Fails answer) :
    Settles mode snippet answer := by
  cases hfails with
  | fault text line column =>
    cases line with
    | some line => exact settles_given text line column
    | none => exact settles_sought text column
  | failed _ => exact settles_failed _

end Check

/-! ### The diagnosis -/

section Diagnosis

variable {mode : Mode} {snippet : Text} {answer : ParserAnswer} {c : Config} {reviewer : Reviewer}

/-- What escapes the check leaves the diagnosis, and nobody is asked. -/
theorem diagnose_of_escape {f : Failure} (hcheck : verdict mode snippet answer = .error f) :
    (diagnose mode answer c reviewer snippet).result = .error f ∧
      (diagnose mode answer c reviewer snippet).prompts = [] := by
  have hlogged : loggedVerdict mode snippet answer = ([], .error f) := by
    rw [loggedVerdict, hcheck]
  rw [diagnose, hlogged]
  exact ⟨rfl, rfl⟩

theorem diagnose_prompts {s : SyntaxResult} (hcheck : verdict mode snippet answer = .ok s) :
    (diagnose mode answer c reviewer snippet).prompts =
      (review c (requestFor snippet s) reviewer).prompts := by
  rw [diagnose, loggedVerdict_of_ok hcheck]

theorem diagnose_congr {s : SyntaxResult} {other : Reviewer}
    (hcheck : verdict mode snippet answer = .ok s)
    (h : review c (requestFor snippet s) other = review c (requestFor snippet s) reviewer) :
    diagnose mode answer c other snippet = diagnose mode answer c reviewer snippet := by
  simp only [diagnose, loggedVerdict_of_ok hcheck, h]

theorem diagnose_asks {s : SyntaxResult} {key : Text} (hkey : c.credential? = some key)
    (hcheck : verdict mode snippet answer = .ok s) :
    (diagnose mode answer c reviewer snippet).prompts ≠ [] := by
  rw [diagnose_prompts hcheck]
  intro hnone
  have hends := (review_endsAt hkey (requestFor snippet s) reviewer).1.le
  rw [hnone] at hends
  cases hends

end Diagnosis

/-- **What escapes.**  A parser that fails leaves the check without a verdict exactly when it fails
    in a way that the check does not know, or with a line whose number is too long.  Then there is
    no diagnosis and the reviewer is not asked.  Otherwise the snippet is invalid, the verdict is
    the one that the failure is recovered into, the reviewer is asked if there is a credential, and
    there is a diagnosis. -/
theorem parser_failure_escapes_iff {parse : Text → ParserAnswer} {mode : Mode} {snippet : Text}
    {c : Config} {reviewer : Reviewer} (hfails : Fails (parse (sourceFor mode snippet)))
    (hreviewer : ∀ p n f, (reviewer p n).result = .failed f → f.kind.handled = true) :
    ((∃ f, check parse mode snippet = .error f) ↔
      Escapes mode snippet (parse (sourceFor mode snippet))) ∧
    (∀ text line column, parse (sourceFor mode snippet) = .fault text line column →
      NumbersFit text line → ¬ Escapes mode snippet (parse (sourceFor mode snippet))) ∧
    (Escapes mode snippet (parse (sourceFor mode snippet)) →
      ∃ f, (diagnose mode (parse (sourceFor mode snippet)) c reviewer snippet).result = .error f ∧
        (diagnose mode (parse (sourceFor mode snippet)) c reviewer snippet).prompts = []) ∧
    (¬ Escapes mode snippet (parse (sourceFor mode snippet)) →
      ∃ r d, check parse mode snippet = .ok r ∧ r.isValid = false ∧
        Recovers mode snippet (parse (sourceFor mode snippet)) r ∧
        (diagnose mode (parse (sourceFor mode snippet)) c reviewer snippet).result = .ok d ∧
        ∀ key, c.credential? = some key →
          (diagnose mode (parse (sourceFor mode snippet)) c reviewer snippet).prompts ≠ []) := by
  have hcheck : check parse mode snippet = verdict mode snippet (parse (sourceFor mode snippet)) :=
    rfl
  rw [hcheck]
  have hfit : ∀ text line column, parse (sourceFor mode snippet) = .fault text line column →
      NumbersFit text line → ¬ Escapes mode snippet (parse (sourceFor mode snippet)) := by
    intro text line column hfault hfit
    rw [hfault]
    exact not_escapes_of_numbersFit hfit column
  have hsettles : Settles mode snippet (parse (sourceFor mode snippet)) := hfails.settles
  cases hsettles with
  | recovered hnot hverdict hrecovers =>
    have hdiagnosis := diagnose_eq_ok (c := c) hverdict fun f =>
      review_error_handled (hreviewer (prompt (requestFor snippet _)))
    refine ⟨⟨?_, fun h => absurd h hnot⟩, hfit, fun h => absurd h hnot, fun _ => ?_⟩
    · rintro ⟨f, hf⟩
      rw [hverdict] at hf
      cases hf
    · refine ⟨_, _, hverdict, hrecovers.invalid, hrecovers, hdiagnosis, ?_⟩
      intro key hkey
      exact diagnose_asks hkey hverdict
  | escaped hescapes hverdict =>
    refine ⟨⟨fun _ => hescapes, fun _ => ⟨_, hverdict⟩⟩, hfit, fun _ => ?_, ?_⟩
    · exact ⟨_, diagnose_of_escape hverdict⟩
    · intro hnot
      exact absurd hescapes hnot

/-- So many brackets that the parser runs out of stack. -/
def deep : Text := List.replicate 2000 '('

def exhausted : Text → ParserAnswer := fun _ =>
  .failed ⟨.recursion, "maximum recursion depth exceeded", none⟩

theorem parser_failure_escapes_deep :
    Fails (exhausted (sourceFor .script deep)) ∧
    (∀ p n f, (reachedLate p n).result = .failed f → f.kind.handled = true) ∧
    ∃ r d, check exhausted .script deep = .ok r ∧ r.isValid = false ∧
      (diagnose .script (exhausted (sourceFor .script deep)) relentless reachedLate deep).result =
        .ok d := by
  have hfails : Fails (exhausted (sourceFor .script deep)) := .failed rfl
  have hreviewer : ∀ p n f, (reachedLate p n).result = .failed f → f.kind.handled = true := by
    intro p n f h
    rw [reachedLate] at h
    split at h <;> cases h
    rfl
  have hnot : ¬ Escapes .script deep (exhausted (sourceFor .script deep)) := by
    intro h
    cases h with
    | unknown hrecursion _ _ => cases hrecursion
  obtain ⟨_, _, _, hrecovers⟩ :=
    parser_failure_escapes_iff (c := relentless) hfails hreviewer
  obtain ⟨r, d, hcheck, hinvalid, _, hdiagnosis, _⟩ := hrecovers hnot
  exact ⟨hfails, hreviewer, r, d, hcheck, hinvalid, hdiagnosis⟩

/-- The failure of the parser at a template with an empty substitution. -/
def headless : Failure :=
  ⟨.assertion, "Template literal must start with a template head", none⟩

/-- The failure at a template with an empty substitution may be handled, and neither the check nor
    the diagnosis handles it. -/
theorem empty_substitution_escapes :
    parseScript (sourceFor .functionBody "`x$\x7b\x7dy`") = .failed headless ∧
    headless.kind.handled = true ∧
    check parseScript .functionBody "`x$\x7b\x7dy`" = .error headless ∧
    (diagnose .functionBody (parseScript (sourceFor .functionBody "`x$\x7b\x7dy`")) relentless
      reachedLate "`x$\x7b\x7dy`").result = .error headless ∧
    (diagnose .functionBody (parseScript (sourceFor .functionBody "`x$\x7b\x7dy`")) relentless
      reachedLate "`x$\x7b\x7dy`").prompts = [] := by
  have hread : Script.readScript (sourceFor .functionBody "`x$\x7b\x7dy`") =
      .error .headlessTemplate := by decide +kernel
  have hparse : parseScript (sourceFor .functionBody "`x$\x7b\x7dy`") = .failed headless := by
    rw [parseScript, hread]
    rfl
  have hverdict : verdict .functionBody "`x$\x7b\x7dy`"
      (parseScript (sourceFor .functionBody "`x$\x7b\x7dy`")) = .error headless := by
    rw [hparse]
    rfl
  exact ⟨hparse, rfl, hverdict, diagnose_of_escape hverdict⟩

end ScriptDiagnosis.Diagnosis
