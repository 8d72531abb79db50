/-
  ScriptDiagnosis/Proofs/Diagnosis/Complaint.lean
  ===============================================
  **The reviewer is told of a syntax error exactly when there is one.**  All calls of a diagnosis
  are made with one prompt.  It holds the snippet as it is, and a note in front of it if and only if
  the snippet is invalid; the note quotes the message that a syntactic diagnosis of the same run
  shows (`complaint_reaches_reviewer`).

  An empty message would get no note.  So what carries the proof is that no verdict on an invalid
  snippet has one: a message begins with a line, or it is the description of the fault, for which a
  stock text stands in where nothing is left of it (`message_ne_nil`).
-/
import ScriptDiagnosis.Proofs.Review.PromptText
import ScriptDiagnosis.Proofs.Review.Timeline
import ScriptDiagnosis.Proofs.SyntaxCheck.NamedLine

namespace ScriptDiagnosis

/-! ### Messages are not empty -/

namespace SyntaxCheck
open Text Diagnosis

variable {mode : Mode} {snippet : Text} {answer : ParserAnswer} {r : SyntaxResult}

theorem lineMessage_ne_nil (line : Int) (said : Text) : lineMessage line said ≠ [] :=
  List.cons_ne_nil _ _

theorem message_ne_nil_of_placed {said : Text} {line : Int} {column : Option Int}
    (h : placed said line column = .ok r) : r.message ≠ [] := by
  rw [placed] at h
  split at h
  · cases h
    exact lineMessage_ne_nil line said
  · cases h

/-- Whatever the parser answers, a verdict has a message. -/
theorem message_ne_nil (h : verdict mode snippet answer = .ok r) : r.message ≠ [] := by
  cases answer with
  | program ends =>
    simp only [verdict] at h
    split at h
    · cases ends with
      | nil => cases h
      | cons p ps =>
        rw [earlyEnd_cons] at h
        exact message_ne_nil_of_placed h
    · cases h
      decide
  | fault text line column =>
    simp only [verdict] at h
    cases line with
    | some n =>
      rw [faultResult_given] at h
      exact message_ne_nil_of_placed h
    | none =>
      rw [faultResult_sought] at h
      split at h
      · cases h
      · cases h
        exact description_ne_nil text
      · exact message_ne_nil_of_placed h
  | failed f =>
    simp only [verdict] at h
    split at h
    · cases h
      decide
    · cases h

theorem exists_verdict_of_withinLimits (hanswer : Handled answer) (h : WithinLimits answer) :
    ∃ r, verdict mode snippet answer = .ok r := by
  cases hanswer with
  | program hne => exact exists_verdict (.program hne) h
  | failed hkind => exact exists_verdict (.failed hkind) trivial
  | fault text line column _ =>
    have hsettles : Settles mode snippet (.fault text line column) := (Fails.fault ..).settles
    cases hsettles with
    | recovered _ hverdict _ => exact ⟨_, hverdict⟩
    | escaped hescapes _ => exact absurd hescapes (not_escapes_of_withinLimits h)

end SyntaxCheck

/-! ### One prompt for all calls -/

namespace Review

variable {c : Config} {request : Request} {reviewer : Reviewer}

/-- All calls of a review have one prompt. -/
theorem eq_prompt_of_mem {q : Text} (hq : q ∈ (review c request reviewer).prompts) :
    q = prompt request := by
  cases hkey : c.credential? with
  | none =>
    rw [review_of_no_credential hkey] at hq
    cases hq
  | some key =>
    obtain ⟨last, hends, hend, -⟩ :=
      attempts_endsAt c (prompt request) (reviewer (prompt request)) 1
    have hunfolds := unfolds_of_endsAt (prompt request) hends hend.symm
    simp only [review, hkey, hunfolds.prompts] at hq
    exact List.eq_of_mem_replicate hq

/-- What the reviewer would say to another prompt makes no difference. -/
theorem review_congr_prompt {other : Reviewer}
    (h : ∀ n, other (prompt request) n = reviewer (prompt request) n) :
    review c request other = review c request reviewer := by
  have hcalls : other (prompt request) = reviewer (prompt request) := funext h
  rw [review, review, hcalls]

end Review

/-! ### The note of a diagnosis -/

namespace Diagnosis
open Text SyntaxCheck Review

variable {mode : Mode} {answer : ParserAnswer} {c : Config} {reviewer : Reviewer} {snippet : Text}
  {s : SyntaxResult}

/-- The note that a verdict calls for. -/
def noteOn (s : SyntaxResult) : Text :=
  if s.isValid then [] else noteHead ++ s.message ++ noteTail ++ "\n"

/-- A prompt that begins with a note. -/
def BeginsWithNote (p : Text) : Prop := promptHead ++ noteHead <+: p

theorem note_requestFor (hmessage : s.message ≠ []) :
    note ((requestFor snippet s).complaint.getD []) = noteOn s := by
  cases hvalid : s.isValid with
  | true => simp [requestFor, noteOn, hvalid, note]
  | false => simp [requestFor, noteOn, hvalid, note_of_ne_nil hmessage]

theorem prompt_requestFor (hmessage : s.message ≠ []) : prompt (requestFor snippet s) =
    promptHead ++ noteOn s ++ promptBeforeCode ++ snippet ++ promptAfterCode := by
  rw [prompt_eq, note_requestFor hmessage]
  rfl

/-- Whether there is a note can be seen from the prompt, whatever the snippet is: without one
    nothing of the snippet stands where the note would begin. -/
theorem beginsWithNote_iff (s : SyntaxResult) (snippet : Text) :
    BeginsWithNote (promptHead ++ noteOn s ++ promptBeforeCode ++ snippet ++ promptAfterCode) ↔
      s.isValid = false := by
  simp only [BeginsWithNote, List.append_assoc, List.prefix_append_right_inj]
  cases hvalid : s.isValid with
  | true =>
    simp only [noteOn, hvalid, if_true, List.nil_append, reduceCtorEq, iff_false]
    rintro ⟨rest, hrest⟩
    exact beforeCode_ne_noteHead (snippet ++ promptAfterCode) rest hrest.symm
  | false =>
    simp only [noteOn, hvalid, Bool.false_eq_true, if_false, List.append_assoc, iff_true]
    exact List.prefix_append _ _

/-- A syntactic diagnosis shows the message of the check. -/
theorem message_of_syntactic {d : Diagnosis} (hcheck : verdict mode snippet answer = .ok s)
    (hd : (diagnose mode answer c reviewer snippet).result = .ok d) (hkind : d.kind = .syntactic) :
    s.isValid = false ∧ d.message = s.message := by
  simp only [diagnose, loggedVerdict_of_ok hcheck, conclude] at hd
  split at hd
  · cases hd
  · next logs settled _ =>
    cases hd
    obtain ⟨hinvalid, a, ha⟩ := (merge_isVerdict s settled).syntactic.mp hkind
    subst ha
    refine ⟨hinvalid, ?_⟩
    simp [merge, ofAnalysis, hinvalid]

/-- What the calls of a diagnosis are made with: one prompt, which has the snippet in it, and a note
    exactly if the verdict is that the snippet is invalid. -/
structure Informs (c : Config) (mode : Mode) (answer : ParserAnswer) (reviewer : Reviewer)
    (snippet : Text) (s : SyntaxResult) (p : Text) : Prop where
  asked : ∀ q ∈ (diagnose mode answer c reviewer snippet).prompts, q = p
  /-- No call is made with another prompt. -/
  heard : ∀ other : Reviewer, (∀ n, other p n = reviewer p n) →
    diagnose mode answer c other snippet = diagnose mode answer c reviewer snippet
  worded : p = promptHead ++ noteOn s ++ promptBeforeCode ++ snippet ++ promptAfterCode
  noted : BeginsWithNote p ↔ s.isValid = false
  /-- The note quotes the message that is shown. -/
  quoted : ∀ d, (diagnose mode answer c reviewer snippet).result = .ok d → d.kind = .syntactic →
    noteOn s = noteHead ++ d.message ++ noteTail ++ "\n"

/-- **The reviewer is told of a syntax error exactly when there is one.**  The check gives a verdict
    for every answer of the parser that it handles, unless a number in it is too long; and whenever
    there is a verdict, every call of the diagnosis is made with the prompt that it calls for. -/
theorem complaint_reaches_reviewer (mode : Mode) (answer : ParserAnswer) (c : Config)
    (reviewer : Reviewer) (snippet : Text) :
    (Handled answer → WithinLimits answer → ∃ s, verdict mode snippet answer = .ok s) ∧
    ∀ s, verdict mode snippet answer = .ok s →
      ∃ p, Informs c mode answer reviewer snippet s p := by
  refine ⟨exists_verdict_of_withinLimits, ?_⟩
  intro s hcheck
  have hworded : prompt (requestFor snippet s) =
      promptHead ++ noteOn s ++ promptBeforeCode ++ snippet ++ promptAfterCode :=
    prompt_requestFor (message_ne_nil hcheck)
  refine ⟨prompt (requestFor snippet s), ?_, ?_, hworded, ?_, ?_⟩
  · intro q hq
    rw [diagnose_prompts hcheck] at hq
    exact eq_prompt_of_mem hq
  · intro other hother
    exact diagnose_congr hcheck (review_congr_prompt hother)
  · rw [hworded]
    exact beginsWithNote_iff s snippet
  · intro d hd hkind
    obtain ⟨hinvalid, hmessage⟩ := message_of_syntactic hcheck hd hkind
    simp [noteOn, hinvalid, hmessage]

/-- A fault of whose text nothing is left behind the line in it. -/
def bare : ParserAnswer := .fault "Line 3: " (some 3) none

/-- The stock text is quoted, in both calls of a review that is reached at the second. -/
theorem complaint_reaches_reviewer_bare :
    Handled bare ∧ WithinLimits bare ∧
    verdict .functionBody "a\nb(" bare =
      .ok ⟨false, "Line 2: Unknown syntax error", some 2, none⟩ ∧
    ∃ p, BeginsWithNote p ∧
      p = promptHead ++ (noteHead ++ "Line 2: Unknown syntax error" ++ noteTail ++ "\n") ++
        promptBeforeCode ++ "a\nb(" ++ promptAfterCode ∧
      (∀ q ∈ (diagnose .functionBody bare relentless reachedLate "a\nb(").prompts, q = p) ∧
      2 = (diagnose .functionBody bare relentless reachedLate "a\nb(").prompts.length := by
  have hwritable : writable 3 = true := by decide +kernel
  have hhandled : Handled bare := by
    apply Handled.fault
    intro n hn
    cases hn
    decide
  have hlimits : WithinLimits bare := hwritable
  have hcheck : verdict .functionBody "a\nb(" bare =
      .ok ⟨false, "Line 2: Unknown syntax error", some 2, none⟩ := by
    rw [bare, verdict, faultResult_given, placed_of_writable (by decide +kernel)]
    decide +kernel
  obtain ⟨-, hinforms⟩ :=
    complaint_reaches_reviewer .functionBody bare relentless reachedLate "a\nb("
  obtain ⟨p, hp⟩ := hinforms _ hcheck
  refine ⟨hhandled, hlimits, hcheck, p, hp.noted.mpr rfl, hp.worded, hp.asked, ?_⟩
  have hends : ∀ p, EndsAt relentless (reachedLate p) 1 2 := by
    intro p
    have hpause : HasPause relentless 1 := hasPause_relentless.mpr (by decide)
    exact .cons (retries_eq_true_iff.mpr ⟨_, rfl, rfl, by decide, hpause⟩) (.refl rfl)
  rw [diagnose_prompts hcheck]
  exact (hends _).unique (review_endsAt rfl _ reachedLate).1

end Diagnosis
end ScriptDiagnosis
