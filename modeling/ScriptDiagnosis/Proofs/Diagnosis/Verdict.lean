/-
  ScriptDiagnosis/Proofs/Diagnosis/Verdict.lean
  =============================================
  The verdict over the whole way from a snippet to its diagnosis.  Whatever the reviewer does
  that can be handled, there is a diagnosis, and its constructor admits it; each of the four
  kinds has one condition on the check and the review; and nothing but a valid snippet whose
  review ends in a reply that finds no bug is a success (`diagnose_verdict`).

  The program tells a success by its status, unless the diagnosis has half of a surrogate pair
  in a text: then it cannot be printed.  Marks for halves are what shows that.
-/
import ScriptDiagnosis.CommandLine.Run
import ScriptDiagnosis.Proofs.Review.Halves
import ScriptDiagnosis.Proofs.Review.Taxonomy

namespace ScriptDiagnosis.Diagnosis
open Text Reply Review SyntaxCheck
open CommandLine (World CheckOptions modeOf configOf runReviewed statusOk statusFindings
  exitStatus printed)
open Provider (Contact)

/-! ### Failures on the way -/

theorem fault_handled (f : ReplyFault) : f.failure.kind.handled = true := by
  cases f <;> rfl

theorem pauseFailure_handled (c : Config) (retry : Nat) :
    (pauseFailure c retry).kind.handled = true := by
  rw [pauseFailure]
  split <;> rfl

/-- A run ends in no failure that is not handled, if no call does. -/
theorem endOf_error_handled {c : Config} {attempt : Nat} {r : CallResult} {f : Failure}
    (hcall : ∀ g, r = .failed g → g.kind.handled = true)
    (h : endOf c attempt r = .error f) : f.kind.handled = true := by
  cases r with
  | replied reply =>
    rw [endOf] at h
    cases hread : readReply reply with
    | ok a =>
      rw [hread] at h
      cases h
    | error e =>
      rw [hread] at h
      cases h
      exact fault_handled e
  | failed g =>
    rw [endOf] at h
    cases h
    split
    · exact pauseFailure_handled c attempt
    · exact hcall g rfl

theorem review_error_handled {c : Config} {request : Request} {reviewer : Reviewer} {f : Failure}
    (hreviewer : ∀ n g, (reviewer (prompt request) n).result = .failed g →
      g.kind.handled = true)
    (h : (review c request reviewer).result = .error f) : f.kind.handled = true := by
  cases hkey : c.credential? with
  | none =>
    rw [review_of_no_credential hkey] at h
    cases h
    rfl
  | some key =>
    obtain ⟨_, hresult⟩ := review_endsAt hkey request reviewer
    exact endOf_error_handled (hreviewer _) (hresult.symm.trans h)

/-! ### Failed reviews -/

def deniedStatus : Text := "403"

/-- Does a failure say that access was denied? -/
def SaysDenied (f : Failure) : Prop := f.kind = .accessDenied ∨ occurs deniedStatus f.text = true

/-- The diagnosis of a failed review that says that access was denied. -/
def denied : Diagnosis :=
  { isValid := false, message := deniedMessage, kind := .runtime, severity := .error }

def unreviewed : Diagnosis :=
  { isValid := false, message := failedMessage, kind := .runtime, severity := .error }

theorem denied_ne_unreviewed : denied ≠ unreviewed := by
  intro h
  have hmessage : deniedMessage = failedMessage := congrArg Diagnosis.message h
  exact absurd hmessage (by decide)

theorem saysDenied_iff {f : Failure} :
    SaysDenied f ↔ (decide (f.kind = .accessDenied) || occurs "403" f.text) = true := by
  rw [Bool.or_eq_true, decide_eq_true_eq, SaysDenied, deniedStatus]

theorem ofFailure_of_saysDenied {f : Failure} (h : SaysDenied f) : ofFailure f = denied := by
  rw [ofFailure, failureMessage, if_pos (saysDenied_iff.mp h), denied]

theorem ofFailure_of_not_saysDenied {f : Failure} (h : ¬ SaysDenied f) :
    ofFailure f = unreviewed := by
  rw [ofFailure, failureMessage, if_neg (mt saysDenied_iff.mpr h), unreviewed]

theorem ofFailure_unexpected {f : Failure} (h : f.kind.ofReview = false) :
    ofFailure (unexpected f) = ofFailure f := by
  have hkind : f.kind ≠ .accessDenied := by
    intro heq
    rw [heq] at h
    cases h
  simp [ofFailure, failureMessage, unexpected, hkind]

/-! ### From the review to the diagnosis -/

theorem conclude_eq_ok {r : Except Failure Analysis} (s : SyntaxResult)
    (h : ∀ f, r = .error f → f.kind.handled = true) : (conclude s r).2 = .ok (merge s r) := by
  cases r with
  | ok a => rfl
  | error f =>
    by_cases hreview : f.kind.ofReview = true
    · simp [conclude, settle, hreview]
    · have hreview := Bool.eq_false_iff.mpr hreview
      simp [conclude, settle, hreview, h f rfl, merge, ofFailure_unexpected hreview]

theorem loggedVerdict_of_ok {mode : Mode} {answer : ParserAnswer} {snippet : Text}
    {s : SyntaxResult} (h : verdict mode snippet answer = .ok s) :
    loggedVerdict mode snippet answer =
      ([⟨.debug, Log.checkLogger, verdictMessage answer s, false⟩], .ok s) := by
  rw [loggedVerdict, h]

theorem diagnose_eq_ok {mode : Mode} {answer : ParserAnswer} {snippet : Text}
    {s : SyntaxResult} {c : Config} {reviewer : Reviewer}
    (hcheck : verdict mode snippet answer = .ok s)
    (hreview : ∀ f, (review c (requestFor snippet s) reviewer).result = .error f →
      f.kind.handled = true) :
    (diagnose mode answer c reviewer snippet).result =
      .ok (merge s (review c (requestFor snippet s) reviewer).result) := by
  rw [diagnose, loggedVerdict_of_ok hcheck]
  exact conclude_eq_ok s hreview

theorem not_handled_of_conclude {s : SyntaxResult} {r : Except Failure Analysis} {f : Failure}
    (h : (conclude s r).2 = .error f) : f.kind.handled = false := by
  cases r with
  | ok a => cases h
  | error g =>
    rw [conclude, settle] at h
    by_cases hreview : g.kind.ofReview = true
    · rw [if_pos hreview] at h
      cases h
    · rw [if_neg hreview] at h
      by_cases hhandled : g.kind.handled = true
      · rw [if_pos hhandled] at h
        cases h
      · rw [if_neg hhandled] at h
        cases h
        exact Bool.eq_false_iff.mpr hhandled

/-- A failure that leaves a diagnosis for which there is a verdict cannot be handled. -/
theorem not_handled_of_diagnose {mode : Mode} {answer : ParserAnswer} {snippet : Text}
    {s : SyntaxResult} {c : Config} {reviewer : Reviewer} {f : Failure}
    (hcheck : verdict mode snippet answer = .ok s)
    (h : (diagnose mode answer c reviewer snippet).result = .error f) :
    f.kind.handled = false := by
  rw [diagnose, loggedVerdict_of_ok hcheck] at h
  exact not_handled_of_conclude h

/-! ### The four kinds -/

/-- A diagnosis is the one that a check and a review call for. -/
structure IsVerdict (s : SyntaxResult) (reviewed : Except Failure Analysis) (d : Diagnosis) :
    Prop where
  admitted : d.checked = .ok d
  severity : d.severity = d.kind.severity
  valid : d.isValid = true ↔ d.kind = .logical ∨ d.kind = .clean
  runtime : d.kind = .runtime ↔ ∃ f, reviewed = .error f
  syntactic : d.kind = .syntactic ↔ s.isValid = false ∧ ∃ a, reviewed = .ok a
  logical : d.kind = .logical ↔
    s.isValid = true ∧ ∃ a, reviewed = .ok a ∧ a.isPotentiallyBuggy = true
  clean : d.kind = .clean ↔
    s.isValid = true ∧ ∃ a, reviewed = .ok a ∧ a.isPotentiallyBuggy = false
  denied : d = denied ↔ ∃ f, reviewed = .error f ∧ SaysDenied f
  unreviewed : d = unreviewed ↔ ∃ f, reviewed = .error f ∧ ¬ SaysDenied f

/-- Without an analysis the diagnosis is about the run. -/
theorem ofFailure_isVerdict (s : SyntaxResult) (f : Failure) :
    IsVerdict s (.error f) (ofFailure f) where
  admitted := rfl
  severity := rfl
  valid := by simp [ofFailure]
  runtime := by simp [ofFailure]
  syntactic := by simp [ofFailure]
  logical := by simp [ofFailure]
  clean := by simp [ofFailure]
  denied := by
    by_cases h : SaysDenied f
    · simp [ofFailure_of_saysDenied h, h]
    · simp [ofFailure_of_not_saysDenied h, h, denied_ne_unreviewed.symm]
  unreviewed := by
    by_cases h : SaysDenied f
    · simp [ofFailure_of_saysDenied h, h, denied_ne_unreviewed]
    · simp [ofFailure_of_not_saysDenied h, h]

theorem ofAnalysis_kind (s : SyntaxResult) (a : Analysis) :
    (ofAnalysis s a).kind =
      if s.isValid = false then .syntactic
      else if a.isPotentiallyBuggy = true then .logical else .clean := by
  unfold ofAnalysis
  cases s.isValid <;> cases a.isPotentiallyBuggy <;> rfl

theorem ofAnalysis_severity (s : SyntaxResult) (a : Analysis) :
    (ofAnalysis s a).severity = (ofAnalysis s a).kind.severity := by
  unfold ofAnalysis
  cases s.isValid <;> cases a.isPotentiallyBuggy <;> rfl

theorem ofAnalysis_isValid (s : SyntaxResult) (a : Analysis) :
    (ofAnalysis s a).isValid = s.isValid := by
  unfold ofAnalysis
  cases s.isValid <;> cases a.isPotentiallyBuggy <;> rfl

theorem nonEmpty?_inj {s t : Text} : nonEmpty? s = nonEmpty? t ↔ s = t := by
  cases s <;> cases t <;> simp [nonEmpty?]

/-- The texts of the analysis are kept, unless they are empty. -/
theorem ofAnalysis_texts (s : SyntaxResult) (a : Analysis) :
    (ofAnalysis s a).suggestionText = nonEmpty? a.suggestionText ∧
      (ofAnalysis s a).fixedCode = nonEmpty? a.fixedCode ∧
      (ofAnalysis s a).explanation = nonEmpty? a.explanation ∧
      (ofAnalysis s a).performanceTips = a.performanceTips.bind nonEmpty? := by
  unfold ofAnalysis
  cases s.isValid <;> cases a.isPotentiallyBuggy <;> exact ⟨rfl, rfl, rfl, rfl⟩

theorem ofAnalysis_isVerdict (s : SyntaxResult) (a : Analysis) :
    IsVerdict s (.ok a) (ofAnalysis s a) := by
  have hkind := ofAnalysis_kind s a
  have hruntime : (ofAnalysis s a).kind ≠ .runtime := by
    rw [hkind]
    split
    · decide
    · split <;> decide
  have hfailed : ∀ d : Diagnosis, d.kind = .runtime → ofAnalysis s a ≠ d := by
    rintro d hd rfl
    exact hruntime hd
  constructor
  case admitted => simp [checked, fault?, ofAnalysis_severity, hruntime]
  case severity => exact ofAnalysis_severity s a
  case valid =>
    rw [ofAnalysis_isValid, hkind]
    cases s.isValid <;> cases a.isPotentiallyBuggy <;> simp
  case runtime => simp [hruntime]
  case denied => simp [hfailed denied rfl]
  case unreviewed => simp [hfailed unreviewed rfl]
  case syntactic | logical | clean =>
    rw [hkind]
    cases s.isValid <;> cases hbuggy : a.isPotentiallyBuggy <;> simp [hbuggy]

/-- **What verdict and review are merged into.** -/
theorem merge_isVerdict (s : SyntaxResult) (reviewed : Except Failure Analysis) :
    IsVerdict s reviewed (merge s reviewed) := by
  cases reviewed with
  | error f => exact ofFailure_isVerdict s f
  | ok a => exact ofAnalysis_isVerdict s a

/-! ### Success -/

/-- A reply that lets a valid snippet pass: it says nothing, or it is an object of the schema
    that finds no bug. -/
def Passes (reply : Option Text) : Prop :=
  SaysNothing reply ∨
    ∃ t members a, reply = some t ∧ Json.decode (unfence t) = .ok (.object members) ∧
      Gives members a ∧ a.isPotentiallyBuggy = false

/-- A reply passes if it is read, and nothing in it is called a bug. -/
theorem passes_iff {reply : Option Text} :
    Passes reply ↔ ∃ a, readReply reply = .ok a ∧ a.isPotentiallyBuggy = false := by
  constructor
  · rintro (hnothing | ⟨t, members, a, rfl, hdecode, hgives, hclean⟩)
    · exact ⟨.empty, readReply_of_saysNothing hnothing, rfl⟩
    · rcases saysNothing_or_text (some t) with hnothing | ⟨_, ht, hblank⟩
      · exact ⟨.empty, readReply_of_saysNothing hnothing, rfl⟩
      · cases ht
        have hread := readReply_eq_ok_iff.mpr (.inr ⟨t, members, rfl, hblank, hdecode, hgives⟩)
        exact ⟨a, hread, hclean⟩
  · rintro ⟨a, hread, hclean⟩
    rcases readReply_eq_ok_iff.mp hread with ⟨hnothing, _⟩ | ⟨t, members, rfl, _, hdecode, hgives⟩
    · exact .inl hnothing
    · exact .inr ⟨t, members, a, rfl, hdecode, hgives, hclean⟩

/-- The calls of a review, made with a credential, end in a reply that passes. -/
def EndsInPass (c : Config) (calls : Nat → Call) : Prop :=
  (∃ key, c.credential? = some key) ∧
    ∃ n reply, EndsAt c calls 1 n ∧ (calls n).result = .replied reply ∧ Passes reply

/-- A review passes if the call that decides it has such a reply. -/
theorem endsInPass_iff {c : Config} {request : Request} {reviewer : Reviewer} :
    EndsInPass c (reviewer (prompt request)) ↔
      ∃ a, (review c request reviewer).result = .ok a ∧ a.isPotentiallyBuggy = false := by
  simp only [EndsInPass, passes_iff, review_eq_ok_iff]
  constructor
  · rintro ⟨hkey, n, reply, hends, hcall, a, hread, hclean⟩
    exact ⟨a, ⟨hkey, n, reply, hends, hcall, hread⟩, hclean⟩
  · rintro ⟨a, ⟨hkey, n, reply, hends, hcall, hread⟩, hclean⟩
    exact ⟨hkey, n, reply, hends, hcall, a, hread, hclean⟩

/-- A diagnosis is a success if the snippet is valid and the review passes. -/
theorem IsVerdict.success_iff {s : SyntaxResult} {reviewed : Except Failure Analysis}
    {d : Diagnosis} (h : IsVerdict s reviewed d) :
    d.severity = .success ↔
      s.isValid = true ∧ ∃ a, reviewed = .ok a ∧ a.isPotentiallyBuggy = false := by
  rw [← h.clean, h.severity]
  cases d.kind <;> simp [DiagnosisKind.severity]

/-! ### The program -/

/-- A run of the program on a snippet with these options asks for this diagnosis. -/
structure Asks (parse : Text → ParserAnswer) (w : World) (o : CheckOptions) (mode : Mode)
    (snippet : Text) (answer : ParserAnswer) (c : Config) (reviewer : Reviewer) : Prop where
  reading : modeOf o = mode
  answered : parse (sourceFor mode snippet) = answer
  settings : configOf w o = .ok c
  asked : (Contact.ofConfig c).reviewer w.client = reviewer

/-- A diagnosis of a review that has a half somewhere: with marks for halves it is another. -/
def HasHalf (d : Diagnosis) (marked : Except Failure Diagnosis) : Prop :=
  d.kind ≠ .runtime ∧ ∃ m, marked = .ok m ∧ m ≠ d

theorem printed_of_hasHalf {o : CheckOptions} {d : Diagnosis} {marked : Except Failure Diagnosis}
    (h : HasHalf d marked) : ∃ f, printed o d marked = .error f := by
  obtain ⟨hkind, m, rfl, hne⟩ := h
  exact ⟨_, if_pos ⟨hkind, hne⟩⟩

theorem printed_of_not_hasHalf {o : CheckOptions} {d : Diagnosis}
    {marked : Except Failure Diagnosis} (h : ¬ HasHalf d marked) :
    printed o d marked = .ok (CommandLine.diagnosisText o d) := by
  cases marked with
  | error f => rfl
  | ok m => exact if_neg fun ⟨hkind, hne⟩ => h ⟨hkind, m, rfl, hne⟩

section Program

variable {parse : Text → ParserAnswer} {w : World} {o : CheckOptions} {mode : Mode}
  {snippet : Text} {answer : ParserAnswer} {c : Config} {reviewer : Reviewer} {d : Diagnosis}

/-- A diagnosis with half of a surrogate pair is not printed. -/
theorem runReviewed_of_hasHalf (hasks : Asks parse w o mode snippet answer c reviewer)
    (h : (diagnose mode answer c reviewer snippet).result = .ok d)
    (hhalf : HasHalf d (diagnose mode answer c (Reviewer.marked reviewer) snippet).result) :
    (runReviewed parse w o snippet).ending = .unprinted := by
  obtain ⟨rfl, rfl, hsettings, rfl⟩ := hasks
  obtain ⟨f, hf⟩ := printed_of_hasHalf (o := o) hhalf
  simp only [runReviewed, hsettings, CommandLine.reported, h, hf]

theorem runReviewed_of_not_hasHalf (hasks : Asks parse w o mode snippet answer c reviewer)
    (h : (diagnose mode answer c reviewer snippet).result = .ok d)
    (hhalf : ¬ HasHalf d (diagnose mode answer c (Reviewer.marked reviewer) snippet).result) :
    (runReviewed parse w o snippet).ending = .exit (exitStatus d) := by
  obtain ⟨rfl, rfl, hsettings, rfl⟩ := hasks
  simp only [runReviewed, hsettings, CommandLine.reported, h, printed_of_not_hasHalf hhalf]

end Program

theorem exitStatus_eq_statusOk_iff (d : Diagnosis) :
    exitStatus d = statusOk ↔ d.severity = .success := by
  rw [exitStatus, isSuccess]
  by_cases h : d.severity = .success <;> simp [h, statusOk, statusFindings]

/-- **The verdict.**  A snippet that the check gives a result for gets a diagnosis, whatever
    the reviewer does that can be handled.  It is the one that the check and the review call
    for; it is a success exactly when the snippet is valid and the calls end in a reply that
    passes.  The status 0 stands for a success and for nothing else, and the program ends with
    it exactly for a success that has no half of a surrogate pair in its texts. -/
theorem diagnose_verdict {mode : Mode} {answer : ParserAnswer} {snippet : Text}
    {s : SyntaxResult} {c : Config} {reviewer : Reviewer}
    (hcheck : verdict mode snippet answer = .ok s)
    (hreviewer : ∀ n f, (reviewer (prompt (requestFor snippet s)) n).result = .failed f →
      f.kind.handled = true) :
    ∃ d, (diagnose mode answer c reviewer snippet).result = .ok d ∧
      IsVerdict s (review c (requestFor snippet s) reviewer).result d ∧
      (d.severity = .success ↔
        s.isValid = true ∧ EndsInPass c (reviewer (prompt (requestFor snippet s)))) ∧
      (exitStatus d = statusOk ↔ d.severity = .success) ∧
      ∀ parse w o, Asks parse w o mode snippet answer c reviewer →
        ((runReviewed parse w o snippet).ending = .exit statusOk ↔ d.severity = .success ∧
          ¬ HasHalf d (diagnose mode answer c (Reviewer.marked reviewer) snippet).result) := by
  have hresult := diagnose_eq_ok (c := c) hcheck fun f => review_error_handled hreviewer
  have hverdict := merge_isVerdict s (review c (requestFor snippet s) reviewer).result
  refine ⟨_, hresult, hverdict, ?_, exitStatus_eq_statusOk_iff _, ?_⟩
  · rw [hverdict.success_iff, endsInPass_iff]
  · intro parse w o hasks
    by_cases hhalf : HasHalf (merge s (review c (requestFor snippet s) reviewer).result)
        (diagnose mode answer c (Reviewer.marked reviewer) snippet).result
    · rw [runReviewed_of_hasHalf hasks hresult hhalf]
      exact ⟨nofun, fun h => absurd hhalf h.2⟩
    · rw [runReviewed_of_not_hasHalf hasks hresult hhalf, CommandLine.Ending.exit.injEq,
        exitStatus_eq_statusOk_iff]
      exact (and_iff_left hhalf).symm

/-- A reviewer that is reached at the second attempt and says nothing. -/
def reachedLate : Reviewer := fun _ n =>
  if n = 1 then ⟨.failed ⟨.transport, "down", none⟩, []⟩ else ⟨.replied none, []⟩

theorem diagnose_verdict_reachedLate :
    verdict .script "x();" (.program []) = .ok ⟨true, okMessage, none, none⟩ ∧
    (∀ n f, (reachedLate (prompt ⟨"x();", none⟩) n).result = .failed f →
      f.kind.handled = true) ∧
    ∃ d, (diagnose .script (.program []) relentless reachedLate "x();").result = .ok d ∧
      d.severity = .success := by
  have hcheck : verdict .script "x();" (.program []) = .ok ⟨true, okMessage, none, none⟩ := rfl
  have hreviewer : ∀ n f, (reachedLate (prompt ⟨"x();", none⟩) n).result = .failed f →
      f.kind.handled = true := by
    intro n f h
    rw [reachedLate] at h
    split at h <;> cases h
    rfl
  have hretried : retries relentless 1 (reachedLate (prompt ⟨"x();", none⟩) 1).result = true :=
    retries_eq_true_iff.mpr ⟨_, rfl, rfl, by decide, hasPause_relentless.mpr (by decide)⟩
  have hends : EndsAt relentless (reachedLate (prompt ⟨"x();", none⟩)) 1 2 :=
    .cons hretried (.refl rfl)
  obtain ⟨d, hd, _, hsuccess, _⟩ := diagnose_verdict (c := relentless) hcheck hreviewer
  refine ⟨hcheck, hreviewer, d, hd, hsuccess.mpr ⟨rfl, ⟨_, rfl⟩, 2, none, hends, rfl, .inl ?_⟩⟩
  intro t h
  cases h

end ScriptDiagnosis.Diagnosis
