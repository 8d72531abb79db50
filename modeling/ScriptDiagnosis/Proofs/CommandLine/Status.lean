/-
  ScriptDiagnosis/Proofs/CommandLine/Status.lean
  ==============================================
  **The status of a check.**  It is 2 exactly when there is nothing to check: the file cannot be
  read, or its text is blank; nothing is printed then.  A check of the syntax alone has the status
  of its verdict, and neither the environment nor the provider's client makes any difference to
  it.  Any other check is successful exactly when the snippet is valid, its review passes, and the
  diagnosis can be printed.  What that takes is said in terms of the clients alone: the first few
  of them fail on the way, and the next says nothing or says that there is no bug, with no half of
  a surrogate pair in a text that is shown (`ReviewedLaws`).

  No client is made where none is needed: not when there is nothing to check, not for the syntax
  alone, and not without a key.  All of it is in `StatusLaws`.
-/
import ScriptDiagnosis.Proofs.CommandLine.Replies

namespace ScriptDiagnosis.CommandLine
open Text SyntaxCheck Provider Review
open Diagnosis (Passes HasHalf diagnose requestFor)

/-! ### What a check comes to -/

/-- The file cannot be read, or there is nothing in it but white space. -/
def NothingToCheck (w : World) (o : CheckOptions) : Prop :=
  (∃ f, readSnippet w o = .error f ∧ f.kind.isA .system = true) ∨
    ∃ t, readSnippet w o = .ok t ∧ isBlankText t = true

/-- There is a text to check, and the check gives a result for it. -/
structure Checks (parse : Text → ParserAnswer) (w : World) (o : CheckOptions) (t : Text)
    (r : SyntaxResult) : Prop where
  read : readSnippet w o = .ok t
  filled : isBlankText t = false
  verdict : check parse (modeOf o) t = .ok r

/-- No client of the provider was made, and nothing was sent. -/
structure AsksNobody (r : Outcome) : Prop where
  clients : r.clients = []
  queries : r.queries = []

variable {parse : Text → ParserAnswer} {w : World} {o : CheckOptions} {c : Config}

/-! ### What is seen of a diagnosis -/

theorem runReviewed_eq (h : configOf w o = .ok c) (t : Text) :
    runReviewed parse w o t =
      reported o (Contact.ofConfig c) w.client
        (diagnose (modeOf o) (parse (sourceFor (modeOf o) t)) c
          ((Contact.ofConfig c).reviewer w.client) t)
        (diagnose (modeOf o) (parse (sourceFor (modeOf o) t)) c
          (Reviewer.marked ((Contact.ofConfig c).reviewer w.client)) t).result := by
  rw [runReviewed, h]

/-- A diagnosis is never told as if there was nothing to check. -/
theorem reported_ending_ne (contact : Contact) (client : Nat → Client) (t : Diagnosis.Trace)
    (marked : Except Failure Diagnosis) :
    (reported o contact client t marked).ending ≠ .exit 2 := by
  rw [reported]
  split
  · intro hending
    cases hending
  · next d _ =>
    split
    · intro hending
      cases hending
    · dsimp only
      rw [exitStatus]
      split <;> decide

theorem reported_asksNobody (contact : Contact) (client : Nat → Client) {t : Diagnosis.Trace}
    (marked : Except Failure Diagnosis) (h : t.prompts = []) :
    AsksNobody (reported o contact client t marked) := by
  rw [reported, h]
  split
  · exact ⟨rfl, rfl⟩
  · split <;> exact ⟨rfl, rfl⟩

/-! ### Where there is nothing to check -/

/-- Where there is nothing to check, the status is two, and nothing else happens. -/
theorem runCheck_of_nothing (h : NothingToCheck w o) :
    (runCheck parse w o).ending = .exit 2 ∧ (runCheck parse w o).stdout = [] ∧
      AsksNobody (runCheck parse w o) := by
  rcases h with ⟨f, hread, hsystem⟩ | ⟨t, hread, hblank⟩
  · rw [runCheck, hread]
    dsimp only
    rw [if_pos hsystem]
    exact ⟨rfl, rfl, rfl, rfl⟩
  · rw [runCheck, hread]
    dsimp only
    rw [if_pos hblank]
    exact ⟨rfl, rfl, rfl, rfl⟩

theorem runSyntaxOnly_ending_ne (t : Text) : (runSyntaxOnly parse o t).ending ≠ .exit 2 := by
  rw [runSyntaxOnly]
  split
  · nofun
  · dsimp only
    split <;> decide

theorem runReviewed_ending_ne (t : Text) : (runReviewed parse w o t).ending ≠ .exit 2 := by
  cases hconfig : configOf w o with
  | error f =>
    rw [runReviewed, hconfig]
    intro hending
    cases hending
  | ok c =>
    rw [runReviewed_eq hconfig]
    exact reported_ending_ne _ _ _ _

theorem runCheck_ending_ne (h : ¬ NothingToCheck w o) : (runCheck parse w o).ending ≠ .exit 2 := by
  rw [runCheck]
  split
  · next f hread =>
    split
    · next hsystem => exact absurd (.inl ⟨f, hread, hsystem⟩) h
    · nofun
  · next t hread =>
    split
    · next hblank => exact absurd (.inr ⟨t, hread, hblank⟩) h
    · split
      · exact runSyntaxOnly_ending_ne t
      · exact runReviewed_ending_ne t

/-! ### Where there is something to check -/

section Checked

variable {t : Text} {r : SyntaxResult}

theorem runSyntaxOnly_ending (hcheck : check parse (modeOf o) t = .ok r) :
    (runSyntaxOnly parse o t).ending = .exit (if r.isValid then 0 else 1) ∧
      AsksNobody (runSyntaxOnly parse o t) := by
  rw [runSyntaxOnly, Diagnosis.loggedVerdict_of_ok hcheck]
  exact ⟨rfl, rfl, rfl⟩

/-- Without a key nobody is asked, whatever the clients would do. -/
theorem runReviewed_of_no_key (hcheck : check parse (modeOf o) t = .ok r)
    (hsettings : configOf w o = .ok c) (hkey : ¬ ∃ key, c.credential? = some key) :
    (runReviewed parse w o t).ending = .exit 1 ∧ AsksNobody (runReviewed parse w o t) := by
  have hnone : c.credential? = none := by
    rw [Option.eq_none_iff_forall_ne_some]
    intro key hsome
    exact hkey ⟨key, hsome⟩
  have hreview := review_of_no_credential hnone (requestFor t r)
    ((Contact.ofConfig c).reviewer w.client)
  have hhandled : ∀ f,
      (review c (requestFor t r) ((Contact.ofConfig c).reviewer w.client)).result = .error f →
        f.kind.handled = true := by
    intro f hf
    rw [hreview] at hf
    cases hf
    rfl
  have hresult := Diagnosis.diagnose_eq_ok hcheck hhandled
  constructor
  · -- the texts of a failed review are the program's own
    have hhalf : ∀ marked, ¬ HasHalf (Diagnosis.merge r (.error Review.noCredential)) marked :=
      fun _ h => absurd rfl h.1
    rw [hreview] at hresult
    exact Diagnosis.runReviewed_of_not_hasHalf ⟨rfl, rfl, hsettings, rfl⟩ hresult (hhalf _)
  · rw [runReviewed_eq hsettings]
    apply reported_asksNobody
    rw [Diagnosis.diagnose_prompts hcheck, hreview]

/-- How a check with a review ends, for the settings and the clients of its run. -/
structure ReviewedLaws (w : World) (maxAttempts : Int) (r : SyntaxResult) (ending : Ending) :
    Prop where
  success : ending = .exit 0 ↔ r.isValid = true ∧ HasKey w.environment ∧
    ∃ t, RepliesWithin maxAttempts w.client t ∧ Passes (some t) ∧ ¬ ShowsHalf r t
  /-- The review has come to a diagnosis that standard output refuses. -/
  unprinted : ending = .unprinted ↔
    HasKey w.environment ∧ ∃ t, RepliesWithin maxAttempts w.client t ∧ ShowsHalf r t
  others : ending = .exit 0 ∨ ending = .exit 1 ∨ ending = .unprinted

/-- **How a check with a review ends,** by the key, the verdict and the replies. -/
theorem runReviewed_status (hcheck : check parse (modeOf o) t = .ok r)
    (hsettings : configOf w o = .ok c)
    (hkeys : HasKey w.environment ↔ ∃ key, c.credential? = some key)
    (hclient : Manageable w.client) :
    ReviewedLaws w c.maxAttempts r (runReviewed parse w o t).ending := by
  by_cases hkey : ∃ key, c.credential? = some key
  · have hhas := hkeys.mpr hkey
    obtain ⟨key, hsome⟩ := hkey
    have hpauses := hasPause_configOf hsettings
    have hmanaged := hclient.reviewer (Contact.ofConfig c) (prompt (requestFor t r))
    -- with a key there is a diagnosis, whatever the clients do
    have hresult := Diagnosis.diagnose_eq_ok (c := c) hcheck fun f =>
      Diagnosis.review_error_handled hmanaged
    have hhalf := hasHalf_iff hcheck hsome hpauses hclient
    have hasks : Diagnosis.Asks parse w o (modeOf o) t (parse (sourceFor (modeOf o) t)) c
        ((Contact.ofConfig c).reviewer w.client) := ⟨rfl, rfl, hsettings, rfl⟩
    by_cases hshown : ∃ reply, RepliesWithin c.maxAttempts w.client reply ∧ ShowsHalf r reply
    · -- the clients reply once, so no other reply can pass
      have hending := Diagnosis.runReviewed_of_hasHalf hasks hresult (hhalf.mpr hshown)
      obtain ⟨reply, hwithin, hshows⟩ := hshown
      rw [hending]
      constructor
      case success =>
        constructor
        · intro h
          cases h
        · rintro ⟨_, _, other, hother, _, hnot⟩
          rw [hother.unique hwithin] at hnot
          exact absurd hshows hnot
      case unprinted => exact ⟨fun _ => ⟨hhas, reply, hwithin, hshows⟩, fun _ => rfl⟩
      case others => exact .inr (.inr rfl)
    · have hsuccess := (Diagnosis.merge_isVerdict r (review c (requestFor t r)
        ((Contact.ofConfig c).reviewer w.client)).result).success_iff
      rw [← Diagnosis.endsInPass_iff, endsInPass_ofConfig_iff hpauses,
        ← Diagnosis.exitStatus_eq_statusOk_iff] at hsuccess
      rw [Diagnosis.runReviewed_of_not_hasHalf hasks hresult (mt hhalf.mp hshown)]
      constructor
      case success =>
        rw [Ending.exit.injEq]
        refine hsuccess.trans ?_
        constructor
        · rintro ⟨hvalid, _, reply, hwithin, hpasses⟩
          exact ⟨hvalid, hhas, reply, hwithin, hpasses, fun h => hshown ⟨reply, hwithin, h⟩⟩
        · rintro ⟨hvalid, _, reply, hwithin, hpasses, _⟩
          exact ⟨hvalid, ⟨key, hsome⟩, reply, hwithin, hpasses⟩
      case unprinted =>
        constructor
        · intro h
          cases h
        · intro h
          exact absurd h.2 hshown
      case others =>
        rw [exitStatus]
        split
        · exact .inl rfl
        · exact .inr (.inl rfl)
  · have hnokey := mt hkeys.mp hkey
    rw [(runReviewed_of_no_key hcheck hsettings hkey).1]
    constructor
    case success =>
      constructor
      · intro h
        cases h
      · intro h
        exact absurd h.2.1 hnokey
    case unprinted =>
      constructor
      · intro h
        cases h
      · intro h
        exact absurd h.1 hnokey
    case others => exact .inr (.inl rfl)

end Checked

/-! ### The status -/

/-- What the status of a check says, and when nobody is asked. -/
structure StatusLaws (parse : Text → ParserAnswer) (w : World) (args : List Text)
    (o : CheckOptions) : Prop where
  nothing : (run parse w args).ending = .exit 2 ↔ NothingToCheck w o
  silent : NothingToCheck w o → (run parse w args).stdout = [] ∧ AsksNobody (run parse w args)
  syntaxOnly : o.syntaxOnly = true → ∀ t r, Checks parse w o t r →
    (run parse w args).ending = .exit (if r.isValid then 0 else 1) ∧
      AsksNobody (run parse w args)
  /-- A check of the syntax alone looks neither at the environment nor at the clients. -/
  unseen : o.syntaxOnly = true → ∀ environment client,
    run parse { w with environment, client } args = run parse w args
  reviewed : o.syntaxOnly = false → ∀ t r c, Checks parse w o t r →
    Config.ofEnvironment w.environment = .ok c → Manageable w.client →
    ReviewedLaws w c.maxAttempts r (run parse w args).ending
  keyless : o.syntaxOnly = false → ∀ t r c, Checks parse w o t r →
    Config.ofEnvironment w.environment = .ok c → ¬ HasKey w.environment →
    (run parse w args).ending = .exit 1 ∧ AsksNobody (run parse w args)

theorem Checks.runCheck_eq {t : Text} {r : SyntaxResult} (h : Checks parse w o t r) :
    runCheck parse w o =
      if o.syntaxOnly then runSyntaxOnly parse o t else runReviewed parse w o t := by
  rw [runCheck, h.read]
  dsimp only
  rw [if_neg (by simp [h.filled])]

/-- A run looks at the environment and at the clients for a review alone. -/
theorem runCheck_unseen (honly : o.syntaxOnly = true) (environment : Config.Environment)
    (client : Nat → Client) :
    runCheck parse { w with environment, client } o = runCheck parse w o := by
  have hread : readSnippet { w with environment, client } o = readSnippet w o := rfl
  rw [runCheck, runCheck, hread]
  simp only [if_pos honly]

/-- A parser that finds one statement. -/
def oneStatement : Text → ParserAnswer := fun _ => .program [⟨3, 1⟩]

/-- A key, two attempts, a client that cannot be entered, and one that says nothing. -/
def secondTry : World where
  stdin := [0x78, 0x28, 0x29, 0x3b]
  read := fun _ => .ok []
  environment := fun name =>
    if name = Config.keyVariable then some "k"
    else if name = Config.attemptsVariable then some "2" else none
  client := fun n =>
    if n = 1 then { entering := some ⟨.connection, "Connection refused", none⟩ } else {}

/-- A reply that finds no bug, with one half of a surrogate pair for a suggestion. -/
def halfReply : Text :=
  ("\x7b\"isPotentiallyBuggy\": false, \"aiSuggestion\": \"\\ud83d\", " : Text) ++
    "\"fixedCode\": \"\", \"logicalErrorExplanation\": \"\"\x7d"

/-- A key, and a client that gives this reply. -/
def halfShown : World where
  stdin := [0x78, 0x28, 0x29, 0x3b]
  read := fun _ => .ok []
  environment := fun name => if name = Config.keyVariable then some "k" else none
  client := fun _ => { events := [.assistant [.text halfReply]] }

end ScriptDiagnosis.CommandLine
