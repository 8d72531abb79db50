/-
  ScriptDiagnosis/Proofs/CommandLine/Credential.lean
  ==================================================
  **The credential shows nowhere.**  Two runs that differ in a key alone, with a key each, end
  alike, print alike, log alike, pause alike and send the same prompts, and the clients that they
  make differ in the key alone (`credential_immaterial`).  The client itself is taken to behave
  the same for both keys.

  A key is looked at in two places.  A review asks whether there is one, and the client's options
  take it over; neither what is decided after a call nor what is said of a failure reads it.
-/
import ScriptDiagnosis.Proofs.CommandLine.Status
import ScriptDiagnosis.Proofs.Review.Timeline

namespace ScriptDiagnosis

/-! ### The same with another key -/

/-- The settings, with this key. -/
def Config.withKey (c : Config) (key : Text) : Config := { c with apiKey := some key }

/-- The options, with this key. -/
def Provider.Options.withKey (o : Provider.Options) (key : Text) : Provider.Options :=
  { o with apiKey := key }

namespace CommandLine
open Text SyntaxCheck Provider Review
open Diagnosis (diagnose)

/-- What a run can see, with this key in the environment. -/
def World.withKey (w : World) (key : Text) : World :=
  { w with environment := fun name =>
      if name = Config.keyVariable then some key else w.environment name }

/-- What is seen of a run, with this key in the options of its clients. -/
def Outcome.withKey (r : Outcome) (key : Text) : Outcome :=
  { r with clients := r.clients.map fun o => o.withKey key }

/-! ### Settings -/

variable {key key' : Text} {c : Config}

theorem credential?_withKey (hkey : key ≠ []) : (c.withKey key).credential? = some key := by
  simp [Config.credential?, Config.withKey, hkey]

/-- Which key it is does not decide whether settings are admitted. -/
theorem make_withKey (apiKey : Option Text) (model : Text) (cliPath : Option Text)
    (maxTurns maxAttempts : Int) (backoff : Seconds) :
    Config.make (some key) model cliPath maxTurns maxAttempts backoff =
      (Config.make apiKey model cliPath maxTurns maxAttempts backoff).map fun c =>
        c.withKey key := by
  rw [Config.make, Config.make]
  split
  · split
    · rfl
    · rfl
  · rfl

theorem environment_withKey_of_ne (w : World) {name : Text} (h : name ≠ Config.keyVariable) :
    (w.withKey key).environment name = w.environment name := by
  rw [World.withKey]
  exact if_neg h

theorem ofEnvironment_withKey (w : World) (key : Text) :
    Config.ofEnvironment (w.withKey key).environment =
      (Config.ofEnvironment w.environment).map fun c => c.withKey key := by
  have hkey : (w.withKey key).environment Config.keyVariable = some key := by
    simp [World.withKey]
  rw [Config.ofEnvironment, Config.ofEnvironment, hkey,
    environment_withKey_of_ne w (show Config.attemptsVariable ≠ Config.keyVariable by decide),
    environment_withKey_of_ne w (show Config.modelVariable ≠ Config.keyVariable by decide),
    environment_withKey_of_ne w (show Config.cliPathVariable ≠ Config.keyVariable by decide)]
  cases readInteger ((w.environment Config.attemptsVariable).getD "1") with
  | error f => rfl
  | ok n => exact make_withKey _ _ _ _ _ _

/-- The settings of two runs with different keys differ in the key alone. -/
theorem configOf_withKey (w : World) (o : CheckOptions) (key : Text) :
    configOf (w.withKey key) o = (configOf w o).map fun c => c.withKey key := by
  rw [configOf, configOf, ofEnvironment_withKey]
  cases Config.ofEnvironment w.environment with
  | error f => rfl
  | ok c =>
    cases o.model with
    | none => rfl
    | some m =>
      by_cases hempty : m.isEmpty = true
      · simp [Except.map, hempty]
      · simp [Except.map, hempty, Config.withKey]

/-! ### Reviews -/

/-- No decision after a call reads the key. -/
theorem afterCall_withKey (c : Config) (key : Text) (attempt : Nat) (r : CallResult) :
    afterCall (c.withKey key) attempt r = afterCall c attempt r := rfl

/-- No attempt looks at the key. -/
theorem attempts_withKey (c : Config) (key prompt : Text) (calls : Nat → Call) (attempt : Nat) :
    attempts (c.withKey key) prompt calls attempt = attempts c prompt calls attempt := by
  -- the number of attempts that are left falls with every call that is retried
  rcases hafter : afterCall c attempt (calls attempt).result with ⟨logs, decision⟩
  have hkeyed : afterCall (c.withKey key) attempt (calls attempt).result = (logs, decision) := by
    rw [afterCall_withKey, hafter]
  cases decision with
  | finish result => rw [attempts_of_finish prompt hkeyed, attempts_of_finish prompt hafter]
  | retry d =>
    have hleft := afterCall_retry_lt hafter
    have hrest := attempts_withKey c key prompt calls (attempt + 1)
    rw [attempts_of_retry prompt hkeyed, attempts_of_retry prompt hafter, hrest]
termination_by (c.maxAttempts - attempt).toNat
decreasing_by omega

theorem review_withKey (hkey : key ≠ []) (request : Review.Request) (reviewer : Reviewer) :
    review (c.withKey key) request reviewer =
      attempts c (prompt request) (reviewer (prompt request)) 1 := by
  rw [review, credential?_withKey hkey]
  exact attempts_withKey c key _ _ 1

theorem review_withKey_eq (hkey : key ≠ []) (hkey' : key' ≠ []) (request : Review.Request)
    (reviewer : Reviewer) :
    review (c.withKey key') request reviewer = review (c.withKey key) request reviewer := by
  rw [review_withKey hkey, review_withKey hkey']

theorem diagnose_withKey_eq (hkey : key ≠ []) (hkey' : key' ≠ []) (mode : Mode)
    (answer : ParserAnswer) (reviewer : Reviewer) (snippet : Text) :
    diagnose mode answer (c.withKey key') reviewer snippet =
      diagnose mode answer (c.withKey key) reviewer snippet := by
  simp only [diagnose, review_withKey_eq hkey hkey']

/-! ### Runs -/

/-- Of all that is seen, only the options of the clients have the key. -/
theorem reported_withKey (o : CheckOptions) (options : Options) (client : Nat → Client)
    (t : Diagnosis.Trace) (marked : Except Failure Diagnosis) (key : Text) :
    reported o (.ready (options.withKey key)) client t marked =
      (reported o (.ready options) client t marked).withKey key := by
  have hclients : (t.prompts.flatMap fun _ => (Contact.ready (options.withKey key)).clients) =
      (t.prompts.flatMap fun _ => (Contact.ready options).clients).map fun o => o.withKey key := by
    rw [List.map_flatMap]
    rfl
  rw [reported, reported, hclients]
  split
  · rfl
  · split <;> rfl

theorem ofConfig_withKey (hkey : key ≠ []) : Contact.ofConfig (c.withKey key) =
    .ready ⟨some systemPrompt, c.model, c.maxTurns, [], key, c.cliPath⟩ := by
  rw [Contact.ofConfig, options?, credential?_withKey hkey]
  rfl

/-- A run hands the key to its clients, and to nobody else. -/
theorem runReviewed_withKey (hkey : key ≠ []) (hkey' : key' ≠ []) (parse : Text → ParserAnswer)
    (w : World) (o : CheckOptions) (t : Text) :
    runReviewed parse (w.withKey key') o t =
      (runReviewed parse (w.withKey key) o t).withKey key' := by
  cases hconfig : configOf w o with
  | error f =>
    have hfails : ∀ k, configOf (w.withKey k) o = .error f := fun k => by
      rw [configOf_withKey, hconfig]
      rfl
    rw [runReviewed, hfails, runReviewed, hfails]
    rfl
  | ok c =>
    have hsettings : ∀ k, configOf (w.withKey k) o = .ok (c.withKey k) := fun k => by
      rw [configOf_withKey, hconfig]
      rfl
    -- what a client does is not read off its options, so the reviewers are the same
    have hreviewer : (Contact.ofConfig (c.withKey key')).reviewer w.client =
        (Contact.ofConfig (c.withKey key)).reviewer w.client := by
      rw [ofConfig_withKey hkey, ofConfig_withKey hkey']
      rfl
    rw [runReviewed_eq (hsettings key'), runReviewed_eq (hsettings key)]
    have hclient : ∀ k, (w.withKey k).client = w.client := fun _ => rfl
    rw [hclient, hclient, hreviewer, diagnose_withKey_eq hkey hkey',
      diagnose_withKey_eq hkey hkey', ofConfig_withKey hkey, ofConfig_withKey hkey']
    exact reported_withKey o ⟨some systemPrompt, c.model, c.maxTurns, [], key, c.cliPath⟩
      w.client _ _ key'

theorem runSyntaxOnly_withKey (parse : Text → ParserAnswer) (o : CheckOptions) (t : Text)
    (key : Text) : (runSyntaxOnly parse o t).withKey key = runSyntaxOnly parse o t := by
  rw [runSyntaxOnly]
  split
  · rfl
  · rfl

/-- Nothing before the review looks at the key. -/
theorem runCheck_withKey (hkey : key ≠ []) (hkey' : key' ≠ []) (parse : Text → ParserAnswer)
    (w : World) (o : CheckOptions) :
    runCheck parse (w.withKey key') o = (runCheck parse (w.withKey key) o).withKey key' := by
  have hread : ∀ k, readSnippet (w.withKey k) o = readSnippet w o := fun _ => rfl
  rw [runCheck, runCheck, hread, hread]
  cases readSnippet w o with
  | error f =>
    dsimp only
    split <;> rfl
  | ok t =>
    dsimp only
    split
    · rfl
    · split
      · exact (runSyntaxOnly_withKey parse o t key').symm
      · exact runReviewed_withKey hkey hkey' parse w o t

theorem run_withKey (hkey : key ≠ []) (hkey' : key' ≠ []) (parse : Text → ParserAnswer)
    (w : World) (args : List Text) :
    run parse (w.withKey key') args = (run parse (w.withKey key) args).withKey key' := by
  rw [run, run]
  cases readArguments args with
  | help topic => rfl
  | refused topic fault => rfl
  | check o => exact runCheck_withKey hkey hkey' parse w o

/-- The key of the environment is the one that the clients get. -/
theorem apiKey_of_client (hkey : key ≠ []) {parse : Text → ParserAnswer} {w : World}
    {args : List Text} {o : Options} (h : o ∈ (run parse (w.withKey key) args).clients) :
    o.apiKey = key := by
  rw [run_withKey hkey hkey] at h
  obtain ⟨o', _, rfl⟩ := List.mem_map.mp h
  rfl

/-- **The credential shows nowhere.**  Two runs with a key each, and the same otherwise, are seen
    to be the same but for the key that the clients get; two diagnoses and two reviews are the same
    altogether. -/
theorem credential_immaterial {key key' : Text} (hkey : key ≠ []) (hkey' : key' ≠ []) :
    (∀ parse (w : World) args,
      run parse (w.withKey key') args = (run parse (w.withKey key) args).withKey key' ∧
        ∀ o ∈ (run parse (w.withKey key) args).clients, o.apiKey = key) ∧
    (∀ mode answer (c : Config) reviewer snippet,
      diagnose mode answer (c.withKey key') reviewer snippet =
        diagnose mode answer (c.withKey key) reviewer snippet) ∧
    ∀ (c : Config) request reviewer,
      review (c.withKey key') request reviewer = review (c.withKey key) request reviewer := by
  refine ⟨?_, ?_, ?_⟩
  · intro parse w args
    exact ⟨run_withKey hkey hkey' parse w args, fun _ => apiKey_of_client hkey⟩
  · intro mode answer c reviewer snippet
    exact diagnose_withKey_eq hkey hkey' mode answer reviewer snippet
  · intro c request reviewer
    exact review_withKey_eq hkey hkey' request reviewer

/-- A snippet on standard input, and clients that say nothing. -/
def keyless : World where
  stdin := [0x78, 0x28, 0x29, 0x3b]
  read := fun _ => .ok []
  environment := fun _ => none
  client := fun _ => {}

theorem credential_immaterial_keyless :
    ("k" : Text) ≠ [] ∧ ("other" : Text) ≠ [] ∧
    run (fun _ => .program [⟨3, 1⟩]) (keyless.withKey "other") ["check"] =
      (run (fun _ => .program [⟨3, 1⟩]) (keyless.withKey "k") ["check"]).withKey "other" ∧
    (run (fun _ => .program [⟨3, 1⟩]) (keyless.withKey "k") ["check"]).clients.map Options.apiKey =
      ["k"] := by
  have hkey : ("k" : Text) ≠ [] := by decide
  have hkey' : ("other" : Text) ≠ [] := by decide
  have hsame := ((credential_immaterial hkey hkey').1 (fun _ => .program [⟨3, 1⟩]) keyless
    ["check"]).1
  refine ⟨hkey, hkey', hsame, ?_⟩
  decide +kernel

end CommandLine
end ScriptDiagnosis
