/-
  ScriptDiagnosis/Proofs/Provider/Denials.lean
  ============================================
  **The two tests for a denial agree.**  The provider's words are searched for a signal when a call
  fails; the text that is made of them is searched for the provider's status when the diagnosis is
  made.  The wording in front ends in a colon and a blank, which adds no signal, and the status is a
  signal: what the second test finds, the first has found (`denial_tests_agree`).  So a denial ends
  the review with the call that it happens in, and any other failure of the provider is tried again
  as long as attempts are left.

  The words are searched as they are shown.  Where a failure quotes something in them, a path or a
  line that could not be decoded, a signal in the quotation counts as the provider's
  (`quoted_text_denies_iff`).
-/
import ScriptDiagnosis.Failure.Wording
import ScriptDiagnosis.Proofs.Diagnosis.Recovery
import ScriptDiagnosis.Proofs.Provider.Calls
import ScriptDiagnosis.Proofs.Provider.Signals
import ScriptDiagnosis.Proofs.Review.Timeline

namespace ScriptDiagnosis.Provider
open Text SyntaxCheck Review
open Diagnosis (diagnose requestFor ofFailure SaysDenied denied unreviewed)

/-! ### The words of a failure -/

/-- An incident whose words are searched for a signal: an error result, or a failure of the
    provider's client. -/
inductive Reports : Incident → Text → Option FailureKind → Prop
  | result {m : ResultMessage} {detail : Text} (h : Words m detail) :
    Reports (.refused m) detail none
  | client {f : Failure} (h : f.kind.isA .provider = true) :
    Reports (.broken f) f.text (some f.kind)

theorem Reports.failure_eq {i : Incident} {detail : Text} {cause : Option FailureKind}
    (h : Reports i detail cause) : i.failure = callFailure detail cause := by
  cases h with
  | result hwords => rw [Incident.failure, ← words_iff.mp hwords]
  | client hkind => rw [Incident.failure, classify, if_pos hkind]

/-- A colon and a blank put two texts together without making a signal. -/
theorem showsDenial_joined (a b : Text) :
    ShowsDenial (a ++ ": " ++ b) ↔ ShowsDenial a ∨ ShowsDenial b := by
  rw [List.append_assoc, ← showsDenial_blank b]
  exact showsDenial_around isForeign_colon a (' ' :: b)

theorem showsDenial_transport (detail : Text) :
    ShowsDenial ("Reviewer call failed: " ++ detail) ↔ ShowsDenial detail := by
  have hjoint : ("Reviewer call failed: " : Text) = "Reviewer call failed" ++ ": " := by
    decide +kernel
  have hplain : ¬ ShowsDenial "Reviewer call failed" := by decide +kernel
  rw [hjoint, showsDenial_joined]
  simp only [hplain, false_or]

/-- The words around a detail neither make a denial nor hide one. -/
theorem saysDenied_callFailure (detail : Text) (cause : Option FailureKind) :
    SaysDenied (callFailure detail cause) ↔ ShowsDenial detail := by
  by_cases h : ShowsDenial detail
  · rw [callFailure_of_denial h]
    simp [SaysDenied, h]
  · rw [callFailure_of_not_denial h]
    simp only [h, iff_false]
    rintro (hkind | hstatus)
    · cases hkind
    · -- the status in the wrapped text is a signal, and the wording in front has none
      exact h ((showsDenial_transport detail).mp (showsDenial_of_status hstatus))

/-- A pause that cannot be had is no denial either. -/
theorem not_saysDenied_pauseFailure (c : Config) (retry : Nat) :
    ¬ SaysDenied (pauseFailure c retry) := by
  rw [pauseFailure, SaysDenied]
  split <;> decide +kernel

theorem kind_callFailure (detail : Text) (cause : Option FailureKind) :
    ((callFailure detail cause).kind = .accessDenied ↔ ShowsDenial detail) ∧
      ((callFailure detail cause).kind = .transport ↔ ¬ ShowsDenial detail) := by
  by_cases h : ShowsDenial detail
  · rw [callFailure_of_denial h]
    simp [h]
  · rw [callFailure_of_not_denial h]
    simp [h]

theorem retryable_callFailure (detail : Text) (cause : Option FailureKind) :
    (callFailure detail cause).kind.retryable = true ↔ ¬ ShowsDenial detail := by
  rw [← (kind_callFailure detail cause).2, callFailure]
  split <;> simp [FailureKind.retryable]

/-! ### The call in a diagnosis -/

/-- The diagnosis of a snippet, where the client of each attempt does what is given. -/
def consult (mode : Mode) (answer : ParserAnswer) (c : Config) (client : Nat → Client)
    (snippet : Text) : Diagnosis.Trace :=
  diagnose mode answer c ((Contact.ofConfig c).reviewer client) snippet

/-- The call of an attempt is made. -/
structure Makes (t : Diagnosis.Trace) (n : Nat) : Prop where
  pos : 1 ≤ n
  le : n ≤ t.prompts.length

/-- A diagnosis that calls the provider: there are a verdict and a key, and the calls are those of
    a review. -/
structure Consults (mode : Mode) (answer : ParserAnswer) (c : Config) (client : Nat → Client)
    (snippet : Text) (s : SyntaxResult) (key : Text) (calls : Nat → Call) : Prop where
  verdict : verdict mode snippet answer = .ok s
  key : c.credential? = some key
  eq : calls = (Contact.ofConfig c).reviewer client (prompt (requestFor snippet s))
  failed : ∀ n i rest, (client n).incidents = i :: rest → (calls n).result = .failed i.failure
  endsAt : EndsAt c calls 1 (consult mode answer c client snippet).prompts.length

section Diagnosis

variable {mode : Mode} {answer : ParserAnswer} {c : Config} {client : Nat → Client}
  {snippet : Text} {n : Nat} {i : Incident} {rest : List Incident}

/-- A diagnosis that makes a call has a credential, and a verdict on the snippet. -/
theorem Makes.calls (h : Makes (consult mode answer c client snippet) n) :
    ∃ s key calls, Consults mode answer c client snippet s key calls := by
  obtain ⟨hpos, hmade⟩ := h
  -- without a verdict, or without a key, no call is made
  cases hcheck : SyntaxCheck.verdict mode snippet answer with
  | error f =>
    rw [consult, (Diagnosis.diagnose_of_escape hcheck).2] at hmade
    exact absurd (Nat.le_trans hpos hmade) (by decide)
  | ok s =>
    rw [consult, Diagnosis.diagnose_prompts hcheck] at hmade
    obtain ⟨key, hkey⟩ := exists_key_of_made hpos hmade
    obtain ⟨options, hready⟩ := ofConfig_of_key hkey
    refine ⟨s, key, _, hcheck, hkey, rfl, ?_, ?_⟩
    · intro n i rest hincidents
      rw [hready, ready_failed_iff]
      exact .fails hincidents (failsWith_failure i)
    · rw [consult, Diagnosis.diagnose_prompts hcheck]
      exact (review_endsAt hkey _ _).1

/-- Another call follows if the failure allows it, and attempts and pauses are left. -/
theorem Makes.lt_iff (h : Makes (consult mode answer c client snippet) n)
    (hincidents : (client n).incidents = i :: rest) :
    n < (consult mode answer c client snippet).prompts.length ↔
      i.failure.kind.retryable = true ∧ (n : Int) < c.maxAttempts ∧ HasPause c n := by
  obtain ⟨s, key, calls, hcalls⟩ := h.calls
  rw [hcalls.endsAt.lt_iff h.pos h.le, retries_eq_true_iff, hcalls.failed n i rest hincidents]
  constructor
  · rintro ⟨f, hf, hretries⟩
    cases hf
    exact hretries
  · intro hretries
    exact ⟨_, rfl, hretries⟩

/-- What a diagnosis comes to whose last call fails. -/
theorem Makes.result_of_last (h : Makes (consult mode answer c client snippet) n)
    (hincidents : (client n).incidents = i :: rest)
    (hlast : (consult mode answer c client snippet).prompts.length = n)
    (hhandled : i.failure.kind.handled = true) :
    (consult mode answer c client snippet).result =
      .ok (ofFailure (if triesAgain c n i.failure then pauseFailure c n else i.failure)) := by
  obtain ⟨s, key, calls, hcalls⟩ := h.calls
  have hends := hcalls.endsAt
  have hcall := hcalls.failed n i rest hincidents
  rw [hlast, hcalls.eq] at hends
  rw [hcalls.eq] at hcall
  have hreview := review_result_of_endsAt hcalls.key hends
  rw [hcall, endOf] at hreview
  have hreviewed : ∀ f, (review c (requestFor snippet s)
      ((Contact.ofConfig c).reviewer client)).result = .error f → f.kind.handled = true := by
    intro f hf
    rw [hreview] at hf
    cases hf
    split
    · exact Diagnosis.pauseFailure_handled c n
    · exact hhandled
  have hresult := Diagnosis.diagnose_eq_ok hcalls.verdict hreviewed
  rw [hreview] at hresult
  exact hresult

/-- No client behind the last is looked at. -/
theorem Makes.consult_congr (h : Makes (consult mode answer c client snippet) n)
    (hlast : (consult mode answer c client snippet).prompts.length = n) {other : Nat → Client}
    (hsame : ∀ k, 1 ≤ k → k ≤ n → other k = client k) :
    consult mode answer c other snippet = consult mode answer c client snippet := by
  obtain ⟨s, key, calls, hcalls⟩ := h.calls
  have hends := hcalls.endsAt
  rw [hlast, hcalls.eq] at hends
  apply Diagnosis.diagnose_congr hcalls.verdict
  apply review_congr hends
  intro k hpos hle
  rw [Contact.reviewer, Contact.reviewer, hsame k hpos hle]

/-! ### Denied, or on the way -/

/-- The diagnosis ends with the call, whatever the clients of later attempts would do, and says that
    access was denied. -/
structure EndsDenied (mode : Mode) (answer : ParserAnswer) (c : Config) (client : Nat → Client)
    (snippet : Text) (n : Nat) : Prop where
  last : (consult mode answer c client snippet).prompts.length = n
  unheard : ∀ other : Nat → Client, (∀ k, 1 ≤ k → k ≤ n → other k = client k) →
    consult mode answer c other snippet = consult mode answer c client snippet
  shown : (consult mode answer c client snippet).result = .ok denied

/-- Another call follows as long as attempts are left and there is a pause before it: with a backoff
    in floating point, and a number of attempts that can be written, up to the 1025th call.  Where
    none follows, the diagnosis does not say that access was denied. -/
structure TriedAgain (mode : Mode) (answer : ParserAnswer) (c : Config) (client : Nat → Client)
    (snippet : Text) (n : Nat) : Prop where
  again : n < (consult mode answer c client snippet).prompts.length ↔
    (n : Int) < c.maxAttempts ∧ HasPause c n
  bound : ∀ b, c.backoff = .float b → writable c.maxAttempts = true →
    (n < (consult mode answer c client snippet).prompts.length ↔
      (n : Int) < c.maxAttempts ∧ n < 1025)
  shown : (consult mode answer c client snippet).prompts.length = n →
    (consult mode answer c client snippet).result = .ok unreviewed

variable {detail : Text} {cause : Option FailureKind}

/-- A denial ends the diagnosis with that call. -/
theorem Makes.endsDenied (h : Makes (consult mode answer c client snippet) n)
    (hincidents : (client n).incidents = i :: rest) (hreports : Reports i detail cause)
    (hdenial : ShowsDenial detail) : EndsDenied mode answer c client snippet n := by
  have hfailure := hreports.failure_eq
  have hkind : i.failure.kind = .accessDenied := by
    rw [hfailure, callFailure_of_denial hdenial]
  have hlast : (consult mode answer c client snippet).prompts.length = n := by
    apply Nat.le_antisymm _ h.le
    rw [← Nat.not_lt, h.lt_iff hincidents, hkind]
    simp [FailureKind.retryable]
  refine ⟨hlast, fun other => h.consult_congr hlast, ?_⟩
  rw [h.result_of_last hincidents hlast (by rw [hkind]; rfl), triesAgain, hkind]
  apply congrArg
  apply Diagnosis.ofFailure_of_saysDenied
  rw [hfailure]
  exact (saysDenied_callFailure detail cause).mpr hdenial

/-- Anything else is tried again, as long as attempts and pauses are left. -/
theorem Makes.triedAgain (h : Makes (consult mode answer c client snippet) n)
    (hincidents : (client n).incidents = i :: rest) (hreports : Reports i detail cause)
    (hdenial : ¬ ShowsDenial detail) : TriedAgain mode answer c client snippet n := by
  have hfailure := hreports.failure_eq
  have hkind : i.failure.kind = .transport := by
    rw [hfailure, callFailure_of_not_denial hdenial]
  have hagain : n < (consult mode answer c client snippet).prompts.length ↔
      (n : Int) < c.maxAttempts ∧ HasPause c n := by
    rw [h.lt_iff hincidents, hkind]
    exact and_iff_right rfl
  refine ⟨hagain, ?_, ?_⟩
  · intro b hfloat hwritable
    rw [hagain, hasPause_iff_of_float hfloat, Nat.lt_succ_iff]
    exact and_congr_right fun _ => and_iff_right hwritable
  · intro hlast
    rw [h.result_of_last hincidents hlast (by rw [hkind]; rfl)]
    apply congrArg
    apply Diagnosis.ofFailure_of_not_saysDenied
    split
    · -- without a pause the review fails with its length or its warning, which is no denial either
      exact not_saysDenied_pauseFailure c n
    · rw [hfailure, saysDenied_callFailure]
      exact hdenial

end Diagnosis

/-- Where there are a key and a verdict, the first call is made. -/
theorem makes_first (client : Nat → Client) :
    Makes (consult .script (.program []) relentless client "x();") 1 := by
  have hcheck : SyntaxCheck.verdict .script "x();" (.program []) =
      .ok ⟨true, okMessage, none, none⟩ := rfl
  refine ⟨Nat.le_refl 1, ?_⟩
  exact List.length_pos_iff.mpr (Diagnosis.diagnose_asks rfl hcheck)

/-- The provider's process is killed at first; then the key is refused, in words that have a Kelvin
    sign for their letter. -/
def refusing (n : Nat) : Client :=
  if n = 1 then { asking := some (Failure.ofProcess "Command failed" (some 137) none) }
  else { events := [.other, .result ⟨"error", 5, true, some "Invalid API \u212aey"⟩] }

/-- The texts that a failure of the client puts into its own: what is said of a command that is not
    there, and its path; the front of a line that could not be decoded. -/
inductive Quotes : Failure → List Text → Prop
  | command (message : Text) (path : Option Text) :
    Quotes (Failure.noCommand message path) (message :: path.toList)
  | line (line : Text) :
    Quotes (Failure.ofUndecodableLine line) [line.take Failure.shownOfLine]

theorem not_showsDenial_nil : ¬ ShowsDenial [] := by decide

/-- A command that is not found shows a denial if its message or its path does. -/
theorem showsDenial_noCommand (message : Text) (path : Option Text) :
    ShowsDenial (Failure.noCommand message path).text ↔
      ∃ q ∈ message :: path.toList, ShowsDenial q := by
  cases path with
  | none => simp [Failure.noCommand]
  | some p =>
    simp only [Failure.noCommand, Option.toList_some, List.mem_cons, List.not_mem_nil, or_false,
      exists_eq_or_imp, exists_eq_left]
    split
    · next hempty =>
      rw [List.isEmpty_iff.mp hempty]
      simp only [not_showsDenial_nil, or_false]
    · exact showsDenial_joined message p

/-- A line that cannot be decoded shows one if the part of it that is quoted does. -/
theorem showsDenial_undecodableLine (line : Text) :
    ShowsDenial (Failure.ofUndecodableLine line).text ↔
      ShowsDenial (line.take Failure.shownOfLine) := by
  have hjoint : ("Failed to decode JSON: " : Text) = "Failed to decode JSON" ++ ": " := by
    decide +kernel
  have hplain : ¬ ShowsDenial "Failed to decode JSON" := by decide +kernel
  have hdots : ¬ ShowsDenial ".." := by decide +kernel
  rw [Failure.ofUndecodableLine, hjoint]
  have hstop := showsDenial_around isForeign_stop
    ("Failed to decode JSON" ++ ": " ++ line.take Failure.shownOfLine) ".."
  rw [showsDenial_joined] at hstop
  simp only [hplain, hdots, false_or, or_false] at hstop
  exact hstop

theorem Quotes.provider {f : Failure} {quoted : List Text} (h : Quotes f quoted) :
    f.kind.isA .provider = true := by
  cases h with
  | command message path => cases path <;> rfl
  | line line => rfl

theorem Quotes.showsDenial_iff {f : Failure} {quoted : List Text} (h : Quotes f quoted) :
    ShowsDenial f.text ↔ ∃ q ∈ quoted, ShowsDenial q := by
  cases h with
  | command message path => exact showsDenial_noCommand message path
  | line line => simp [showsDenial_undecodableLine]

/-- **A quotation counts as the provider's words.**  A command that is not there, or a line that
    could not be decoded, is a failure on the way exactly if no text that its own quotes carries a
    signal, and is then tried again as long as attempts are left; otherwise it is a denial, which
    ends the review. -/
theorem quoted_text_denies_iff {f : Failure} {quoted : List Text} (hquotes : Quotes f quoted)
    {client : Nat → Client} {n : Nat} {rest : List Incident}
    (hincidents : (client n).incidents = .broken f :: rest) :
    ∃ g, (∀ p, (converse (client n) p).reply = .error g) ∧ g.cause = some f.kind ∧
      (g.kind = .accessDenied ↔ ∃ q ∈ quoted, ShowsDenial q) ∧
      (g.kind = .transport ↔ ∀ q ∈ quoted, ¬ ShowsDenial q) ∧
      ∀ mode answer c snippet, Makes (consult mode answer c client snippet) n →
        (n < (consult mode answer c client snippet).prompts.length ↔
          (∀ q ∈ quoted, ¬ ShowsDenial q) ∧ (n : Int) < c.maxAttempts ∧ HasPause c n) := by
  have hreports : Reports (.broken f) f.text (some f.kind) := .client hquotes.provider
  obtain ⟨hdenied, htransport⟩ := kind_callFailure f.text (some f.kind)
  rw [hquotes.showsDenial_iff] at hdenied htransport
  simp only [not_exists, not_and] at htransport
  refine ⟨callFailure f.text (some f.kind), ?_, ?_, hdenied, htransport, ?_⟩
  · intro p
    rw [converse_reply, hincidents, settled, hreports.failure_eq]
  · rw [callFailure]
    split <;> rfl
  · intro mode answer c snippet hmakes
    rw [hmakes.lt_iff hincidents, hreports.failure_eq, retryable_callFailure,
      hquotes.showsDenial_iff]
    simp only [not_exists, not_and]

/-- The command is not there at first; then a line of the reply that cannot be decoded is shown. -/
def quoting (n : Nat) : Client :=
  if n = 1 then
    { entering := some (Failure.noCommand "Claude Code not found" (some "/opt/claude")) }
  else { events := [.broken (Failure.ofUndecodableLine "navigator.Permissions")] }

theorem quoted_text_denies_quoting :
    Quotes (Failure.noCommand "Claude Code not found" (some "/opt/claude"))
      ["Claude Code not found", "/opt/claude"] ∧
    (quoting 1).incidents =
      [.broken (Failure.noCommand "Claude Code not found" (some "/opt/claude"))] ∧
    Quotes (Failure.ofUndecodableLine "navigator.Permissions") ["navigator.Permissions"] ∧
    (quoting 2).incidents = [.broken (Failure.ofUndecodableLine "navigator.Permissions")] ∧
    (consult .script (.program []) relentless quoting "x();").prompts.length = 2 := by
  have hcommand : Quotes (Failure.noCommand "Claude Code not found" (some "/opt/claude"))
      ["Claude Code not found", "/opt/claude"] := .command _ _
  have hfirst : (quoting 1).incidents =
      [.broken (Failure.noCommand "Claude Code not found" (some "/opt/claude"))] := rfl
  have hline : Quotes (Failure.ofUndecodableLine "navigator.Permissions")
      ["navigator.Permissions"] := .line _
  have hsecond : (quoting 2).incidents =
      [.broken (Failure.ofUndecodableLine "navigator.Permissions")] := rfl
  have hone := makes_first quoting
  obtain ⟨_, -, -, -, -, hagain⟩ := quoted_text_denies_iff hcommand hfirst
  have htwo : Makes (consult .script (.program []) relentless quoting "x();") 2 := by
    refine ⟨by decide, ?_⟩
    exact (hagain _ _ _ _ hone).mpr
      ⟨by decide +kernel, by decide, hasPause_relentless.mpr (by decide)⟩
  obtain ⟨_, -, -, -, -, hlast⟩ := quoted_text_denies_iff hline hsecond
  refine ⟨hcommand, hfirst, hline, hsecond, ?_⟩
  apply Nat.le_antisymm _ htwo.le
  rw [← Nat.not_lt, hlast _ _ _ _ htwo]
  rintro ⟨hplain, -⟩
  exact hplain _ List.mem_cons_self (by decide +kernel)

/-- A command that is not there. -/
def misplaced : Client :=
  { entering := some (Failure.noCommand "Claude Code not found" (some "/opt/403/claude")) }

/-- The path of a command is taken for a denial, and attempts that are left are not made. -/
theorem command_path_denied :
    (converse misplaced "x").reply =
      .error ⟨.accessDenied, "Reviewer access denied: Claude Code not found: /opt/403/claude",
        some .commandNotFound⟩ ∧
    (1 : Int) < relentless.maxAttempts ∧
    (consult .script (.program []) relentless (fun _ => misplaced) "x();").prompts.length = 1 ∧
    (consult .script (.program []) relentless (fun _ => misplaced) "x();").result = .ok denied := by
  have hincidents : misplaced.incidents =
      [.broken (Failure.noCommand "Claude Code not found" (some "/opt/403/claude"))] := rfl
  have hreports : Reports
      (.broken (Failure.noCommand "Claude Code not found" (some "/opt/403/claude")))
      "Claude Code not found: /opt/403/claude" (some .commandNotFound) := .client rfl
  have hdenial : ShowsDenial "Claude Code not found: /opt/403/claude" := by decide +kernel
  have hends := (makes_first (fun _ => misplaced)).endsDenied hincidents hreports hdenial
  have hwording : ("Reviewer access denied: " : Text) ++ "Claude Code not found: /opt/403/claude" =
      "Reviewer access denied: Claude Code not found: /opt/403/claude" := by decide +kernel
  refine ⟨?_, by decide, hends.last, hends.shown⟩
  rw [converse_reply, hincidents, settled, hreports.failure_eq, callFailure_of_denial hdenial,
    hwording]

end ScriptDiagnosis.Provider
