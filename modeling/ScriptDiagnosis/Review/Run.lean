/-
  ScriptDiagnosis/Review/Run.lean
  ===============================
  A whole review: calls to the reviewer until one of them decides.  The reviewer is given by
  what its calls come to, in order, with what is logged during each.  The trace keeps what
  an observer sees: the prompts of the calls, the pauses, the log, and the result.
-/
import ScriptDiagnosis.Review.Attempt
import ScriptDiagnosis.Review.Prompt

namespace ScriptDiagnosis.Review
open Reply

/-- A call to the reviewer. -/
structure Call where
  result : CallResult
  logs : List Log.Record := []
  deriving Repr

/-- What an observer sees of a review. -/
structure Trace where
  prompts : List Text
  delays : List Seconds
  logs : List Log.Record
  result : Except Failure Analysis
  deriving Repr

/-- The calls from an attempt on; attempts count from one. -/
def attempts (c : Config) (prompt : Text) (calls : Nat → Call) (attempt : Nat) : Trace :=
  let call := calls attempt
  match _h : afterCall c attempt call.result with
  | (logs, .finish result) => ⟨[prompt], [], call.logs ++ logs, result⟩
  | (logs, .retry d) =>
    let rest := attempts c prompt calls (attempt + 1)
    ⟨prompt :: rest.prompts, d :: rest.delays, call.logs ++ logs ++ rest.logs, rest.result⟩
termination_by (c.maxAttempts - attempt).toNat
decreasing_by
  have := afterCall_retry_lt (by assumption)
  omega

/-- A reviewer: what a call about a prompt comes to, at each attempt. -/
abbrev Reviewer := Text → Nat → Call

/-- A review.  Without a credential the reviewer is not called. -/
def review (c : Config) (request : Request) (reviewer : Reviewer) : Trace :=
  match c.credential? with
  | none => ⟨[], [], [], .error noCredential⟩
  | some _ => attempts c (prompt request) (reviewer (prompt request)) 1

end ScriptDiagnosis.Review
