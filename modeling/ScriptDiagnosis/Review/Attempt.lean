/-
  ScriptDiagnosis/Review/Attempt.lean
  ===================================
  What follows from one call to the reviewer.  A reply ends the review, whether or not it
  can be read.  A failure ends it too, unless it happened on the way to the reviewer and
  attempts are left: then there is a warning and a pause, which is twice as long each time,
  and another attempt.

  The pause and its warning can fail by themselves.  The pause takes a power of two that is a
  number in floating point, if it is one itself; the warning shows the number of attempts,
  which may be too long to be written, and the pause with one decimal place.
-/
import ScriptDiagnosis.Config
import ScriptDiagnosis.Failure.Wording
import ScriptDiagnosis.Log.Record
import ScriptDiagnosis.Reply.Analysis

namespace ScriptDiagnosis.Review
open Text Reply

/-- What a call to the reviewer comes to. -/
inductive CallResult
  | replied (reply : Option Text)
  | failed (f : Failure)
  deriving DecidableEq, Repr

/-- What follows from it. -/
inductive Decision
  | finish (result : Except Failure Analysis)
  /-- Try again after a pause. -/
  | retry (delay : Seconds)
  deriving Repr

/-- The retries after which a pause in floating point has no factor any more. -/
def mostRetries : Nat := 1024

def factorOverflow : Failure := ⟨.overflow, "int too large to convert to float", none⟩

/-- The pause before a retry, as far as it can be found and shown; the first has number one. -/
def pause (c : Config) (retry : Nat) : Except Failure Seconds :=
  if c.backoff.scalable (retry - 1) then
    let delay := c.backoff.scale (retry - 1)
    if writable c.maxAttempts then
      if delay.showable then .ok delay else .error factorOverflow
    else .error .unwritable
  else .error factorOverflow

def retryRecord (attempt : Nat) (maxAttempts : Int) (f : Failure) (delay : Seconds) :
    Log.Record :=
  ⟨.warning, Log.reviewLogger,
    ("Semantic review attempt " : Text) ++ ofNat attempt ++ "/" ++ ofInt maxAttempts ++
      " failed (" ++ f.text ++ "); retrying in " ++ Decimal.fixed 1 delay.toBinary64 ++ "s",
    false⟩

def doneRecord (a : Analysis) : Log.Record :=
  ⟨.debug, Log.reviewLogger,
    ("Semantic review done: buggy=" : Text) ++
      (if a.isPotentiallyBuggy then ("True" : Text) else "False"), false⟩

/-- Is another attempt worth while after a failure, and left? -/
def triesAgain (c : Config) (attempt : Nat) (f : Failure) : Bool :=
  f.kind.retryable && attempt < c.maxAttempts

/-- What follows from a call, and what is logged. -/
def afterCall (c : Config) (attempt : Nat) : CallResult → List Log.Record × Decision
  | .replied reply =>
    match readReply reply with
    | .ok a => ([doneRecord a], .finish (.ok a))
    | .error f => ([], .finish (.error f.failure))
  | .failed f =>
    if triesAgain c attempt f then
      match pause c attempt with
      | .ok d => ([retryRecord attempt c.maxAttempts f d], .retry d)
      | .error e => ([], .finish (.error e))
    else ([], .finish (.error f))

/-- The failure of a review without a credential. -/
def noCredential : Failure :=
  ⟨.missingCredential,
    "API key not found. Set ANTHROPIC_API_KEY or pass api_key in ReviewerConfig.", none⟩

/-- A call that is followed by another is not the last that the settings allow. -/
theorem afterCall_retry_lt {c : Config} {attempt : Nat} {r : CallResult}
    {logs : List Log.Record} {d : Seconds} (h : afterCall c attempt r = (logs, .retry d)) :
    (attempt : Int) < c.maxAttempts := by
  cases r with
  | replied reply =>
    simp only [afterCall] at h
    split at h <;> simp at h
  | failed f =>
    simp only [afterCall] at h
    split at h
    · next htries =>
      simp only [triesAgain, Bool.and_eq_true, decide_eq_true_eq] at htries
      exact htries.2
    · simp at h

end ScriptDiagnosis.Review
