/-
  ScriptDiagnosis/Session/Basic.lean
  ==================================
  The state of a session, in which the latest submission wins.  A submission waits for its
  first turn, takes the next number, and starts a piece of work that diagnoses its snippet;
  the work waits for one call to the reviewer after the other.  Whoever waits gets a turn
  when the thing waited for is there, and the turns form a queue.

  To cancel something that waits is to cancel what it waits for.  Where that is already
  there, or nothing has been waited for yet, a request is noted instead, and the next turn
  ends in cancellation.
-/
import ScriptDiagnosis.Diagnosis.Run

namespace ScriptDiagnosis.Session
open SyntaxCheck Review

/-- What stays the same during a session. -/
structure Setting where
  parse : Text → ParserAnswer
  mode : Mode
  config : Config

/-! ### The parts of a session -/

/-- A call to the reviewer. -/
inductive CallState
  | waiting
  /-- Answered; some answers submit another snippet first. -/
  | answered (result : CallResult) (first : Option Text)
  /-- Nobody waits for it any more. -/
  | dropped
  deriving Repr

structure Call where
  /-- The number of the work that made the call. -/
  work : Nat
  prompt : Text
  state : CallState
  deriving Repr

/-- How far a piece of work is. -/
inductive WorkState
  | fresh
  /-- It has checked the snippet and waits for a call, made at an attempt. -/
  | waiting (checked : SyntaxResult) (attempt call : Nat)
  | finished (d : Diagnosis)
  | failed (f : Failure)
  | cancelled
  deriving Repr

/-- Is there nothing more to do? -/
def WorkState.isDone : WorkState → Bool
  | .finished _ | .failed _ | .cancelled => true
  | .fresh | .waiting .. => false

/-- The diagnosis of one snippet, as it goes on. -/
structure Work where
  /-- The number of the submission that waits for it. -/
  submission : Nat
  snippet : Text
  state : WorkState := .fresh
  cancelRequested : Bool := false
  deriving Repr

/-- How far a submission is. -/
inductive SubmissionState
  | fresh
  /-- It has taken a number and waits for its work. -/
  | waiting (id : Nat)
  /-- It has written its diagnosis as the latest. -/
  | outcome (id : Nat)
  /-- A newer one has taken its place. -/
  | superseded
  | cancelled
  | failed (f : Failure)
  deriving Repr

def SubmissionState.isDone : SubmissionState → Bool
  | .fresh | .waiting _ => false
  | .outcome _ | .superseded | .cancelled | .failed _ => true

structure Submission where
  snippet : Text
  state : SubmissionState := .fresh
  cancelRequested : Bool := false
  deriving Repr

/-- Whose turn it is. -/
inductive Turn
  | submission (number : Nat)
  | work (id : Nat)
  deriving DecidableEq, Repr

/-! ### The state -/

/-- Submissions, works and calls are numbered from one, in the order in which they came. -/
structure State where
  submissions : List Submission := []
  works : List Work := []
  calls : List Call := []
  /-- The last number that a submission has taken. -/
  sequence : Nat := 0
  /-- The work that was started last. -/
  inFlight : Option Nat := none
  /-- The diagnosis that was written last, with its number. -/
  latest : Option (Nat × Diagnosis) := none
  /-- The turns to come, in order. -/
  ready : List Turn := []
  delays : List Seconds := []
  logs : List Log.Record := []
  deriving Repr

/-- The element of a number; numbers begin with one. -/
def numbered? {α : Type} (xs : List α) : Nat → Option α
  | 0 => none
  | n + 1 => xs[n]?

def updateNumbered {α : Type} (xs : List α) (f : α → α) : Nat → List α
  | 0 => xs
  | n + 1 => xs.modify n f

namespace State

def submission? (s : State) (n : Nat) : Option Submission := numbered? s.submissions n
def work? (s : State) (id : Nat) : Option Work := numbered? s.works id
def call? (s : State) (n : Nat) : Option Call := numbered? s.calls n

def setSubmission (s : State) (n : Nat) (f : Submission → Submission) : State :=
  { s with submissions := updateNumbered s.submissions f n }

def setWork (s : State) (id : Nat) (f : Work → Work) : State :=
  { s with works := updateNumbered s.works f id }

def setCall (s : State) (n : Nat) (f : Call → Call) : State :=
  { s with calls := updateNumbered s.calls f n }

def enqueue (s : State) (t : Turn) : State := { s with ready := s.ready ++ [t] }

def addLogs (s : State) (rs : List Log.Record) : State := { s with logs := s.logs ++ rs }

end State
end ScriptDiagnosis.Session
