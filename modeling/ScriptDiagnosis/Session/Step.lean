/-
  ScriptDiagnosis/Session/Step.lean
  =================================
  What can happen in a session: a caller submits a snippet or cancels a submission, the
  reviewer answers a call, and somebody takes a turn.  Each is one step, which nothing
  interrupts.
-/
import ScriptDiagnosis.Session.Basic

namespace ScriptDiagnosis.Session
open Text SyntaxCheck Review

namespace State

/-! ### Submitting, answering, cancelling -/

/-- Submit a snippet: a fresh submission waits for its turn. -/
def submit (s : State) (snippet : Text) : State :=
  State.enqueue { s with submissions := s.submissions ++ [⟨snippet, .fresh, false⟩] }
    (.submission (s.submissions.length + 1))

/-- Answer a call, if it is still waiting.  An answer may submit a snippet first. -/
def release (s : State) (n : Nat) (result : CallResult) (first : Option Text) : Option State :=
  match s.call? n with
  | some ⟨id, _, .waiting⟩ =>
    some ((s.setCall n fun c => { c with state := .answered result first }).enqueue (.work id))
  | _ => none

/-- Cancel a piece of work, unless it is done.  A call that it waits for is dropped. -/
def cancelWork (s : State) (id : Nat) : State :=
  let note := s.setWork id fun w => { w with cancelRequested := true }
  match s.work? id with
  | none => s
  | some w =>
    match w.state with
    | .fresh => note
    | .waiting _ _ n =>
      match s.call? n with
      | some ⟨_, _, .waiting⟩ =>
        (s.setCall n fun c => { c with state := .dropped }).enqueue (.work id)
      | _ => note
    | _ => s

/-- Is a piece of work done, or not there? -/
def workDone (s : State) (id : Nat) : Bool :=
  match s.work? id with
  | some w => w.state.isDone
  | none => true

/-- Cancel a submission, unless it is done. -/
def cancel (s : State) (n : Nat) : Option State :=
  let note := s.setSubmission n fun b => { b with cancelRequested := true }
  match s.submission? n with
  | none => none
  | some b =>
    match b.state with
    | .fresh => some note
    | .waiting id => some (if s.workDone id then note else s.cancelWork id)
    | _ => none

/-! ### The turns of a submission -/

def endSubmission (s : State) (n : Nat) (ending : SubmissionState) : State :=
  s.setSubmission n fun b => { b with state := ending, cancelRequested := false }

/-- Cancel the work that was started last. -/
def cancelInFlight (s : State) : State :=
  match s.inFlight with
  | some id => s.cancelWork id
  | none => s

/-- The first turn: the work in flight is cancelled, a number taken and work started. -/
def begin (s : State) (n : Nat) (snippet : Text) : State :=
  let s := s.cancelInFlight
  let id := s.sequence + 1
  let s := s.setSubmission n fun b => { b with state := .waiting id }
  State.enqueue
    { s with
      sequence := id, works := s.works ++ [⟨n, snippet, .fresh, false⟩], inFlight := some id }
    (.work id)

def debugRecord (message : Text) : Log.Record := ⟨.debug, Log.diagnosisLogger, message, false⟩

def supersededRecord (id sequence : Nat) : Log.Record :=
  debugRecord (("Submission #" : Text) ++ ofNat id ++ " cancelled by #" ++ ofNat sequence)

def staleRecord (id : Nat) : Log.Record :=
  debugRecord (("Discarding stale result #" : Text) ++ ofNat id)

/-- A submission whose waiting was cancelled: a newer one has taken its place, or else it
    ends cancelled itself. -/
def cancelledWaiting (s : State) (n id : Nat) : State :=
  if id ≠ s.sequence then
    (s.addLogs [supersededRecord id s.sequence]).endSubmission n .superseded
  else s.endSubmission n .cancelled

/-- A submission whose work is finished: it writes the latest diagnosis, unless a newer one
    has begun. -/
def finishedWaiting (s : State) (n id : Nat) (d : Diagnosis) : State :=
  if id ≠ s.sequence then (s.addLogs [staleRecord id]).endSubmission n .superseded
  else State.endSubmission { s with latest := some (id, d) } n (.outcome id)

/-- The turn of a submission when its work is done. -/
def resume (s : State) (n id : Nat) (cancelRequested : Bool) : State :=
  if cancelRequested then s.cancelledWaiting n id
  else match (s.work? id).map Work.state with
    | some (.finished d) => s.finishedWaiting n id d
    | some (.failed f) => s.endSubmission n (.failed f)
    | some .cancelled => s.cancelledWaiting n id
    | _ => s

def submissionTurn (s : State) (n : Nat) : State :=
  match s.submission? n with
  | none => s
  | some b =>
    match b.state with
    | .fresh =>
      if b.cancelRequested then s.endSubmission n .cancelled else s.begin n b.snippet
    | .waiting id => s.resume n id b.cancelRequested
    | _ => s

/-! ### The turns of a piece of work -/

/-- The end of a piece of work: its submission gets a turn. -/
def endWork (s : State) (id : Nat) (w : Work) (ending : WorkState) : State :=
  (s.setWork id fun w => { w with state := ending, cancelRequested := false }).enqueue
    (.submission w.submission)

def call (s : State) (id : Nat) (checked : SyntaxResult) (attempt : Nat) (prompt : Text) :
    State :=
  State.setWork { s with calls := s.calls ++ [⟨id, prompt, .waiting⟩] } id
    fun w => { w with state := .waiting checked attempt (s.calls.length + 1) }

/-- The end of a review: the work ends with a diagnosis, or as the review was cancelled. -/
def conclude (s : State) (id : Nat) (w : Work) (checked : SyntaxResult)
    (result : Except Failure Reply.Analysis) : State :=
  match Diagnosis.conclude checked result with
  | (logs, .ok d) => (s.addLogs logs).endWork id w (.finished d)
  | (logs, .error f) =>
    (s.addLogs logs).endWork id w (if f.kind = .cancelled then .cancelled else .failed f)

/-- The first turn of a piece of work: the snippet is checked and the reviewer called. -/
def start (g : Setting) (s : State) (id : Nat) (w : Work) : State :=
  match loggedVerdict g.mode w.snippet (g.parse (sourceFor g.mode w.snippet)) with
  | (logs, .error f) => (s.addLogs logs).endWork id w (.failed f)
  | (logs, .ok checked) =>
    let s := s.addLogs (logs ++ Diagnosis.checkedRecords checked)
    match g.config.credential? with
    | none => s.conclude id w checked (.error noCredential)
    | some _ => s.call id checked 1 (prompt (Diagnosis.requestFor w.snippet checked))

/-- A turn with the answer to a call: the work ends, or calls again after a pause. -/
def proceed (g : Setting) (s : State) (id : Nat) (w : Work) (checked : SyntaxResult)
    (attempt : Nat) (prompt : Text) (result : CallResult) : State :=
  match afterCall g.config attempt result with
  | (logs, .finish result) => (s.addLogs logs).conclude id w checked result
  | (logs, .retry delay) =>
    State.call { s.addLogs logs with delays := s.delays ++ [delay] } id checked (attempt + 1)
      prompt

def workTurn (g : Setting) (s : State) (id : Nat) : State :=
  match s.work? id with
  | none => s
  | some w =>
    match w.state with
    | .fresh => if w.cancelRequested then s.endWork id w .cancelled else s.start g id w
    | .waiting checked attempt n =>
      if w.cancelRequested then s.endWork id w .cancelled
      else match s.call? n with
        | some ⟨_, _, .dropped⟩ => s.endWork id w .cancelled
        | some ⟨_, prompt, .answered result first⟩ =>
          let s := match first with
            | some snippet => s.submit snippet
            | none => s
          s.proceed g id w checked attempt prompt result
        | _ => s
    | _ => s

def turn (g : Setting) (s : State) : Turn → State
  | .submission n => s.submissionTurn n
  | .work id => s.workTurn g id

end State
end ScriptDiagnosis.Session
