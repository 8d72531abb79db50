/-
  ScriptDiagnosis/Session/Run.lean
  ================================
  A session under the hands of a caller.  The caller does something, or several things at
  once, and then the turns are taken in the order of the queue until none is left.
-/
import ScriptDiagnosis.Session.Step

namespace ScriptDiagnosis.Session
open Review

/-- What a caller can do. -/
inductive Action
  | submit (snippet : Text)
  /-- Answer a call; the answer may submit a snippet first. -/
  | release (call : Nat) (result : CallResult) (first : Option Text)
  | cancel (submission : Nat)
  /-- Several things, before anybody takes a turn. -/
  | batch (actions : List Action)

instance : Inhabited Action := ⟨.batch []⟩

/-- What an action came to. -/
inductive Did
  | submitted
  | released
  | cancelled
  | ignored
  | several (ds : List Did)

mutual

def act (s : State) : Action → State × Did
  | .submit snippet => (s.submit snippet, .submitted)
  | .release n result first =>
    match s.release n result first with
    | some s => (s, .released)
    | none => (s, .ignored)
  | .cancel n =>
    match s.cancel n with
    | some s => (s, .cancelled)
    | none => (s, .ignored)
  | .batch actions =>
    let (s, ds) := actAll s actions
    (s, .several ds)

def actAll (s : State) : List Action → State × List Did
  | [] => (s, [])
  | a :: rest =>
    let (s, d) := act s a
    let (s, ds) := actAll s rest
    (s, d :: ds)

end

/-- Take the turns of the queue, at most so many. -/
def takeTurns (g : Setting) : Nat → State → State
  | 0, s => s
  | n + 1, s =>
    match s.ready with
    | [] => s
    | t :: rest => takeTurns g n (State.turn g { s with ready := rest } t)

/-- More turns than can follow without another action.  A submission has two turns and its
    work one more than it has calls; an answered call can lead to one more call and to one
    more submission. -/
def turnBound (s : State) : Nat :=
  10 * (s.submissions.length + s.calls.length + s.ready.length + 1)

/-- Take turns until none is left. -/
def settle (g : Setting) (s : State) : State := takeTurns g (turnBound s) s

/-- One step of a caller: an action, and the turns that follow. -/
def step (g : Setting) (s : State) (a : Action) : State × Did :=
  let (s, d) := act s a
  (settle g s, d)

end ScriptDiagnosis.Session
