/-
  ScriptDiagnosis/Proofs/Session/WorkTurns.lean
  =============================================
  What a piece of work can do in its turn.  Either nothing comes of it, or the work is over and
  its submission gets a turn, or it calls the reviewer again; before that it may have logged
  something, paused, or submitted another snippet (`workTurn_turn`).  It calls again only if
  nobody has asked for its cancellation.
-/
import ScriptDiagnosis.Session.Run

namespace ScriptDiagnosis.Session.State
open SyntaxCheck Review

/-- A piece of work that is there and not done. -/
def Running (s : State) (id : Nat) (w : Work) : Prop :=
  s.work? id = some w ∧ w.state.isDone = false

/-- Nobody waits any more for the call of this number. -/
def Dropped (s : State) (n : Nat) : Prop := (s.call? n).map Call.state = some .dropped

/-- A request to cancel the work is noted, or the call that it waits for was dropped. -/
def Requested (s : State) (w : Work) : Prop :=
  w.cancelRequested = true ∨
    ∃ checked attempt n, w.state = .waiting checked attempt n ∧ s.Dropped n

/-- The snippet that the answer to a call submits first. -/
def firstOf (s : State) (n : Nat) : Option Text :=
  match (s.call? n).map Call.state with
  | some (.answered _ first) => first
  | _ => none

/-- What a turn can do before the work itself gets on. -/
inductive Before (s : State) (w : Work) : State → Prop
  | plain (delays : List Seconds) (logs : List Log.Record) : Before s w { s with delays, logs }
  | submits {checked : SyntaxResult} {attempt n : Nat} {snippet : Text}
      (h : w.state = .waiting checked attempt n) (hfirst : s.firstOf n = some snippet)
      (delays : List Seconds) (logs : List Log.Record) :
      Before s w { s.submit snippet with delays, logs }

theorem Before.refl (s : State) (w : Work) : Before s w s := .plain s.delays s.logs

theorem Before.addLogs {s s' : State} {w : Work} (h : Before s w s') (rs : List Log.Record) :
    Before s w (s'.addLogs rs) := by
  cases h with
  | plain delays logs => exact .plain delays (logs ++ rs)
  | submits h hfirst delays logs => exact .submits h hfirst delays (logs ++ rs)

theorem Before.pause {s s' : State} {w : Work} (h : Before s w s') (delay : Seconds) :
    Before s w { s' with delays := s'.delays ++ [delay] } := by
  cases h with
  | plain delays logs => exact .plain (delays ++ [delay]) logs
  | submits h hfirst delays logs => exact .submits h hfirst (delays ++ [delay]) logs

inductive WorkTurn (s : State) (id : Nat) : State → Prop
  | idle : WorkTurn s id s
  | ends {s' : State} {w : Work} {ending : WorkState} (h : s.Running id w)
      (hbefore : Before s w s') (hdone : ending.isDone = true) :
      WorkTurn s id (s'.endWork id w ending)
  | calls {s' : State} {w : Work} {checked : SyntaxResult} {attempt : Nat} {prompt : Text}
      (h : s.Running id w) (hbefore : Before s w s') (hcalm : ¬ s.Requested w) :
      WorkTurn s id (s'.call id checked attempt prompt)

section

variable {g : Setting} {s s' : State} {id : Nat} {w : Work}

theorem workTurn_conclude (h : s.Running id w) (hbefore : Before s w s') (checked : SyntaxResult)
    (result : Except Failure Reply.Analysis) : WorkTurn s id (s'.conclude id w checked result) := by
  unfold State.conclude
  split
  · exact .ends h (hbefore.addLogs _) rfl
  · refine .ends h (hbefore.addLogs _) ?_
    split <;> rfl

theorem workTurn_start (h : s.Running id w) (hcalm : ¬ s.Requested w) :
    WorkTurn s id (s.start g id w) := by
  unfold start
  split
  · exact .ends h ((Before.refl s w).addLogs _) rfl
  · dsimp only
    split
    · exact workTurn_conclude h ((Before.refl s w).addLogs _) _ _
    · exact .calls h ((Before.refl s w).addLogs _) hcalm

theorem workTurn_proceed (h : s.Running id w) (hbefore : Before s w s') (hcalm : ¬ s.Requested w)
    (checked : SyntaxResult) (attempt : Nat) (prompt : Text) (result : CallResult) :
    WorkTurn s id (s'.proceed g id w checked attempt prompt result) := by
  unfold proceed
  split
  · exact workTurn_conclude h (hbefore.addLogs _) _ _
  · exact .calls h ((hbefore.addLogs _).pause _) hcalm

end

/-- **What a turn of a piece of work does:** nothing, or it ends, or it makes a call, and in that
    case nobody has asked it to stop. -/
theorem workTurn_turn (g : Setting) (s : State) (id : Nat) :
    WorkTurn s id (s.workTurn g id) := by
  unfold workTurn
  split
  · exact .idle
  · next w hwork =>
    split
    · next hstate =>
      have h : s.Running id w := ⟨hwork, by rw [hstate]; rfl⟩
      split
      · exact .ends h (.refl s w) rfl
      · next hcalm =>
        refine workTurn_start h ?_
        -- no call can have been dropped, since it has made none
        rintro (hnoted | ⟨_, _, _, hwaiting, _⟩)
        · exact hcalm hnoted
        · rw [hstate] at hwaiting
          cases hwaiting
    · next checked attempt n hstate =>
      have h : s.Running id w := ⟨hwork, by rw [hstate]; rfl⟩
      split
      · exact .ends h (.refl s w) rfl
      · next hcalm =>
        split
        · exact .ends h (.refl s w) rfl
        · next prompt result first hcall =>
          -- the call has ended, so it was not dropped
          have hcalm : ¬ s.Requested w := by
            rintro (hnoted | ⟨_, _, _, hwaiting, hdropped⟩)
            · exact hcalm hnoted
            · rw [hstate] at hwaiting
              cases hwaiting
              rw [Dropped, hcall] at hdropped
              cases hdropped
          -- the answer may submit a snippet first
          cases first with
          | some snippet =>
            have hfirst : s.firstOf n = some snippet := by rw [firstOf, hcall, Option.map_some]
            exact workTurn_proceed h (.submits hstate hfirst s.delays s.logs) hcalm ..
          | none => exact workTurn_proceed h (.refl s w) hcalm ..
        · exact .idle
    · exact .idle

end ScriptDiagnosis.Session.State
