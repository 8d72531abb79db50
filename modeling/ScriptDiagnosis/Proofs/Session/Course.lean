/-
  ScriptDiagnosis/Proofs/Session/Course.lean
  ==========================================
  Sessions step by step.  In a course a caller submits, answers a call or cancels at any time, and
  in between the first of the queue takes its turn.  Every session is a course (`session_course`),
  and every course is a row of moves (`course_moves`); but a course knows only the moves that the
  works themselves make, and takes turns from the queue alone.
-/
import ScriptDiagnosis.Proofs.Session.Moves

namespace ScriptDiagnosis.Session
open State Review

/-! ### Courses -/

/-- What may happen next. -/
inductive Happening
  | submit (snippet : Text)
  | release (call : Nat) (result : CallResult) (first : Option Text)
  | cancel (submission : Nat)
  /-- The first of the queue takes its turn. -/
  | turn

def happen (g : Setting) (s : State) : Happening → State
  | .submit snippet => s.submit snippet
  | .release n result first => (s.release n result first).getD s
  | .cancel n => (s.cancel n).getD s
  | .turn =>
    match s.ready with
    | [] => s
    | t :: rest => State.turn g { s with ready := rest } t

def happenAll (g : Setting) (s : State) (hs : List Happening) : State := hs.foldl (happen g) s

def course (g : Setting) (hs : List Happening) : State := happenAll g {} hs

theorem course_concat (g : Setting) (hs : List Happening) (h : Happening) :
    course g (hs ++ [h]) = happen g (course g hs) h :=
  List.foldl_append

/-- Whatever happens is a row of moves, with a request to cancel in it only if that is what
    happens. -/
theorem happen_moves (g : Setting) (s : State) (h : Happening) :
    ∃ ms, (∀ n, .cancel n ∈ ms → h = .cancel n) ∧ takeAll s ms = happen g s h := by
  have hquiet : ∀ {s'}, Leads s s' →
      ∃ ms, (∀ n, .cancel n ∈ ms → h = .cancel n) ∧ takeAll s ms = s' := by
    rintro s' ⟨ms, hms, htake⟩
    exact ⟨ms, fun n hn => absurd hn (hms n), htake⟩
  cases h with
  | submit snippet => exact hquiet (.move s (m := .submit snippet) nofun)
  | release n result first =>
    rw [happen]
    cases h : s.release n result first with
    | none => exact hquiet (.refl s)
    | some s' => exact hquiet (leads_release h)
  | cancel n =>
    refine ⟨[.cancel n], ?_, rfl⟩
    intro k hk
    cases List.mem_singleton.mp hk
    rfl
  -- a turn leaves the queue before it is had
  | turn =>
    rw [happen]
    split
    · exact hquiet (.refl s)
    · next t rest _ =>
      have hpop : Leads s { s with ready := rest } := .world s s.calls rest s.delays s.logs
      exact hquiet (hpop.trans (leads_turn g _ t))

/-- Happenings are moves, and nobody else is cancelled in them. -/
theorem happenAll_moves (g : Setting) (s : State) (hs : List Happening) :
    ∃ ms, (∀ n, .cancel n ∈ ms → .cancel n ∈ hs) ∧ takeAll s ms = happenAll g s hs := by
  induction hs generalizing s with
  | nil => exact ⟨[], nofun, rfl⟩
  | cons h rest ih =>
    obtain ⟨before, hbefore, htake⟩ := happen_moves g s h
    obtain ⟨after, hafter, htakeAll⟩ := ih (happen g s h)
    refine ⟨before ++ after, ?_, ?_⟩
    · intro n hn
      rcases List.mem_append.mp hn with hn | hn
      · exact List.mem_cons.mpr (.inl (hbefore n hn).symm)
      · exact List.mem_cons_of_mem h (hafter n hn)
    · rw [takeAll_append, htake, htakeAll]
      rfl

/-- **Every course is a run.** -/
theorem course_moves (g : Setting) (hs : List Happening) : ∃ ms, run ms = course g hs := by
  obtain ⟨ms, _, hms⟩ := happenAll_moves g {} hs
  exact ⟨ms, hms⟩

/-! ### Sessions are courses -/

/-- A row of happenings leads from a state to another. -/
def Comes (g : Setting) (s s' : State) : Prop := ∃ hs, happenAll g s hs = s'

namespace Comes

variable {g : Setting}

theorem refl (s : State) : Comes g s s := ⟨[], rfl⟩

theorem trans {s s' s'' : State} (h : Comes g s s') (h' : Comes g s' s'') : Comes g s s'' := by
  obtain ⟨before, rfl⟩ := h
  obtain ⟨after, rfl⟩ := h'
  exact ⟨before ++ after, List.foldl_append⟩

theorem happening (s : State) (h : Happening) : Comes g s (happen g s h) := ⟨[h], rfl⟩

end Comes

mutual

/-- An action of a session is a happening, or nothing where it is refused. -/
theorem comes_act (g : Setting) (s : State) (a : Action) : Comes g s (act s a).1 := by
  cases a with
  | submit snippet => exact .happening s (.submit snippet)
  | release n result first =>
    rw [act]
    split
    · next s' h =>
      have hhappen : happen g s (.release n result first) = s' := by
        rw [happen, h, Option.getD_some]
      exact hhappen ▸ Comes.happening s (.release n result first)
    · exact .refl s
  | cancel n =>
    rw [act]
    split
    · next s' h =>
      have hhappen : happen g s (.cancel n) = s' := by rw [happen, h, Option.getD_some]
      exact hhappen ▸ Comes.happening s (.cancel n)
    · exact .refl s
  | batch actions =>
    rw [act]
    exact comes_actAll g s actions

theorem comes_actAll (g : Setting) (s : State) (actions : List Action) :
    Comes g s (actAll s actions).1 := by
  cases actions with
  | nil => exact .refl s
  | cons a rest =>
    rw [actAll]
    exact (comes_act g s a).trans (comes_actAll g _ rest)

end

/-- The turns behind an action are happenings, one by one. -/
theorem comes_takeTurns (g : Setting) (n : Nat) (s : State) : Comes g s (takeTurns g n s) := by
  induction n generalizing s with
  | zero => exact .refl s
  | succ n ih =>
    rw [takeTurns]
    split
    · exact .refl s
    · next t rest hready =>
      have hturn : happen g s .turn = State.turn g { s with ready := rest } t := by
        rw [happen, hready]
      exact (hturn ▸ Comes.happening s .turn).trans (ih _)

def session (g : Setting) (actions : List Action) : State :=
  actions.foldl (fun s a => (step g s a).1) {}

/-- Every session is a course. -/
theorem session_course (g : Setting) (actions : List Action) :
    ∃ hs, course g hs = session g actions := by
  suffices h : ∀ s, Comes g s (actions.foldl (fun s a => (step g s a).1) s) from h {}
  induction actions with
  | nil => exact Comes.refl
  | cons a rest ih =>
    intro s
    have hstep : Comes g s (step g s a).1 := (comes_act g s a).trans (comes_takeTurns g _ _)
    exact hstep.trans (ih _)

/-- Every session is a row of moves. -/
theorem session_moves (g : Setting) (actions : List Action) :
    ∃ ms, run ms = session g actions := by
  obtain ⟨hs, hcourse⟩ := session_course g actions
  obtain ⟨ms, hms⟩ := course_moves g hs
  exact ⟨ms, hms.trans hcourse⟩

end ScriptDiagnosis.Session
