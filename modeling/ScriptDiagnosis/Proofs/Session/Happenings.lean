/-
  ScriptDiagnosis/Proofs/Session/Happenings.lean
  ==============================================
  What one happening does to the works, the requests, the submissions and the queue.  All but the
  turns leave the works alone (`Calm`).  In a turn a submission may begin (`Starts`) or a piece of
  work get on (`GetsOn`): then it is done and its submission has a turn to come, or it goes on, and
  then nobody had asked for its cancellation.  What all this comes to over a whole course is proved
  where it is needed.
-/
import ScriptDiagnosis.Proofs.Session.Works

namespace ScriptDiagnosis.Session
open Review

namespace State

/-- Works get on by their own turns only: here none does, no request is lost, no submission gets
    on, and nobody loses a turn to come or the place in the queue. -/
structure Calm (s s' : State) : Prop where
  stands : Stands s s'
  marks : ∀ {id}, s.Marked id → s'.Marked id
  keeps : Keeps s s'
  ready : s.ready <+: s'.ready

/-- A request to cancel adds at most one turn to the queue. -/
theorem ready_cancelWork (s : State) (id : Nat) : s.ready <+: (s.cancelWork id).ready := by
  cases hdone : s.workDone id with
  | true =>
    have hsame : (s.cancelWork id).ready = s.ready :=
      congrArg State.ready (cancelWork_of_done hdone)
    exact hsame ▸ List.prefix_rfl
  | false =>
    obtain ⟨w, hw⟩ := workDone_eq_false_iff.mp hdone
    rcases cancelWork_of_running hw with heq | ⟨_, _, n, _, _, heq⟩
    · rw [heq]
      exact List.prefix_rfl
    · rw [heq]
      exact List.prefix_append _ _

theorem ready_begin (s : State) (n : Nat) (snippet : Text) :
    s.ready <+: (s.begin n snippet).ready := by
  have hcancel : s.ready <+: s.cancelInFlight.ready := by
    unfold cancelInFlight
    split
    · exact ready_cancelWork s _
    · exact List.prefix_rfl
  exact hcancel.trans (List.prefix_append _ _)

theorem calm_submit (s : State) (snippet : Text) : Calm s (s.submit snippet) where
  stands := stands_of_eq rfl rfl
  marks := fun h => h.of_eq rfl rfl
  keeps := keeps_submit s snippet
  ready := List.prefix_append _ _

theorem calm_release {s s' : State} {n : Nat} {result : CallResult} {first : Option Text}
    (h : s.release n result first = some s') : Calm s s' := by
  unfold release at h
  split at h
  · next id prompt hcall =>
    cases h
    refine ⟨stands_of_eq rfl rfl, ?_, Stays.keeps ⟨fun _ => rfl, rfl, rfl⟩,
      List.prefix_append _ _⟩
    rintro id ⟨w, hw, hrequested⟩
    -- the call that is answered was waiting, so it is none that was dropped
    refine ⟨w, hw, hrequested.mono fun hn => hn.setCall ?_⟩
    intro c hc hdropped
    rw [hcall] at hc
    cases hc
    cases hdropped
  · cases h

/-- A request to cancel disturbs nothing, apart from its mark. -/
theorem calm_cancel {s s' : State} {n : Nat} (h : s.cancel n = some s') : Calm s s' := by
  refine ⟨stands_cancel h, ?_, (stays_cancel h).keeps, ?_⟩
  -- marks: those there were, and perhaps one more
  · intro id hmarked
    unfold cancel at h
    split at h
    · cases h
    · split at h
      · cases h
        exact hmarked.of_eq rfl rfl
      · cases h
        split
        · exact hmarked.of_eq rfl rfl
        · exact hmarked.cancelWork _
      · cases h
  · unfold cancel at h
    split at h
    · cases h
    · split at h
      · cases h
        exact List.prefix_rfl
      · cases h
        split
        · exact List.prefix_rfl
        · exact ready_cancelWork s _
      · cases h

theorem Before.calm {s s' : State} {w : Work} (h : Before s w s') : Calm s s' := by
  cases h with
  | plain delays logs =>
    exact ⟨stands_of_eq rfl rfl, fun h => h.of_eq rfl rfl, Stays.keeps ⟨fun _ => rfl, rfl, rfl⟩,
      List.prefix_rfl⟩
  | @submits _ _ _ snippet _ _ delays logs =>
    have hsubmit := calm_submit s snippet
    exact ⟨stands_of_eq rfl rfl, fun h => h.of_eq rfl rfl, ⟨hsubmit.keeps.states,
      hsubmit.keeps.news, rfl, rfl⟩, hsubmit.ready⟩

/-- What becomes of the rest when a piece of work gets on. -/
structure Aside (id : Nat) (s s' : State) : Prop where
  marks : ∀ {k}, k ≠ id → s.Marked k → s'.Marked k
  keeps : Keeps s s'
  ready : s.ready <+: s'.ready

/-- A turn of one piece of work leaves the marks on the others, and the submissions, alone. -/
theorem WorkTurn.aside {s s' : State} {id : Nat} (h : WorkTurn s id s') : Aside id s s' := by
  cases h with
  | idle => exact ⟨fun _ h => h, (Stays.refl s).keeps, List.prefix_rfl⟩
  | @ends s₁ w ending h hbefore hdone =>
    have hcalm := hbefore.calm
    refine ⟨?_, ⟨hcalm.keeps.states, hcalm.keeps.news, hcalm.keeps.sequence, hcalm.keeps.latest⟩,
      hcalm.ready.trans (List.prefix_append _ _)⟩
    intro k hk hmarked
    obtain ⟨v, hv, hrequested⟩ := hcalm.marks hmarked
    refine ⟨v, ?_, hrequested⟩
    exact (work?_setWork s₁ id k _).trans ((if_neg hk).trans hv)
  | @calls s₁ w checked attempt prompt h hbefore hcalm' =>
    have hcalm := hbefore.calm
    refine ⟨?_, ⟨hcalm.keeps.states, hcalm.keeps.news, hcalm.keeps.sequence, hcalm.keeps.latest⟩,
      hcalm.ready⟩
    intro k hk hmarked
    obtain ⟨v, hv, hrequested⟩ := hcalm.marks hmarked
    refine ⟨v, (work?_setWork _ id k _).trans ((if_neg hk).trans hv), hrequested.mono ?_⟩
    intro n hn
    obtain ⟨c, hc, hstate⟩ := Option.map_eq_some_iff.mp hn
    have hcalls : (s₁.call id checked attempt prompt).calls =
        s₁.calls ++ [⟨id, prompt, .waiting⟩] := rfl
    -- the new call comes last, so it is none of those that were dropped
    rw [Dropped, call?, hcalls, numbered?_concat, if_neg, ← call?, hc, Option.map_some, hstate]
    rintro rfl
    simp [call?, numbered?] at hc

theorem goesOn_endWork {s : State} {id : Nat} {w : Work} (h : s.Running id w)
    (ending : WorkState) : GoesOn id ending s (s.endWork id w ending) := by
  have hset : GoesOn id ending s (s.setWork id fun w =>
      { w with state := ending, cancelRequested := false }) :=
    goesOn_setWork h (fun _ => rfl) fun _ => rfl
  exact ⟨hset.before, hset.states, hset.owners, hset.count, hset.inFlight⟩

theorem goesOn_call {s : State} {id : Nat} {w : Work} (h : s.Running id w)
    (checked : SyntaxCheck.SyntaxResult) (attempt : Nat) (prompt : Text) :
    GoesOn id (.waiting checked attempt (s.calls.length + 1)) s
      (s.call id checked attempt prompt) := by
  have hrunning : State.Running { s with calls := s.calls ++ [⟨id, prompt, .waiting⟩] } id w := h
  have hset : GoesOn id (.waiting checked attempt (s.calls.length + 1)) _
      (s.call id checked attempt prompt) :=
    goesOn_setWork hrunning (fun _ => rfl) fun _ => rfl
  exact ⟨hset.before, hset.states, hset.owners, hset.count, hset.inFlight⟩

/-- How a piece of work gets on: it is done, and its submission has a turn to come, or it is not,
    and then nobody had asked for its cancellation. -/
inductive GetsOn (s : State) (id : Nat) (s' : State) : WorkState → Prop
  | ends {next : WorkState} (hdone : next.isDone = true)
      (hwakes : ∀ n, s.ownerOf id = some n → .submission n ∈ s'.ready) : GetsOn s id s' next
  | calls {next : WorkState} (hopen : next.isDone = false) (hcalm : ¬ s.Marked id) :
      GetsOn s id s' next

/-- A turn of a piece of work leaves it waiting, or it gets on: it ends and wakes its submission,
    or makes a call without being asked to stop. -/
theorem WorkTurn.getsOn {s s' : State} {id : Nat} (h : WorkTurn s id s') :
    s' = s ∨ ∃ next, GoesOn id next s s' ∧ GetsOn s id s' next := by
  -- what comes before is calm, so it makes no difference to the works
  have hsame : ∀ {s₁ s₂ w next}, Before s w s₁ → GoesOn id next s₁ s₂ → GoesOn id next s s₂ := by
    intro s₁ s₂ w next hbefore hgoes
    have hstands := hbefore.calm.stands
    refine ⟨(hstands.workDone id).symm.trans hgoes.before, ?_, ?_, hgoes.count.trans hstands.count,
      hgoes.inFlight.trans hstands.inFlight⟩
    · intro k
      rw [hgoes.states, hstands.states]
    · intro k
      rw [hgoes.owners, hstands.owners]
  cases h with
  | idle => exact .inl rfl
  | @ends s₁ w ending h hbefore hdone =>
    refine .inr ⟨ending, hsame hbefore (goesOn_endWork (hbefore.running h) ending),
      .ends hdone ?_⟩
    intro n hn
    rw [ownerOf, h.1] at hn
    cases hn
    exact List.mem_append_right _ (List.mem_singleton.mpr rfl)
  | @calls s₁ w checked attempt prompt h hbefore hcalm =>
    refine .inr ⟨_, hsame hbefore (goesOn_call (hbefore.running h) checked attempt prompt),
      .calls rfl ?_⟩
    rintro ⟨v, hv, hrequested⟩
    rw [h.1] at hv
    cases hv
    exact hcalm hrequested

end State
end ScriptDiagnosis.Session
