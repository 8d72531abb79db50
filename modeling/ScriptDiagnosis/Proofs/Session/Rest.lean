/-
  ScriptDiagnosis/Proofs/Session/Rest.lean
  ========================================
  **Every session comes to rest.**  The turns that can still follow are counted: those in the queue,
  three for a submission that has not begun, one for a piece of work that is not done, and four
  more if the answer it waits for submits a snippet first.  No turn makes the count grow
  (`turnsLeft_turn`), and each has left the queue, so as many turns as are counted empty it.  After
  an action a session allows for no fewer (`turnsLeft_le_turnBound`); so its queue is empty in the
  end, and nobody waits for work that is done (`rested_session`).
-/
import Mathlib.Algebra.BigOperators.Group.Finset.Basic
import Mathlib.Algebra.Group.Action.Defs
import Mathlib.Algebra.Order.BigOperators.Group.Finset
import ScriptDiagnosis.Proofs.Session.Awakening

namespace ScriptDiagnosis.Session
open Review

namespace State

/-! ### Turns that can still follow -/

/-- Beyond its own turn, a fresh submission causes two of the work it starts, and one of the work
    that it cancels. -/
def submissionTurns : Option SubmissionState → Nat
  | some .fresh => 3
  | _ => 0

/-- Beyond its own turn, a piece of work causes one of its submission; where the answer submits a
    snippet first, there are those of the new submission, too. -/
def workTurns (s : State) : Option WorkState → Nat
  | some .fresh => 1
  | some (.waiting _ _ n) => if (s.firstOf n).isSome then 5 else 1
  | _ => 0

def submissionsLeft (s : State) : Nat :=
  ∑ n ∈ Finset.range s.submissions.length, submissionTurns (s.stateOf (n + 1))

def worksLeft (s : State) : Nat :=
  ∑ id ∈ Finset.range s.works.length, s.workTurns (s.workStateOf (id + 1))

def turnsLeft (s : State) : Nat := s.ready.length + s.submissionsLeft + s.worksLeft

/-- Where one summand changes, and no other grows. -/
theorem sum_range_le_of_ne (f f' : Nat → Nat) {m k : Nat} (hk : k < m)
    (h : ∀ j, j ≠ k → f' j ≤ f j) :
    ∑ j ∈ Finset.range m, f' j + f k ≤ ∑ j ∈ Finset.range m, f j + f' k := by
  have hmem : k ∈ Finset.range m := Finset.mem_range.mpr hk
  have hrest : ∑ j ∈ (Finset.range m).erase k, f' j ≤ ∑ j ∈ (Finset.range m).erase k, f j :=
    Finset.sum_le_sum fun j hj => h j (Finset.ne_of_mem_erase hj)
  rw [← Finset.add_sum_erase _ f hmem, ← Finset.add_sum_erase _ f' hmem]
  omega

/-! ### Submissions -/

section

variable {s s' : State} {n : Nat}

theorem submissionsLeft_keeps (h : Keeps s s')
    (hcount : s'.submissions.length = s.submissions.length) :
    s'.submissionsLeft = s.submissionsLeft := by
  rw [submissionsLeft, submissionsLeft, hcount]
  refine Finset.sum_congr rfl fun k hk => ?_
  have hsome := stateOf_of_lt (Finset.mem_range.mp hk)
  rw [h.states hsome, hsome]

theorem submissionsLeft_shifts {x y : SubmissionState} (h : Shifts n x y s s')
    (hcount : s'.submissions.length = s.submissions.length) :
    s'.submissionsLeft + submissionTurns (some x) ≤
      s.submissionsLeft + submissionTurns (some y) := by
  obtain ⟨k, hk, rfl⟩ := exists_lt_of_stateOf h.before
  rw [submissionsLeft, submissionsLeft, hcount, ← h.before, ← h.after]
  refine sum_range_le_of_ne (fun j => submissionTurns (s.stateOf (j + 1)))
    (fun j => submissionTurns (s'.stateOf (j + 1))) hk fun j hj => ?_
  rw [h.others (j + 1) (by omega)]

theorem submissionsLeft_submit (s : State) (snippet : Text) :
    (s.submit snippet).submissionsLeft = s.submissionsLeft + 3 := by
  have hcount : (s.submit snippet).submissions.length = s.submissions.length + 1 :=
    List.length_append
  rw [submissionsLeft, submissionsLeft, hcount, Finset.sum_range_succ, stateOf_submit, if_pos rfl]
  refine congrArg (· + 3) (Finset.sum_congr rfl fun k hk => ?_)
  have hk := Finset.mem_range.mp hk
  rw [stateOf_submit, if_neg (by omega)]

theorem submissionsLeft_spares (h : Spares s (s.submissionTurn n)) :
    (s.submissionTurn n).submissionsLeft ≤ s.submissionsLeft := by
  cases change_submissionTurn s n with
  | keeps hk => exact Nat.le_of_eq (submissionsLeft_keeps hk h.count)
  | begins hs _ _ => exact Nat.le_of_add_right_le (submissionsLeft_shifts hs h.count)
  | ends hs hend _ _ =>
    have hle := submissionsLeft_shifts hs h.count
    cases hend <;> exact Nat.le_of_add_right_le hle
  | writes hs _ _ => exact submissionsLeft_shifts hs h.count

end

/-! ### Works -/

/-- No answer submits a snippet that did not before. -/
def NoneFirst (s s' : State) : Prop := ∀ n, s.firstOf n = none → s'.firstOf n = none

section

variable {s s' : State}

theorem noneFirst_of_eq (h : s'.calls = s.calls) : NoneFirst s s' := by
  intro n hn
  rw [firstOf, call?, h]
  exact hn

theorem workTurns_le (h : NoneFirst s s') (x : Option WorkState) :
    s'.workTurns x ≤ s.workTurns x := by
  cases x with
  | none => exact Nat.le_refl _
  | some x =>
    cases x with
    | fresh | finished | failed | cancelled => exact Nat.le_refl _
    | waiting checked attempt n =>
      rw [workTurns, workTurns]
      cases hn : s.firstOf n with
      | none => simp [h n hn]
      | some => split <;> simp

theorem workTurns_le_five (s : State) (x : Option WorkState) : s.workTurns x ≤ 5 := by
  unfold workTurns
  split
  · omega
  · split <;> omega
  · omega

theorem workTurns_pos {x : WorkState} (h : x.isDone = false) : 1 ≤ s.workTurns (some x) := by
  cases x with
  | fresh => exact Nat.le_refl 1
  | waiting =>
    rw [workTurns]
    split <;> omega
  | finished | failed | cancelled => cases h

theorem worksLeft_stands (h : Stands s s') (hfirst : NoneFirst s s') :
    s'.worksLeft ≤ s.worksLeft := by
  rw [worksLeft, worksLeft, h.count]
  refine Finset.sum_le_sum fun id _ => ?_
  rw [h.states]
  exact workTurns_le hfirst _

/-- Where work gets on, the turns that its state causes are exchanged. -/
theorem worksLeft_goesOn {id : Nat} {w : Work} {next : WorkState} (hw : s.Running id w)
    (h : GoesOn id next s s') (hfirst : NoneFirst s s') :
    s'.worksLeft + s.workTurns (some w.state) ≤ s.worksLeft + s'.workTurns (some next) := by
  have hbefore : s.workStateOf id = some w.state := by rw [workStateOf, hw.1, Option.map_some]
  have hafter : s'.workStateOf id = some next := by rw [h.states, if_pos rfl]
  rw [← hbefore, ← hafter, worksLeft, worksLeft, h.count]
  cases id with
  | zero => cases hw.1
  | succ id =>
    have hlt : id < s.works.length := (List.getElem?_eq_some_iff.mp hw.1).1
    refine sum_range_le_of_ne (fun j => s.workTurns (s.workStateOf (j + 1)))
      (fun j => s'.workTurns (s'.workStateOf (j + 1))) hlt fun j hj => ?_
    rw [h.states, if_neg (by omega)]
    exact workTurns_le hfirst _

end

/-! ### A submission begins -/

theorem noneFirst_dropCall (s : State) (n : Nat) : NoneFirst s (s.dropCall n) := by
  intro k hk
  rw [firstOf, dropCall, call?_setCall]
  by_cases hkn : k = n
  · rw [if_pos hkn]
    cases s.call? k <;> rfl
  · rw [if_neg hkn]
    exact hk

/-- A request to cancel submits nothing, and at most one turn follows from it. -/
structure Modest (s s' : State) : Prop where
  submissions : s'.submissions = s.submissions
  first : NoneFirst s s'
  ready : s'.ready.length ≤ s.ready.length + 1

theorem Modest.refl (s : State) : Modest s s := ⟨rfl, noneFirst_of_eq rfl, Nat.le_add_right _ 1⟩

theorem modest_cancelWork (s : State) (id : Nat) : Modest s (s.cancelWork id) := by
  cases hdone : s.workDone id with
  | true =>
    rw [cancelWork_of_done hdone]
    exact .refl s
  | false =>
    obtain ⟨w, hw⟩ := workDone_eq_false_iff.mp hdone
    rcases cancelWork_of_running hw with heq | ⟨_, _, n, _, _, heq⟩
    · rw [heq]
      exact ⟨rfl, noneFirst_of_eq rfl, Nat.le_add_right _ 1⟩
    · rw [heq]
      exact ⟨rfl, noneFirst_dropCall s n, Nat.le_of_eq List.length_append⟩

theorem modest_cancelInFlight (s : State) : Modest s s.cancelInFlight := by
  unfold cancelInFlight
  split
  · exact modest_cancelWork s _
  · exact .refl s

theorem worksLeft_begin (s : State) (n : Nat) (snippet : Text) :
    (s.begin n snippet).worksLeft ≤ s.worksLeft + 1 := by
  have hs := starts_begin s n snippet
  have hfirst : NoneFirst s (s.begin n snippet) := (modest_cancelInFlight s).first
  rw [worksLeft, worksLeft, hs.count, Finset.sum_range_succ, hs.states, if_pos rfl]
  refine Nat.add_le_add_right (Finset.sum_le_sum fun id hid => ?_) 1
  have hid := Finset.mem_range.mp hid
  rw [hs.states, if_neg (by omega)]
  exact workTurns_le hfirst _

theorem length_submissions_begin (s : State) (n : Nat) (snippet : Text) :
    (s.begin n snippet).submissions.length = s.submissions.length :=
  (length_updateNumbered ..).trans (congrArg _ (modest_cancelInFlight s).submissions)

/-- A submission that has begun causes nothing more of its own. -/
theorem submissionsLeft_begin {s : State} {n : Nat} (h : s.stateOf n = some .fresh)
    (snippet : Text) : (s.begin n snippet).submissionsLeft + 3 ≤ s.submissionsLeft :=
  submissionsLeft_shifts (shifts_begin h snippet) (length_submissions_begin s n snippet)

/-- A turn of a submission leaves no more turns than there were: beginning causes three, one of
    them by the work that starts. -/
theorem turnsLeft_submissionTurn (s : State) (n : Nat) :
    (s.submissionTurn n).turnsLeft ≤ s.turnsLeft := by
  rcases submissionTurn_begins_or_spares s n with ⟨snippet, hfresh, hbegin⟩ | hspares
  · have hsubmissions := submissionsLeft_begin hfresh snippet
    have hworks := worksLeft_begin s n snippet
    have hready : (s.begin n snippet).ready.length ≤ s.ready.length + 2 := by
      have hcancel := (modest_cancelInFlight s).ready
      have hlength : (s.begin n snippet).ready.length = s.cancelInFlight.ready.length + 1 :=
        List.length_append
      omega
    rw [hbegin, turnsLeft, turnsLeft]
    omega
  · have hsubmissions := submissionsLeft_spares hspares
    have hworks := worksLeft_stands (stands_of_eq hspares.works hspares.inFlight)
      (noneFirst_of_eq hspares.calls)
    rw [turnsLeft, turnsLeft, hspares.ready]
    omega

/-! ### A piece of work gets on -/

/-- A snippet that is submitted before work goes on has been counted at the call that the work
    has waited for. -/
theorem Before.turnsLeft {s s' : State} {w : Work} (h : Before s w s')
    (hopen : w.state.isDone = false) :
    s'.turnsLeft + 1 ≤ s.turnsLeft + s'.workTurns (some w.state) := by
  cases h with
  | plain delays logs => exact Nat.add_le_add_left (workTurns_pos hopen) _
  | @submits _ _ n snippet hstate hfirst delays logs =>
    have hturns : workTurns { s.submit snippet with delays, logs } (some w.state) = 5 := by
      have hfirst : firstOf { s.submit snippet with delays, logs } n = some snippet := hfirst
      rw [hstate, workTurns, hfirst]
      rfl
    have hsubmissions : submissionsLeft { s.submit snippet with delays, logs } =
        s.submissionsLeft + 3 := submissionsLeft_submit s snippet
    have hworks : worksLeft { s.submit snippet with delays, logs } = s.worksLeft := rfl
    have hready : (s.submit snippet).ready.length = s.ready.length + 1 := List.length_append
    rw [hturns, State.turnsLeft, State.turnsLeft, hsubmissions, hworks, hready]
    omega

theorem turnsLeft_endWork {s : State} {id : Nat} {w : Work} (h : s.Running id w)
    {ending : WorkState} (hdone : ending.isDone = true) :
    (s.endWork id w ending).turnsLeft + s.workTurns (some w.state) ≤ s.turnsLeft + 1 := by
  have hworks := worksLeft_goesOn h (goesOn_endWork h ending) (noneFirst_of_eq rfl)
  have hending : (s.endWork id w ending).workTurns (some ending) = 0 := by
    cases ending with
    | fresh | waiting => cases hdone
    | finished | failed | cancelled => rfl
  have hsubmissions : (s.endWork id w ending).submissionsLeft = s.submissionsLeft := rfl
  have hready : (s.endWork id w ending).ready.length = s.ready.length + 1 := List.length_append
  rw [turnsLeft, turnsLeft, hsubmissions, hready]
  omega

theorem firstOf_call (s : State) (id : Nat) (checked : SyntaxCheck.SyntaxResult) (attempt : Nat)
    (prompt : Text) (n : Nat) : (s.call id checked attempt prompt).firstOf n =
      if n = s.calls.length + 1 then none else s.firstOf n := by
  have hcalls : (s.call id checked attempt prompt).calls = s.calls ++ [⟨id, prompt, .waiting⟩] :=
    rfl
  rw [firstOf, call?, hcalls, numbered?_concat]
  by_cases hn : n = s.calls.length + 1
  · rw [if_pos hn, if_pos hn]
    rfl
  · rw [if_neg hn, if_neg hn]
    rfl

/-- Work that makes a call causes one turn again, in place of those that its state has caused. -/
theorem turnsLeft_call {s : State} {id : Nat} {w : Work} (h : s.Running id w)
    (checked : SyntaxCheck.SyntaxResult) (attempt : Nat) (prompt : Text) :
    (s.call id checked attempt prompt).turnsLeft + s.workTurns (some w.state) ≤
      s.turnsLeft + 1 := by
  have hfirst : NoneFirst s (s.call id checked attempt prompt) := by
    intro n hn
    rw [firstOf_call, hn, ite_self]
  have hworks := worksLeft_goesOn h (goesOn_call h checked attempt prompt) hfirst
  have hnew : (s.call id checked attempt prompt).workTurns
      (some (.waiting checked attempt (s.calls.length + 1))) = 1 := by
    rw [workTurns, firstOf_call, if_pos rfl]
    rfl
  have hsubmissions : (s.call id checked attempt prompt).submissionsLeft = s.submissionsLeft := rfl
  have hready : (s.call id checked attempt prompt).ready = s.ready := rfl
  rw [turnsLeft, turnsLeft, hsubmissions, hready]
  omega

/-- A turn of a piece of work leaves no more turns than there were. -/
theorem WorkTurn.turnsLeft {s s' : State} {id : Nat} (h : WorkTurn s id s') :
    s'.turnsLeft ≤ s.turnsLeft := by
  cases h with
  | idle => exact Nat.le_refl _
  | ends hw hbefore hdone =>
    have hle := hbefore.turnsLeft hw.2
    have hend := turnsLeft_endWork (hbefore.running hw) hdone
    omega
  | calls hw hbefore _ =>
    have hle := hbefore.turnsLeft hw.2
    have hcall := turnsLeft_call (hbefore.running hw)
    exact Nat.le_of_add_le_add_right (Nat.le_trans (hcall ..) hle)

/-- **No turn leaves more turns than there were.** -/
theorem turnsLeft_turn (g : Setting) (s : State) (t : Turn) :
    (s.turn g t).turnsLeft ≤ s.turnsLeft := by
  cases t with
  | submission n => exact turnsLeft_submissionTurn s n
  | work id => exact (workTurn_turn g s id).turnsLeft

/-! ### Enough turns -/

/-- Each has left the queue, so as many turns as are counted empty it. -/
theorem ready_takeTurns (g : Setting) (k : Nat) (s : State) (h : s.turnsLeft ≤ k) :
    (takeTurns g k s).ready = [] := by
  induction k generalizing s with
  | zero =>
    rw [turnsLeft] at h
    exact List.length_eq_zero_iff.mp (by rw [takeTurns]; omega)
  | succ k ih =>
    rw [takeTurns]
    split
    · next hready => exact hready
    · next t rest hready =>
      -- whoever takes the turn has left the queue
      have hturn : (State.turn g { s with ready := rest } t).turnsLeft ≤
          rest.length + s.submissionsLeft + s.worksLeft :=
        turnsLeft_turn g { s with ready := rest } t
      have hlength : s.ready.length = rest.length + 1 := by rw [hready, List.length_cons]
      rw [turnsLeft] at h
      exact ih _ (by omega)

/-- A request to cancel leaves as many submissions as there were. -/
theorem length_submissions_cancel {s s' : State} {n : Nat} (h : s.cancel n = some s') :
    s'.submissions.length = s.submissions.length := by
  unfold cancel at h
  split at h
  · cases h
  · split at h
    · cases h
      exact length_updateNumbered ..
    · cases h
      split
      · exact length_updateNumbered ..
      · exact congrArg _ (modest_cancelWork s _).submissions
    · cases h

end State

open State

/-- Whoever begins was fresh, so there are no more works than submissions that have begun. -/
theorem submissionsLeft_take (s : State) (m : Move) :
    (take s m).submissionsLeft + 3 * (take s m).works.length + 3 * s.submissions.length ≤
      s.submissionsLeft + 3 * s.works.length + 3 * (take s m).submissions.length := by
  cases m with
  | submit snippet =>
    have hleft := submissionsLeft_submit s snippet
    have hlength : (s.submit snippet).submissions.length = s.submissions.length + 1 :=
      List.length_append
    have hworks : (s.submit snippet).works = s.works := rfl
    rw [take, hleft, hlength, hworks]
    omega
  | cancel n =>
    rw [take]
    cases h : s.cancel n with
    | none => exact Nat.le_refl _
    | some s' =>
      have hlength := length_submissions_cancel h
      have hleft := submissionsLeft_keeps (stays_cancel h).keeps hlength
      rw [Option.getD_some, hleft, hlength, (stands_cancel h).count]
  -- only a submission that begins adds to the works, and it has used its three turns up
  | turn n =>
    rw [take]
    rcases submissionTurn_begins_or_spares s n with ⟨snippet, hfresh, hbegin⟩ | hspares
    · have hleft := submissionsLeft_begin hfresh snippet
      rw [hbegin, length_submissions_begin, (starts_begin s n snippet).count]
      omega
    · have hleft := submissionsLeft_spares hspares
      rw [hspares.works, hspares.count]
      omega
  | work id next requested =>
    rw [take]
    split
    · exact Nat.le_refl _
    · have hworks := length_updateNumbered s.works
        (fun w => { w with state := next, cancelRequested := requested }) id
      exact Nat.le_of_eq (congrArg (s.submissionsLeft + 3 * · + 3 * s.submissions.length) hworks)
  | world => exact Nat.le_refl _

theorem submissionsLeft_run (ms : List Move) :
    (run ms).submissionsLeft + 3 * (run ms).works.length ≤ 3 * (run ms).submissions.length := by
  induction ms using List.reverseRecOn with
  | nil => exact Nat.le_refl 0
  | append_singleton ms m ih =>
    have htake := submissionsLeft_take (run ms) m
    rw [run_concat]
    omega

/-- What is counted is within the bound of a session. -/
theorem turnsLeft_le_turnBound (ms : List Move) : (run ms).turnsLeft ≤ turnBound (run ms) := by
  have hsubmissions := submissionsLeft_run ms
  have hworks : (run ms).worksLeft ≤ 5 * (run ms).works.length := by
    have hle : ∀ id ∈ Finset.range (run ms).works.length,
        (run ms).workTurns ((run ms).workStateOf (id + 1)) ≤ 5 := by
      intro id _
      exact workTurns_le_five _ _
    have hsum := Finset.sum_le_card_nsmul _ _ 5 hle
    rw [Finset.card_range, smul_eq_mul, Nat.mul_comm] at hsum
    exact hsum
  rw [turnsLeft, turnBound]
  omega

/-- No turn is left, everybody has begun, and nobody waits for work that is done. -/
structure Rested (s : State) : Prop where
  ready : s.ready = []
  begun : ∀ n, s.stateOf n ≠ some .fresh
  waiting : ∀ n id, s.stateOf n = some (.waiting id) → s.workDone id = false

/-- **The bound that a session allows itself is enough.** -/
theorem ready_session (g : Setting) (actions : List Action) : (session g actions).ready = [] := by
  induction actions using List.reverseRecOn with
  | nil => rfl
  | append_singleton actions a _ =>
    obtain ⟨hs, hcourse⟩ := session_course g actions
    obtain ⟨later, hact⟩ := comes_act g (session g actions) a
    obtain ⟨ms, hms⟩ := course_moves g (hs ++ later)
    rw [course_append, hcourse, hact] at hms
    have hstep : session g (actions ++ [a]) = settle g (act (session g actions) a).1 :=
      List.foldl_append
    rw [hstep, settle]
    exact ready_takeTurns g _ _ (hms ▸ turnsLeft_le_turnBound ms)

/-- Every session comes to rest. -/
theorem rested_session (g : Setting) (actions : List Action) : Rested (session g actions) where
  ready := ready_session g actions
  -- who is due has a turn in the queue, and the queue is empty
  begun := by
    intro n hn
    have hready := ready_session g actions
    obtain ⟨hs, hcourse⟩ := session_course g actions
    rw [← hcourse] at hready hn
    have hturn := due_course g hs n hn
    rw [hready] at hturn
    cases hturn
  waiting := by
    intro n id hn
    have hready := ready_session g actions
    obtain ⟨hs, hcourse⟩ := session_course g actions
    rw [← hcourse] at hready hn ⊢
    by_contra hdone
    have hturn := woken_course g hs n id hn (Bool.eq_true_of_not_eq_false hdone)
    rw [hready] at hturn
    cases hturn

end ScriptDiagnosis.Session
