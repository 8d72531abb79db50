/-
  ScriptDiagnosis/Proofs/Session/Awakening.lean
  =============================================
  Whoever waits is woken.  In every course a submission that has not begun has a turn to come
  (`due_course`), and so has one whose work is done (`woken_course`).  The queue is taken from the
  front and grows at the end, so nobody is passed over, and after as many turns as the queue is
  long the one has begun (`begun_in_time`) and the other is over (`over_in_time`).
-/
import ScriptDiagnosis.Proofs.Session.Happenings
import ScriptDiagnosis.Proofs.Session.Waiting

namespace ScriptDiagnosis.Session
open State Review

/-! ### Nobody sleeps on -/

/-- Every submission whose work is done has a turn to come. -/
def Woken (s : State) : Prop :=
  ∀ n id, s.stateOf n = some (.waiting id) → s.workDone id = true → .submission n ∈ s.ready

namespace Woken

variable {s s' : State}

theorem calm (h : Woken s) (hc : Calm s s') : Woken s' := by
  intro n id hn hdone
  rcases hc.keeps.news hn with hold | hfresh
  · exact hc.ready.subset (h n id hold ((hc.stands.workDone id).symm.trans hdone))
  · cases hfresh

/-- Work that ends in its turn wakes the submission that waits for it. -/
theorem workTurn (h : Woken s) (howner : ∀ n id, s.stateOf n = some (.waiting id) →
    s.ownerOf id = some n) {id : Nat} (hturn : WorkTurn s id s') : Woken s' := by
  have haside := hturn.aside
  intro n k hn hdone
  rcases haside.keeps.news hn with hold | hfresh
  · rcases hturn.getsOn with rfl | ⟨next, hgoes, hgets⟩
    · exact h n k hold hdone
    · by_cases hk : k = id
      · cases hgets with
        | ends _ hwakes => exact hwakes n (hk ▸ howner n k hold)
        | calls hopen _ =>
          rw [workDone_of_state (by rw [hgoes.states, if_pos hk]), hopen] at hdone
          cases hdone
      · have hsame : s'.workDone k = s.workDone k :=
          workDone_congr (by rw [hgoes.states, if_neg hk])
        exact haside.ready.subset (h n k hold (hsame.symm.trans hdone))
  · cases hfresh

end Woken

/-- A submission waits for the work it has started, and each number has one. -/
structure Manned (s : State) : Prop where
  owner : ∀ {n id}, s.stateOf n = some (.waiting id) → s.ownerOf id = some n
  count : s.works.length = s.sequence

/-- In every run, who waits under a number owns its work. -/
theorem manned_run (ms : List Move) : Manned (run ms) where
  owner := fun h => (staffed ms).owner ((tracked ms).waiting h)
  count := (staffed ms).count

theorem Manned.exists_work {s : State} (h : Manned s) {n id : Nat}
    (hn : s.stateOf n = some (.waiting id)) : ∃ x, s.workStateOf id = some x := by
  obtain ⟨w, hw, _⟩ := Option.map_eq_some_iff.mp (h.owner hn)
  exact ⟨w.state, by rw [workStateOf, hw, Option.map_some]⟩

/-- A submission whose work is done does not wait after its turn. -/
theorem over_of_turn {s : State} (hm : Manned s) {n id : Nat}
    (h : s.stateOf n = some (.waiting id)) (hdone : s.workDone id = true) :
    (take s (.turn n)).Over n := by
  rcases turn_of_waiting h with ⟨ending, hend⟩ | ⟨hopen, _⟩
  · exact over_of_endsIn h hend
  · obtain ⟨x, hx⟩ := hm.exists_work h
    rw [workDone_of_state hx, hopen x hx] at hdone
    cases hdone

/-- The turn of one submission does not put the others to sleep. -/
theorem woken_submissionTurn {s : State} (hm : Manned s) {n : Nat}
    (h : ∀ k id, k ≠ n → s.stateOf k = some (.waiting id) → s.workDone id = true →
      .submission k ∈ s.ready) : Woken (s.submissionTurn n) := by
  intro k id hk hdone
  rcases submissionTurn_begins_or_spares s n with ⟨snippet, hfresh, hbegin⟩ | hspares
  · rw [hbegin] at hk hdone ⊢
    have hs := starts_begin s n snippet
    have hshifts := shifts_begin hfresh snippet
    by_cases hkn : k = n
    · -- it has just begun, so its work is not done
      rw [hkn, hshifts.after] at hk
      cases hk
      rw [workDone_of_state (by rw [hs.states, if_pos (by rw [hm.count])])] at hdone
      cases hdone
    · have hold := (hshifts.others k hkn).symm.trans hk
      have hne : id ≠ s.works.length + 1 := by
        rintro rfl
        have howner := hm.owner hold
        rw [ownerOf, work?_length_add_one] at howner
        cases howner
      have hsame : (s.begin n snippet).workDone id = s.workDone id :=
        workDone_congr (by rw [hs.states, if_neg hne])
      exact (ready_begin s n snippet).subset (h k id hkn hold (hsame.symm.trans hdone))
  -- nothing begins, so the works and the queue are as they were
  · have hsame := (stands_of_eq hspares.works hspares.inFlight).workDone id
    have hdone : s.workDone id = true := hsame.symm.trans hdone
    rw [hspares.ready]
    have hk : (take s (.turn n)).stateOf k = some (.waiting id) := hk
    rcases waiting_before hk with hold | ⟨hfresh, hturn⟩
    · by_cases hkn : k = n
      · rw [hkn] at hk hold
        obtain ⟨x, hx, hover⟩ := over_of_turn hm hold hdone
        have hx := hx.symm.trans hk
        cases hx
        cases hover
      · exact h k id hkn hold hdone
    · -- whoever begins takes a number
      cases hturn
      have hsome : taking s (.turn n) = some (n, id) := by rw [taking, hfresh, hk]
      rw [taking_of_sequence_eq (m := .turn n) hspares.sequence] at hsome
      cases hsome

theorem manned_course (g : Setting) (hs : List Happening) : Manned (course g hs) := by
  obtain ⟨ms, hms⟩ := course_moves g hs
  rw [← hms]
  exact manned_run ms

/-- No wake-up is lost. -/
theorem woken_course (g : Setting) (hs : List Happening) : Woken (course g hs) := by
  induction hs using List.reverseRecOn with
  | nil =>
    intro n id hn
    cases n <;> cases hn
  | append_singleton hs e ih =>
    rw [course_concat]
    cases e with
    | submit snippet => exact ih.calm (calm_submit _ snippet)
    | release n result first =>
      rw [happen]
      cases hrelease : (course g hs).release n result first with
      | none => exact ih
      | some s' => exact ih.calm (calm_release hrelease)
    | cancel n =>
      rw [happen]
      cases hcancel : (course g hs).cancel n with
      | none => exact ih
      | some s' => exact ih.calm (calm_cancel hcancel)
    -- in a turn the first of the queue leaves it, which counts against the invariant
    | turn =>
      rw [happen]
      split
      · exact ih
      · next t rest hready =>
        have hm : Manned { course g hs with ready := rest } :=
          ⟨(manned_course g hs).owner, (manned_course g hs).count⟩
        -- whose turn is taken is no longer in the queue, all others are
        have hrest : ∀ n id, .submission n ≠ t → (course g hs).stateOf n = some (.waiting id) →
            (course g hs).workDone id = true → .submission n ∈ rest := by
          intro n id hne hn hdone
          have hmem := ih n id hn hdone
          rw [hready] at hmem
          exact (List.mem_cons.mp hmem).resolve_left hne
        cases t with
        | submission n =>
          refine woken_submissionTurn hm ?_
          intro k id hkn
          exact hrest k id fun heq => hkn (Turn.submission.inj heq)
        | work id =>
          have hwoken : Woken { course g hs with ready := rest } :=
            fun n id => hrest n id Turn.noConfusion
          exact hwoken.workTurn (fun n id => hm.owner) (workTurn_turn g _ id)

/-! ### Nobody is forgotten -/

/-- Every submission that has not begun has a turn to come. -/
def Due (s : State) : Prop := ∀ n, s.stateOf n = some .fresh → .submission n ∈ s.ready

/-- A submission has begun, or it has ended before. -/
def Begun (s : State) (n : Nat) : Prop := ∃ x, s.stateOf n = some x ∧ x ≠ .fresh

theorem Begun.not_fresh {s : State} {n : Nat} (h : Begun s n) : s.stateOf n ≠ some .fresh := by
  obtain ⟨x, hx, hbegun⟩ := h
  rw [hx]
  exact fun heq => hbegun (Option.some.inj heq)

/-- The turn of a submission that has not begun: it begins, or ends cancelled. -/
theorem turn_of_fresh {s : State} {n : Nat} (h : s.stateOf n = some .fresh) :
    Begun (take s (.turn n)) n := by
  obtain ⟨b, hb, hfresh⟩ := Option.map_eq_some_iff.mp h
  rw [take, submissionTurn, hb]
  simp only [hfresh]
  split
  · exact ⟨_, (shifts_endSubmission h .cancelled).after, SubmissionState.noConfusion⟩
  · exact ⟨_, (shifts_begin h b.snippet).after, SubmissionState.noConfusion⟩

/-- Only who begins or ends gets on in a move. -/
theorem keeps_or_begun {s : State} {n : Nat} {x : SubmissionState} (h : s.stateOf n = some x)
    (m : Move) : (take s m).stateOf n = some x ∨ Begun (take s m) n := by
  have hshifts : ∀ {k y z}, Shifts k y z s (take s m) → z ≠ .fresh →
      (take s m).stateOf n = some x ∨ Begun (take s m) n := by
    intro k y z hs hz
    by_cases hnk : n = k
    · exact .inr ⟨z, hnk ▸ hs.after, hz⟩
    · exact .inl ((hs.others n hnk).trans h)
  cases take_change s m with
  | keeps hk => exact .inl (hk.states h)
  | begins hs _ _ => exact hshifts hs nofun
  | ends hs hend _ _ => exact hshifts hs (by cases hend <;> nofun)
  | writes hs _ _ => exact hshifts hs nofun

/-- Nobody begins twice. -/
theorem begun_take {s : State} {n : Nat} (h : Begun s n) (m : Move) : Begun (take s m) n := by
  obtain ⟨x, hx, hbegun⟩ := h
  rcases keeps_or_begun hx m with hsame | hnow
  · exact ⟨x, hsame, hbegun⟩
  · exact hnow

theorem begun_takeAll {s : State} {n : Nat} (h : Begun s n) (ms : List Move) :
    Begun (takeAll s ms) n := by
  induction ms generalizing s with
  | nil => exact h
  | cons m ms ih => exact ih (begun_take h m)

theorem fresh_or_begun {s : State} {n : Nat} (h : s.stateOf n = some .fresh) (ms : List Move) :
    (takeAll s ms).stateOf n = some .fresh ∨ Begun (takeAll s ms) n := by
  induction ms generalizing s with
  | nil => exact .inl h
  | cons m ms ih =>
    rcases keeps_or_begun h m with hfresh | hbegun
    · exact ih hfresh
    · exact .inr (begun_takeAll hbegun ms)

theorem begun_happenAll (g : Setting) {s : State} {n : Nat} (h : Begun s n)
    (hs : List Happening) : Begun (happenAll g s hs) n := by
  obtain ⟨ms, _, hms⟩ := happenAll_moves g s hs
  exact hms ▸ begun_takeAll h ms

namespace Due

variable {s s' : State}

theorem of_stays (h : Due s) (hs : Stays s s') (hready : s.ready <+: s'.ready) : Due s' :=
  fun n hn => hready.subset (h n ((hs.states n).symm.trans hn))

theorem submit (h : Due s) (snippet : Text) : Due (s.submit snippet) := by
  intro n hn
  rw [stateOf_submit] at hn
  split at hn
  · next hnew =>
    rw [hnew]
    exact List.mem_append_right _ List.mem_cons_self
  · exact List.mem_append_left _ (h n hn)

theorem workTurn (h : Due s) {id : Nat} (hturn : WorkTurn s id s') : Due s' := by
  have hbefore : ∀ {w s'}, Before s w s' → Due s' := by
    rintro w s' (⟨delays, logs⟩ | ⟨_, _, delays, logs⟩)
    · exact h
    · exact h.submit _
  cases hturn with
  | idle => exact h
  | ends _ hb _ => exact fun n hn => List.mem_append_left _ (hbefore hb n hn)
  | calls _ hb _ => exact fun n hn => hbefore hb n hn

/-- The turn of one submission takes no other out of the queue. -/
theorem submissionTurn {n : Nat}
    (h : ∀ k, k ≠ n → s.stateOf k = some .fresh → .submission k ∈ s.ready) :
    Due (s.submissionTurn n) := by
  intro k hk
  rcases submissionTurn_begins_or_spares s n with ⟨snippet, hfresh, hbegin⟩ | hspares
  · rw [hbegin] at hk ⊢
    have hshifts := shifts_begin hfresh snippet
    have hkn : k ≠ n := by
      rintro rfl
      rw [hshifts.after] at hk
      cases hk
    exact (ready_begin s n snippet).subset (h k hkn ((hshifts.others k hkn).symm.trans hk))
  · obtain ⟨j, hj, rfl⟩ := exists_lt_of_stateOf hk
    have hold := stateOf_of_lt (hspares.count ▸ hj)
    -- what has begun stays so, hence it was fresh before the turn
    have hfresh : s.stateOf (j + 1) = some .fresh := by
      by_contra hbegun
      have hstill := begun_take ⟨_, hold, fun heq => hbegun (heq ▸ hold)⟩ (.turn n)
      exact hstill.not_fresh hk
    rw [hspares.ready]
    refine h _ ?_ hfresh
    rintro rfl
    exact (turn_of_fresh hfresh).not_fresh hk

end Due

/-- Nobody who has submitted is forgotten. -/
theorem due_course (g : Setting) (hs : List Happening) : Due (course g hs) := by
  induction hs using List.reverseRecOn with
  | nil =>
    intro n hn
    cases n <;> cases hn
  | append_singleton hs e ih =>
    rw [course_concat]
    cases e with
    | submit snippet => exact ih.submit snippet
    | release n result first =>
      rw [happen]
      cases hrelease : (course g hs).release n result first with
      | none => exact ih
      | some s' =>
        exact ih.of_stays (stays_release hrelease) (calm_release hrelease).ready
    | cancel n =>
      rw [happen]
      cases hcancel : (course g hs).cancel n with
      | none => exact ih
      | some s' => exact ih.of_stays (stays_cancel hcancel) (calm_cancel hcancel).ready
    | turn =>
      rw [happen]
      split
      · exact ih
      · next t rest hready =>
        have hrest : ∀ n, .submission n ≠ t → (course g hs).stateOf n = some .fresh →
            .submission n ∈ rest := by
          intro n hne hn
          have hmem := ih n hn
          rw [hready] at hmem
          exact (List.mem_cons.mp hmem).resolve_left hne
        cases t with
        | submission n =>
          refine Due.submissionTurn (s := { course g hs with ready := rest }) ?_
          exact fun k hkn => hrest k fun heq => hkn (Turn.submission.inj heq)
        | work id =>
          have hdue : Due { course g hs with ready := rest } := fun n => hrest n Turn.noConfusion
          exact hdue.workTurn (workTurn_turn g _ id)

/-! ### Nobody is passed over -/

def Happening.isTurn : Happening → Bool
  | .turn => true
  | .submit _ | .release .. | .cancel _ => false

/-- Only a turn takes anything out of the queue. -/
theorem ready_happen (g : Setting) (s : State) {e : Happening} (he : e.isTurn = false) :
    s.ready <+: (happen g s e).ready := by
  cases e with
  | submit snippet => exact (calm_submit s snippet).ready
  | release n result first =>
    rw [happen]
    cases h : s.release n result first with
    | none => exact List.prefix_rfl
    | some s' => exact (calm_release h).ready
  | cancel n =>
    rw [happen]
    cases h : s.cancel n with
    | none => exact List.prefix_rfl
    | some s' => exact (calm_cancel h).ready
  | turn => cases he

/-- A turn takes the first of the queue out of it, and nothing else. -/
theorem ready_turn (g : Setting) {s : State} {t : Turn} {rest : List Turn}
    (h : s.ready = t :: rest) : rest <+: (happen g s .turn).ready := by
  rw [happen, h]
  cases t with
  | submission n =>
    rcases submissionTurn_begins_or_spares { s with ready := rest } n with
      ⟨snippet, _, hbegin⟩ | hspares
    · exact (ready_begin { s with ready := rest } n snippet).trans
        (by rw [← hbegin]; exact List.prefix_rfl)
    · have hsame : (State.submissionTurn { s with ready := rest } n).ready = rest := hspares.ready
      exact hsame.symm ▸ List.prefix_rfl
  | work id => exact (workTurn_turn g { s with ready := rest } id).aside.ready

/-- What is in the queue gets its turn, after those that are ahead of it. -/
theorem turn_comes (g : Setting) {s : State} {t : Turn} {ahead behind : List Turn}
    (h : s.ready = ahead ++ t :: behind) (later : List Happening)
    (hlater : ahead.length < later.countP Happening.isTurn) :
    ∃ before after, later = before ++ .turn :: after ∧
      ∃ rest, (happenAll g s before).ready = t :: rest := by
  induction later generalizing s ahead behind with
  | nil => cases hlater
  | cons e later ih =>
    -- whatever comes first, `t` is found behind those that are still ahead
    have hthen : ∀ {ahead'}, ahead' ++ t :: behind <+: (happen g s e).ready →
        ahead'.length < later.countP Happening.isTurn →
        ∃ before after, e :: later = before ++ .turn :: after ∧
          ∃ rest, (happenAll g s before).ready = t :: rest := by
      rintro ahead' ⟨behind', hready⟩ hlen
      rw [List.append_assoc, List.cons_append] at hready
      obtain ⟨before, after, rfl, hrest⟩ := ih hready.symm hlen
      exact ⟨e :: before, after, rfl, hrest⟩
    cases he : e.isTurn with
    | false =>
      refine hthen (h ▸ ready_happen g s he) ?_
      rwa [List.countP_cons_of_neg (by rw [he]; decide)] at hlater
    | true =>
      rw [List.countP_cons_of_pos he] at hlater
      cases e with
      | submit | release | cancel => cases he
      | turn =>
        cases ahead with
        | nil => exact ⟨[], later, rfl, behind, h⟩
        | cons first ahead =>
          exact hthen (ready_turn g h) (Nat.lt_of_succ_lt_succ hlater)

/-! ### In time -/

/-- Work that is done stays done for good. -/
theorem workStateOf_takeAll {s : State} {id : Nat} {x : WorkState}
    (h : s.workStateOf id = some x) (hdone : x.isDone = true) (ms : List Move) :
    (takeAll s ms).workStateOf id = some x := by
  induction ms generalizing s with
  | nil => exact h
  | cons m ms ih => exact ih (workStateOf_take_of_isDone h hdone m)

/-- Who waits goes on waiting under the same number, or it is over. -/
theorem waiting_or_over_take {s : State} {n id : Nat} (h : s.stateOf n = some (.waiting id))
    (m : Move) : (take s m).stateOf n = some (.waiting id) ∨ (take s m).Over n := by
  cases hm : m.concerns n with
  | false => exact .inl (stateOf_take h hm)
  | true =>
    rcases Move.eq_of_concerns hm with rfl | rfl
    · rw [take]
      cases hcancel : s.cancel n with
      | none => exact .inl h
      | some s' => exact .inl (((stays_cancel hcancel).states n).trans h)
    · rcases turn_of_waiting h with ⟨ending, hend⟩ | ⟨_, hidle⟩
      · exact .inr (over_of_endsIn h hend)
      · exact .inl (hidle.symm ▸ h)

theorem Over.takeAll {s : State} {n : Nat} (h : s.Over n) (ms : List Move) :
    (takeAll s ms).Over n := by
  obtain ⟨x, hx, hdone⟩ := h
  exact ⟨x, takeAll_of_isDone hx hdone ms, hdone⟩

theorem waiting_or_over {s : State} {n id : Nat} (h : s.stateOf n = some (.waiting id))
    (ms : List Move) :
    (takeAll s ms).stateOf n = some (.waiting id) ∨ (takeAll s ms).Over n := by
  induction ms generalizing s with
  | nil => exact .inl h
  | cons m ms ih =>
    rcases waiting_or_over_take h m with hwaiting | hover
    · exact ih hwaiting
    · exact .inr (Over.takeAll hover ms)

theorem course_append (g : Setting) (hs later : List Happening) :
    course g (hs ++ later) = happenAll g (course g hs) later :=
  List.foldl_append

theorem course_append_moves (g : Setting) (hs later : List Happening) :
    ∃ ms, (∀ n, .cancel n ∈ ms → .cancel n ∈ later) ∧
      takeAll (course g hs) ms = course g (hs ++ later) := by
  rw [course_append]
  exact happenAll_moves g _ later

theorem happenAll_append (g : Setting) (s : State) (before after : List Happening) :
    happenAll g s (before ++ after) = happenAll g (happenAll g s before) after :=
  List.foldl_append

theorem over_happenAll (g : Setting) {s : State} {n : Nat} (h : s.Over n)
    (hs : List Happening) : (happenAll g s hs).Over n := by
  obtain ⟨ms, _, hms⟩ := happenAll_moves g s hs
  exact hms ▸ Over.takeAll h ms

/-- A submission with a turn to come has it when as many turns are taken as the queue is long. -/
theorem turn_in_time (g : Setting) (hs later : List Happening) {n : Nat}
    (h : .submission n ∈ (course g hs).ready)
    (hlater : (course g hs).ready.length ≤ later.countP Happening.isTurn) :
    ∃ before after rest, later = before ++ .turn :: after ∧
      course g (hs ++ later) =
        happenAll g (take { course g (hs ++ before) with ready := rest } (.turn n)) after := by
  obtain ⟨ahead, behind, hready⟩ := List.append_of_mem h
  have hlen : ahead.length < later.countP Happening.isTurn := by
    rw [hready, List.length_append, List.length_cons] at hlater
    omega
  obtain ⟨before, after, rfl, rest, hrest⟩ := turn_comes g hready later hlen
  refine ⟨before, after, rest, rfl, ?_⟩
  rw [course_append, happenAll_append]
  rw [← course_append] at hrest ⊢
  -- its turn is the move by which it goes on
  have hturn : happen g (course g (hs ++ before)) .turn =
      take { course g (hs ++ before) with ready := rest } (.turn n) := by
    rw [happen, hrest]
    rfl
  rw [← hturn]
  rfl

/-- Then a submission that has not begun does so, or ends cancelled. -/
theorem begun_in_time (g : Setting) (hs later : List Happening) {n : Nat}
    (h : (course g hs).stateOf n = some .fresh)
    (hlater : (course g hs).ready.length ≤ later.countP Happening.isTurn) :
    Begun (course g (hs ++ later)) n := by
  obtain ⟨before, after, rest, rfl, hcourse⟩ := turn_in_time g hs later (due_course g hs n h) hlater
  rw [hcourse]
  refine begun_happenAll g ?_ after
  obtain ⟨ms, _, hms⟩ := course_append_moves g hs before
  rcases fresh_or_begun h ms with hfresh | hbegun
  · rw [hms] at hfresh
    exact turn_of_fresh (s := { course g (hs ++ before) with ready := rest }) hfresh
  · rw [hms] at hbegun
    exact begun_take (s := { course g (hs ++ before) with ready := rest }) hbegun (.turn n)

/-- And a submission whose work is done is over. -/
theorem over_in_time (g : Setting) (hs later : List Happening) {n id : Nat}
    (h : (course g hs).stateOf n = some (.waiting id)) (hdone : (course g hs).workDone id = true)
    (hlater : (course g hs).ready.length ≤ later.countP Happening.isTurn) :
    (course g (hs ++ later)).Over n := by
  obtain ⟨before, after, rest, rfl, hcourse⟩ :=
    turn_in_time g hs later (woken_course g hs n id h hdone) hlater
  rw [hcourse]
  refine over_happenAll g ?_ after
  obtain ⟨x, hx⟩ := (manned_course g hs).exists_work h
  have hxdone : x.isDone = true := (workDone_of_state hx).symm.trans hdone
  -- when its turn comes it is over, or it still waits and its work is done
  obtain ⟨ms, _, hms⟩ := course_append_moves g hs before
  rcases waiting_or_over h ms with hwaiting | hover
  · have hwork := workStateOf_takeAll hx hxdone ms
    rw [hms] at hwaiting hwork
    have hm := manned_course g (hs ++ before)
    exact over_of_turn (s := { course g (hs ++ before) with ready := rest }) ⟨hm.owner, hm.count⟩
      hwaiting ((workDone_of_state hwork).trans hxdone)
  · rw [hms] at hover
    exact Over.takeAll (s := { course g (hs ++ before) with ready := rest }) hover [.turn n]

end ScriptDiagnosis.Session
