/-
  ScriptDiagnosis/Proofs/Session/Waiting.lean
  ===========================================
  How the waiting of a submission ends (`EndsIn`): with what its work came to, or in cancellation,
  because the work was cancelled or because a request was noted when the work was done already.
  Its turn is decided by that and by its number alone (`take_turn_of_endsIn`); before the work is
  done a turn changes nothing (`turn_of_waiting`).  Whoever has the current number and is not
  cancelled still waits, has written what the work came to, or had no diagnosis to write (`Kept`).
-/
import ScriptDiagnosis.Proofs.Session.Apart
import ScriptDiagnosis.Proofs.Session.Works

namespace ScriptDiagnosis.Session
namespace State

/-- Whether a request to cancel a submission is noted. -/
def requestOf (s : State) (n : Nat) : Option Bool :=
  (s.submission? n).map Submission.cancelRequested

/-- A submission has come to its end. -/
def Over (s : State) (n : Nat) : Prop := ∃ x, s.stateOf n = some x ∧ x.isDone = true

/-! ### How waiting ends -/

inductive Ending
  | diagnosis (d : Diagnosis)
  | failure (f : Failure)
  | cancelled

/-- How the waiting of submission `n` for its work ends, should it have its turn now. -/
inductive EndsIn (s : State) (n id : Nat) : Ending → Prop
  | requested (h : s.requestOf n = some true) : EndsIn s n id .cancelled
  | finished {d : Diagnosis} (hcalm : s.requestOf n = some false)
      (h : s.workStateOf id = some (.finished d)) : EndsIn s n id (.diagnosis d)
  | failed {f : Failure} (hcalm : s.requestOf n = some false)
      (h : s.workStateOf id = some (.failed f)) : EndsIn s n id (.failure f)
  | cancelled (hcalm : s.requestOf n = some false) (h : s.workStateOf id = some .cancelled) :
      EndsIn s n id .cancelled

/-- What a submission does when its waiting has ended. -/
def afterWaiting (s : State) (n id : Nat) : Ending → State
  | .diagnosis d => s.finishedWaiting n id d
  | .failure f => s.endSubmission n (.failed f)
  | .cancelled => s.cancelledWaiting n id

variable {s : State} {n id : Nat}

theorem take_turn_of_waiting {b : Submission} (h : s.submission? n = some b)
    (hstate : b.state = .waiting id) : take s (.turn n) = s.resume n id b.cancelRequested := by
  rw [take, submissionTurn, h]
  simp only [hstate]

theorem exists_waiting (h : s.stateOf n = some (.waiting id)) :
    ∃ b, s.submission? n = some b ∧ b.state = .waiting id ∧
      s.requestOf n = some b.cancelRequested := by
  obtain ⟨b, hb, hstate⟩ := Option.map_eq_some_iff.mp h
  exact ⟨b, hb, hstate, by rw [requestOf, hb, Option.map_some]⟩

/-- How waiting ends is how the submission goes on in its turn. -/
theorem take_turn_of_endsIn (h : s.stateOf n = some (.waiting id)) {ending : Ending}
    (hend : EndsIn s n id ending) : take s (.turn n) = s.afterWaiting n id ending := by
  obtain ⟨b, hb, hstate, hrequest⟩ := exists_waiting h
  rw [take_turn_of_waiting hb hstate]
  have hcalm : s.requestOf n = some false → b.cancelRequested = false :=
    fun hcalm => Option.some.inj (hrequest.symm.trans hcalm)
  cases hend with
  | requested hnoted =>
    have hnoted : b.cancelRequested = true := Option.some.inj (hrequest.symm.trans hnoted)
    rw [resume, if_pos hnoted]
    rfl
  | finished hno hwork | failed hno hwork | cancelled hno hwork =>
    rw [workStateOf] at hwork
    rw [resume, hcalm hno, hwork]
    rfl

/-- Either the waiting has ended, or the work is not done and the turn changes nothing. -/
theorem turn_of_waiting (h : s.stateOf n = some (.waiting id)) :
    (∃ ending, EndsIn s n id ending) ∨
      (∀ x, s.workStateOf id = some x → x.isDone = false) ∧ take s (.turn n) = s := by
  obtain ⟨b, hb, hstate, hrequest⟩ := exists_waiting h
  cases hcalm : b.cancelRequested with
  | true => exact .inl ⟨.cancelled, .requested (hcalm ▸ hrequest)⟩
  | false =>
    have hturn := take_turn_of_waiting hb hstate
    rw [hcalm] at hrequest hturn
    -- by what its work has come to
    cases hwork : s.workStateOf id with
    | none =>
      refine .inr ⟨by rintro _ ⟨⟩, ?_⟩
      rw [workStateOf] at hwork
      rw [hturn, resume, hwork]
      rfl
    | some x =>
      cases x with
      | finished d => exact .inl ⟨_, .finished hrequest hwork⟩
      | failed f => exact .inl ⟨_, .failed hrequest hwork⟩
      | cancelled => exact .inl ⟨_, .cancelled hrequest hwork⟩
      | fresh | waiting =>
        refine .inr ⟨by rintro _ ⟨⟩; rfl, ?_⟩
        rw [workStateOf] at hwork
        rw [hturn, resume, hwork]
        rfl

/-- How a submission ends, by its number and the current one. -/
def Ending.reached (id sequence : Nat) : Ending → SubmissionState
  | .diagnosis _ => if id = sequence then .outcome id else .superseded
  | .failure f => .failed f
  | .cancelled => if id = sequence then .cancelled else .superseded

/-- Waiting that ends reaches the end for which it was waiting, or is superseded. -/
theorem stateOf_afterWaiting (h : s.stateOf n = some (.waiting id)) (ending : Ending) :
    (s.afterWaiting n id ending).stateOf n = some (ending.reached id s.sequence) := by
  have hends : ∀ y, (s.endSubmission n y).stateOf n = some y :=
    fun y => (shifts_endSubmission h y).after
  have hlogs : ∀ rs y, ((s.addLogs rs).endSubmission n y).stateOf n = some y :=
    fun rs y => (shifts_endSubmission (s := s.addLogs rs) h y).after
  have hwrites : ∀ l y, (State.endSubmission { s with latest := l } n y).stateOf n = some y :=
    fun l y => (shifts_endSubmission (s := { s with latest := l }) h y).after
  cases ending with
  | diagnosis d =>
    rw [afterWaiting, finishedWaiting, Ending.reached]
    by_cases hid : id = s.sequence
    · rw [if_neg (not_not.mpr hid), if_pos hid, hwrites]
    · rw [if_pos hid, if_neg hid, hlogs]
  | failure f => exact hends _
  | cancelled =>
    rw [afterWaiting, cancelledWaiting, Ending.reached]
    by_cases hid : id = s.sequence
    · rw [if_neg (not_not.mpr hid), if_pos hid, hends]
    · rw [if_pos hid, if_neg hid, hlogs]

theorem Ending.isDone_reached (ending : Ending) (id sequence : Nat) :
    (ending.reached id sequence).isDone = true := by
  cases ending with
  | failure f => rfl
  | diagnosis | cancelled => rw [reached]; split <;> rfl

theorem over_of_endsIn (h : s.stateOf n = some (.waiting id)) {ending : Ending}
    (hend : EndsIn s n id ending) : (take s (.turn n)).Over n := by
  rw [take_turn_of_endsIn h hend]
  exact ⟨_, stateOf_afterWaiting h ending, ending.isDone_reached id s.sequence⟩

end State

open State

/-! ### Requests to cancel a submission -/

section

variable {s : State} {n id : Nat} {x : SubmissionState}

theorem requestOf_take (h : s.stateOf n = some x) {m : Move} (hm : m.concerns n = false) :
    (take s m).requestOf n = s.requestOf n := by
  obtain ⟨b, hb, _⟩ := Option.map_eq_some_iff.mp h
  rw [requestOf, submission?_take hb hm, requestOf, hb]

theorem stateOf_take (h : s.stateOf n = some x) {m : Move} (hm : m.concerns n = false) :
    (take s m).stateOf n = some x := by
  obtain ⟨b, hb, rfl⟩ := Option.map_eq_some_iff.mp h
  rw [stateOf, submission?_take hb hm, Option.map_some]

/-- Whoever waits has begun, or waited before. -/
theorem waiting_before {m : Move} (h : (take s m).stateOf n = some (.waiting id)) :
    s.stateOf n = some (.waiting id) ∨ s.stateOf n = some .fresh ∧ m = .turn n := by
  cases take_change s m with
  | keeps hk =>
    rcases hk.news h with hold | hfresh
    · exact .inl hold
    · cases hfresh
  | @begins k hs _ _ =>
    by_cases hn : n = k
    · rw [hn]
      exact .inr ⟨hs.before, rfl⟩
    · exact .inl ((hs.others n hn).symm.trans h)
  -- no end is a waiting
  | @ends k y z hs hend _ _ =>
    by_cases hn : n = k
    · rw [hn, hs.after] at h
      cases h
      cases hend
    · exact .inl ((hs.others n hn).symm.trans h)
  | @writes k d hs _ _ =>
    by_cases hn : n = k
    · rw [hn, hs.after] at h
      cases h
    · exact .inl ((hs.others n hn).symm.trans h)

theorem submissions_cancelWork (s : State) (id : Nat) :
    (s.cancelWork id).submissions = s.submissions := by
  cases hdone : s.workDone id with
  | true => rw [cancelWork_of_done hdone]
  | false =>
    obtain ⟨w, hw⟩ := workDone_eq_false_iff.mp hdone
    rcases cancelWork_of_running hw with heq | ⟨_, _, _, _, _, heq⟩ <;> rw [heq] <;> rfl

theorem submissions_cancelInFlight (s : State) : s.cancelInFlight.submissions = s.submissions := by
  unfold cancelInFlight
  split
  · exact submissions_cancelWork s _
  · rfl

theorem requestOf_begin (s : State) (n : Nat) (snippet : Text) :
    (s.begin n snippet).requestOf n = s.requestOf n := by
  have hbegin : (s.begin n snippet).submissions = (s.cancelInFlight.setSubmission n fun b =>
      { b with state := .waiting (s.cancelInFlight.sequence + 1) }).submissions := rfl
  rw [requestOf, submission?, hbegin, ← submission?, submission?_setSubmission, if_pos rfl,
    submission?, submissions_cancelInFlight, ← submission?, Option.map_map, requestOf]
  rfl

/-- Who begins was not asked to end. -/
theorem requestOf_of_begins (h : s.stateOf n = some .fresh)
    (hwaits : (take s (.turn n)).stateOf n = some (.waiting id)) :
    (take s (.turn n)).requestOf n = some false := by
  obtain ⟨b, hb, hfresh⟩ := Option.map_eq_some_iff.mp h
  have hturn : take s (.turn n) =
      if b.cancelRequested then s.endSubmission n .cancelled else s.begin n b.snippet := by
    rw [take, submissionTurn, hb]
    simp only [hfresh]
  cases hcalm : b.cancelRequested with
  | true =>
    rw [hturn, if_pos hcalm, (shifts_endSubmission h _).after] at hwaits
    cases hwaits
  | false =>
    rw [hturn, if_neg (by rw [hcalm]; decide), requestOf_begin, requestOf, hb, Option.map_some,
      hcalm]

/-- While its work is not done, a request to cancel a submission goes to the work. -/
theorem cancel_of_open (h : s.stateOf n = some (.waiting id)) (hopen : s.workDone id = false) :
    take s (.cancel n) = s.cancelWork id := by
  obtain ⟨b, hb, hstate, _⟩ := exists_waiting h
  rw [take, State.cancel, hb]
  simp only [hstate, hopen]
  rfl

end

/-- A work that was started and is done stays done. -/
theorem workDone_take {ms : List Move} {n id : Nat} (hmem : (n, id) ∈ taken ms) (m : Move)
    (hdone : (run ms).workDone id = true) : (take (run ms) m).workDone id = true := by
  obtain ⟨w, hw, _⟩ := Option.map_eq_some_iff.mp ((staffed ms).owner hmem)
  have hwork : (run ms).workStateOf id = some w.state := by rw [workStateOf, hw, Option.map_some]
  rw [workDone_of_state hwork] at hdone
  rw [workDone_of_state (workStateOf_take_of_isDone hwork hdone m), hdone]

/-- While the work is not done a request goes to the work, and none is noted for the submission
    that waits. -/
theorem requestOf_of_open (ms : List Move) {n id : Nat}
    (h : (run ms).stateOf n = some (.waiting id)) (hopen : (run ms).workDone id = false) :
    (run ms).requestOf n = some false := by
  induction ms using List.reverseRecOn with
  | nil => cases n <;> cases h
  | append_singleton ms m ih =>
    rw [run_concat] at h hopen ⊢
    rcases waiting_before h with hwaiting | ⟨hfresh, rfl⟩
    · have hbefore : (run ms).workDone id = false := by
        cases hdone : (run ms).workDone id with
        | false => rfl
        | true =>
          rw [workDone_take ((tracked ms).waiting hwaiting) m hdone] at hopen
          cases hopen
      have hcalm := ih hwaiting hbefore
      cases hm : m.concerns n with
      | false => rw [requestOf_take hwaiting hm, hcalm]
      | true =>
        rcases Move.eq_of_concerns hm with rfl | rfl
        · rw [cancel_of_open hwaiting hbefore, requestOf, submission?, submissions_cancelWork]
          exact hcalm
        · rcases turn_of_waiting hwaiting with ⟨ending, hend⟩ | ⟨_, hidle⟩
          · have hdone := ending.isDone_reached id (run ms).sequence
            rw [take_turn_of_endsIn hwaiting hend, stateOf_afterWaiting hwaiting] at h
            rw [Option.some.inj h] at hdone
            cases hdone
          · rw [hidle, hcalm]
    · exact requestOf_of_begins hfresh h

/-! ### Nothing is lost -/

/-- What has become of the submission with the current number, unless it was cancelled. -/
inductive Kept (s : State) (n id : Nat) : Prop
  | waits (hstate : s.stateOf n = some (.waiting id)) (hcalm : s.requestOf n = some false)
  | wrote {d : Diagnosis} (hstate : s.stateOf n = some (.outcome id))
      (hwork : s.workStateOf id = some (.finished d)) (hlatest : s.latest = some (id, d))
  /-- There is no diagnosis to write. -/
  | fails {x : WorkState} (hwork : s.workStateOf id = some x) (hdone : x.isDone = true)
      (hnone : ∀ d, x ≠ .finished d)

namespace Kept

variable {s : State} {n id : Nat} {taken written : List (Nat × Nat)}

/-- Work that is done without a diagnosis will never have one. -/
theorem fails_take {x : WorkState} (hwork : s.workStateOf id = some x) (hdone : x.isDone = true)
    (hnone : ∀ d, x ≠ .finished d) (m : Move) : Kept (Session.take s m) n id :=
  .fails (workStateOf_take_of_isDone hwork hdone m) hdone hnone

/-- The turn of the submission itself. -/
theorem turn (h : s.stateOf n = some (.waiting id)) (hcalm : s.requestOf n = some false)
    (hcurrent : s.sequence = id) : Kept (Session.take s (.turn n)) n id := by
  rcases turn_of_waiting h with ⟨ending, hend⟩ | ⟨_, hidle⟩
  · cases hend with
    | requested hnoted =>
      rw [hcalm] at hnoted
      cases hnoted
    | @finished d hno hwork =>
      have hend : EndsIn s n id (.diagnosis d) := .finished hno hwork
      have hturn := take_turn_of_endsIn h hend
      have hstate := stateOf_afterWaiting h (.diagnosis d)
      have hlatest : (s.afterWaiting n id (.diagnosis d)).latest = some (id, d) := by
        rw [afterWaiting, finishedWaiting, if_neg (not_not.mpr hcurrent.symm)]
        rfl
      refine .wrote (d := d) ?_ (workStateOf_take_of_isDone hwork rfl _) (hturn ▸ hlatest)
      rw [hturn, hstate]
      exact congrArg some (if_pos hcurrent.symm)
    | failed hno hwork => exact fails_take hwork rfl (fun _ => WorkState.noConfusion) _
    | cancelled hno hwork => exact fails_take hwork rfl (fun _ => WorkState.noConfusion) _
  · rw [hidle]
    exact .waits h hcalm

/-- Who has written under the last number is not written over while that number is the last. -/
theorem latest_of_outcome (ht : Tracked s taken written) (h : s.stateOf n = some (.outcome id))
    (hcurrent : s.sequence = id) (m : Move) : (Session.take s m).latest = s.latest := by
  cases take_change s m with
  | keeps hk => exact hk.latest
  | begins _ _ hlatest => exact hlatest
  | ends _ _ _ hlatest => exact hlatest
  | writes hs _ _ =>
    -- the current number has one submission, and it waits no more
    have hbefore := hs.before
    rw [hcurrent] at hbefore
    have hsame := ht.unique (ht.own (ht.outcome.mp h)) (ht.waiting hbefore)
    rw [← hsame, h] at hbefore
    cases hbefore

/-- Whatever moves but a request to cancel it, the submission loses nothing. -/
theorem take (h : Kept s n id) (ht : Tracked s taken written) (hcurrent : s.sequence = id)
    {m : Move} (hm : m ≠ .cancel n) : Kept (Session.take s m) n id := by
  cases h with
  | waits hstate hcalm =>
    cases hconcerns : m.concerns n with
    | false =>
      have hsame := requestOf_take hstate hconcerns
      exact .waits (stateOf_take hstate hconcerns) (hsame ▸ hcalm)
    | true =>
      rcases Move.eq_of_concerns hconcerns with rfl | rfl
      · exact absurd rfl hm
      · exact turn hstate hcalm hcurrent
  | wrote hstate hwork hlatest =>
    exact .wrote (take_of_isDone hstate rfl m) (workStateOf_take_of_isDone hwork rfl m)
      ((latest_of_outcome ht hstate hcurrent m).trans hlatest)
  | fails hwork hdone hnone => exact fails_take hwork hdone hnone m

end Kept

theorem sequence_le_takeAll (s : State) (ms : List Move) :
    s.sequence ≤ (takeAll s ms).sequence := by
  induction ms generalizing s with
  | nil => exact Nat.le_refl _
  | cons m ms ih => exact Nat.le_trans (sequence_le_take s m) (ih (Session.take s m))

/-- Nothing is lost of the submission with the current number, as long as it is not cancelled and
    no other begins. -/
theorem kept_run {before : List Move} {n id : Nat} (h : Kept (run before) n id)
    (hcurrent : (run before).sequence = id) (after : List Move) (hcancel : .cancel n ∉ after)
    (hlast : (run (before ++ after)).sequence = id) : Kept (run (before ++ after)) n id := by
  induction after using List.reverseRecOn with
  | nil => rwa [List.append_nil]
  | append_singleton after m ih =>
    rw [← List.append_assoc, run_concat] at hlast ⊢
    have hle : (run before).sequence ≤ (run (before ++ after)).sequence := by
      rw [run, run, takeAll_append]
      exact sequence_le_takeAll _ after
    have hthen : (run (before ++ after)).sequence = id := by
      have hge := sequence_le_take (run (before ++ after)) m
      omega
    have hkept := ih (fun hn => hcancel (List.mem_append_left _ hn)) hthen
    refine hkept.take (tracked _) hthen ?_
    rintro rfl
    exact hcancel (List.mem_append_right _ (List.mem_singleton.mpr rfl))

end ScriptDiagnosis.Session
