/-
  ScriptDiagnosis/Proofs/Session/Apart.lean
  =========================================
  What a submission is to the others: nothing.  A move that is not its own neither reads nor
  writes its record, so the two may change places (`take_setSubmission`).  Once it is over its own
  moves do nothing either, and the rest of the run goes as though it still waited
  (`takeAll_endSubmission`).
-/
import ScriptDiagnosis.Proofs.Session.Moves

namespace ScriptDiagnosis.Session
open State

/-- The submission itself is cancelled or takes a turn. -/
def Move.concerns (n : Nat) : Move → Bool
  | .cancel k | .turn k => k == n
  | .submit _ | .work .. | .world .. => false

theorem Move.eq_of_concerns {n : Nat} {m : Move} (h : m.concerns n = true) :
    m = .cancel n ∨ m = .turn n := by
  cases m with
  | cancel k => exact .inl (congrArg Move.cancel (eq_of_beq h))
  | turn k => exact .inr (congrArg Move.turn (eq_of_beq h))
  | submit | work | world => cases h

section

variable {α : Type}

theorem updateNumbered_comm (xs : List α) {n k : Nat} (h : k ≠ n) (f g : α → α) :
    updateNumbered (updateNumbered xs f n) g k = updateNumbered (updateNumbered xs g k) f n := by
  cases n with
  | zero => rfl
  | succ n =>
    cases k with
    | zero => rfl
    | succ k => exact List.modify_modify_ne f g xs (by omega)

/-- A change to what is there can be made before or after something is added behind it. -/
theorem updateNumbered_concat {xs : List α} {n : Nat} {x : α} (h : numbered? xs n = some x)
    (f : α → α) (y : α) : updateNumbered (xs ++ [y]) f n = updateNumbered xs f n ++ [y] := by
  cases n with
  | zero => cases h
  | succ n =>
    have hlt : n < xs.length := (List.getElem?_eq_some_iff.mp h).1
    apply List.ext_getElem?
    intro k
    simp only [updateNumbered, List.getElem?_modify, List.getElem?_append, List.length_modify]
    by_cases hk : k < xs.length
    · simp [hk]
    · have hne : n ≠ k := by omega
      simp [hk, hne]

end

namespace State

theorem submission?_setSubmission (s : State) (n k : Nat) (f : Submission → Submission) :
    (s.setSubmission n f).submission? k =
      if k = n then (s.submission? k).map f else s.submission? k :=
  numbered?_updateNumbered s.submissions f n k

theorem submission?_setSubmission_of_ne (s : State) {n k : Nat} (h : k ≠ n)
    (f : Submission → Submission) : (s.setSubmission n f).submission? k = s.submission? k := by
  rw [submission?_setSubmission, if_neg h]

theorem setSubmission_self {s : State} {n : Nat} {b : Submission} (h : s.submission? n = some b) :
    (s.setSubmission n fun _ => b) = s := by
  have hsame : updateNumbered s.submissions (fun _ => b) n = updateNumbered s.submissions id n :=
    updateNumbered_congr fun x hx => Option.some.inj (h.symm.trans hx)
  have hid : updateNumbered s.submissions id n = s.submissions := by
    cases n with
    | zero => rfl
    | succ n => exact List.modify_id n _
  rw [setSubmission, hsame, hid]

theorem setSubmission_comm (s : State) {n k : Nat} (h : k ≠ n) (f g : Submission → Submission) :
    (s.setSubmission n f).setSubmission k g = (s.setSubmission k g).setSubmission n f := by
  simp only [setSubmission, updateNumbered_comm _ h]

/-! ### Moves of others -/

/-- Requests to cancel work do not look at submissions. -/
theorem cancelWork_setSubmission (s : State) (n id : Nat) (f : Submission → Submission) :
    (s.setSubmission n f).cancelWork id = (s.cancelWork id).setSubmission n f := by
  have hwork : (s.setSubmission n f).work? id = s.work? id := rfl
  have hcall : ∀ k, (s.setSubmission n f).call? k = s.call? k := fun _ => rfl
  rw [cancelWork, cancelWork, hwork]
  cases s.work? id with
  | none => rfl
  | some w =>
    dsimp only
    cases w.state with
    | waiting checked attempt k =>
      dsimp only
      rw [hcall]
      split <;> rfl
    | fresh | finished | failed | cancelled => rfl

theorem cancelInFlight_setSubmission (s : State) (n : Nat) (f : Submission → Submission) :
    (s.setSubmission n f).cancelInFlight = s.cancelInFlight.setSubmission n f := by
  have hin : (s.setSubmission n f).inFlight = s.inFlight := rfl
  rw [cancelInFlight, cancelInFlight, hin]
  cases s.inFlight with
  | none => rfl
  | some id => exact cancelWork_setSubmission s n id f

theorem begin_setSubmission (s : State) {n k : Nat} (h : k ≠ n) (snippet : Text)
    (f : Submission → Submission) :
    (s.setSubmission n f).begin k snippet = (s.begin k snippet).setSubmission n f := by
  simp only [begin, cancelInFlight_setSubmission, setSubmission_comm _ h]
  rfl

theorem resume_setSubmission (s : State) {n k : Nat} (h : k ≠ n) (id : Nat) (requested : Bool)
    (f : Submission → Submission) :
    (s.setSubmission n f).resume k id requested = (s.resume k id requested).setSubmission n f := by
  have hsequence : (s.setSubmission n f).sequence = s.sequence := rfl
  have hwork : (s.setSubmission n f).work? id = s.work? id := rfl
  have hcancelled :
      (s.setSubmission n f).cancelledWaiting k id =
        (s.cancelledWaiting k id).setSubmission n f := by
    rw [cancelledWaiting, cancelledWaiting, hsequence]
    split
    · exact setSubmission_comm (s.addLogs [supersededRecord id s.sequence]) h f _
    · exact setSubmission_comm s h f _
  rw [resume, resume, hwork]
  split
  · exact hcancelled
  · split
    · next d _ =>
      rw [finishedWaiting, finishedWaiting, hsequence]
      split
      · exact setSubmission_comm (s.addLogs [staleRecord id]) h f _
      · exact setSubmission_comm { s with latest := some (id, d) } h f _
    · exact setSubmission_comm s h f _
    · exact hcancelled
    · rfl

theorem submissionTurn_setSubmission (s : State) {n k : Nat} (h : k ≠ n)
    (f : Submission → Submission) :
    (s.setSubmission n f).submissionTurn k = (s.submissionTurn k).setSubmission n f := by
  rw [submissionTurn, submissionTurn, submission?_setSubmission_of_ne s h]
  split
  · rfl
  · split
    · split
      · exact setSubmission_comm s h f _
      · exact begin_setSubmission s h _ f
    · exact resume_setSubmission s h _ _ f
    · rfl

theorem cancel_setSubmission (s : State) {n k : Nat} (h : k ≠ n) (f : Submission → Submission) :
    (s.setSubmission n f).cancel k = (s.cancel k).map fun s' => s'.setSubmission n f := by
  rw [cancel, cancel, submission?_setSubmission_of_ne s h]
  split
  · rfl
  · split
    · exact congrArg some (setSubmission_comm s h f _)
    · have hdone : ∀ id, (s.setSubmission n f).workDone id = s.workDone id := fun _ => rfl
      rw [hdone, Option.map_some]
      split
      · exact congrArg some (setSubmission_comm s h f _)
      · exact congrArg some (cancelWork_setSubmission s n _ f)
    · rfl

end State

/-- **Moves that do not concern a submission commute with whatever is done to it.** -/
theorem take_setSubmission {s : State} {n : Nat} {b : Submission} (h : s.submission? n = some b)
    {m : Move} (hm : m.concerns n = false) (f : Submission → Submission) :
    take (s.setSubmission n f) m = (take s m).setSubmission n f := by
  cases m with
  -- a new one comes behind it
  | submit snippet =>
    have hlength : (s.setSubmission n f).submissions.length = s.submissions.length := by
      rw [setSubmission]
      cases n with
      | zero => rfl
      | succ n => exact List.length_modify ..
    have hconcat := updateNumbered_concat h f ⟨snippet, .fresh, false⟩
    simp only [take, submit, enqueue, hlength]
    simp only [setSubmission, hconcat]
  | cancel k =>
    have hk : k ≠ n := by simpa [Move.concerns] using hm
    rw [take, take, cancel_setSubmission s hk]
    cases s.cancel k <;> rfl
  | turn k =>
    have hk : k ≠ n := by simpa [Move.concerns] using hm
    exact submissionTurn_setSubmission s hk f
  | work id next requested =>
    rw [take, take]
    have hdone : (s.setSubmission n f).workDone id = s.workDone id := rfl
    rw [hdone]
    split <;> rfl
  | world calls ready delays logs => rfl

/-- Who is over has no moves left. -/
theorem take_of_concerns {s : State} {n : Nat} {x : SubmissionState} (h : s.stateOf n = some x)
    (hdone : x.isDone = true) {m : Move} (hm : m.concerns n = true) : take s m = s := by
  obtain ⟨b, hb, rfl⟩ := Option.map_eq_some_iff.mp h
  rcases Move.eq_of_concerns hm with rfl | rfl
  · rw [take, cancel, hb]
    cases hstate : b.state with
    | fresh | waiting => rw [hstate] at hdone; cases hdone
    | outcome | superseded | cancelled | failed => simp only [hstate, Option.getD_none]
  · rw [take, submissionTurn, hb]
    cases hstate : b.state with
    | fresh | waiting => rw [hstate] at hdone; cases hdone
    | outcome | superseded | cancelled | failed => simp only [hstate]

/-- A submission that is there stays there. -/
theorem exists_stateOf_take {s : State} {n : Nat} {x : SubmissionState} (h : s.stateOf n = some x)
    (m : Move) : ∃ y, (take s m).stateOf n = some y := by
  have hshifts : ∀ {k y z}, Shifts k y z s (take s m) → ∃ y, (take s m).stateOf n = some y := by
    intro k y z hs
    by_cases hn : n = k
    · exact ⟨z, by rw [hn, hs.after]⟩
    · exact ⟨x, (hs.others n hn).trans h⟩
  cases take_change s m with
  | keeps hk => exact ⟨x, hk.states h⟩
  | begins hs _ _ => exact hshifts hs
  | ends hs _ _ _ => exact hshifts hs
  | writes hs _ _ => exact hshifts hs

/-- The moves of others do not touch the record of a submission. -/
theorem submission?_take {s : State} {n : Nat} {b : Submission} (h : s.submission? n = some b)
    {m : Move} (hm : m.concerns n = false) : (take s m).submission? n = some b := by
  -- what is written over the record before the move is found there after it
  have hcomm := take_setSubmission h hm fun _ => b
  rw [setSubmission_self h] at hcomm
  have hstate : s.stateOf n = some b.state := by rw [stateOf, h, Option.map_some]
  obtain ⟨y, hy⟩ := exists_stateOf_take hstate m
  obtain ⟨c, hc, _⟩ := Option.map_eq_some_iff.mp hy
  rw [hcomm, submission?_setSubmission, if_pos rfl, hc, Option.map_some]

/-- Once a submission is over, everything goes as though it still waited: only its own record is
    another one. -/
theorem takeAll_endSubmission {s : State} {n : Nat} {b : Submission}
    (h : s.submission? n = some b) {ending : SubmissionState} (hdone : ending.isDone = true)
    (ms : List Move) :
    takeAll (s.endSubmission n ending) ms =
      (takeAll s (ms.filter fun m => !m.concerns n)).endSubmission n ending := by
  induction ms generalizing s b with
  | nil => rfl
  | cons m ms ih =>
    have hstate : s.stateOf n = some b.state := by rw [stateOf, h, Option.map_some]
    have hended := (shifts_endSubmission hstate ending).after
    cases hm : m.concerns n with
    -- what concerns it comes too late, and is left out
    | true =>
      have hstep : takeAll (s.endSubmission n ending) (m :: ms) =
          takeAll (s.endSubmission n ending) ms :=
        congrArg (takeAll · ms) (take_of_concerns hended hdone hm)
      rw [hstep, ih h, List.filter_cons_of_neg (by simp [hm])]
    | false =>
      have hstep : takeAll (s.endSubmission n ending) (m :: ms) =
          takeAll ((take s m).endSubmission n ending) ms :=
        congrArg (takeAll · ms) (take_setSubmission h hm _)
      rw [hstep, ih (submission?_take h hm), List.filter_cons_of_pos (by simp [hm])]
      rfl

end ScriptDiagnosis.Session
