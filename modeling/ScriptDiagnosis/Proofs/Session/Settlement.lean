/-
  ScriptDiagnosis/Proofs/Session/Settlement.lean
  ==============================================
  **No result is lost, and a failure leaves nothing behind.**  When the work of the newest
  submission finishes, its diagnosis becomes the latest as soon as the submission has its turn,
  unless it is cancelled or another begins before; and in a course it has its turn.  When its
  waiting ends in cancellation or failure instead, the submission ends that way and nothing else
  changes, so that whatever follows goes as though it still waited.  A cancellation is swallowed
  only for a submission that has been overtaken.  Nor is a submission forgotten before it begins.
  All of it is in `nothing_lost`; one session in which a diagnosis is written, a submission fails
  and another is overtaken follows it (`eventful_endings`).
-/
import ScriptDiagnosis.Proofs.Session.Rest

namespace ScriptDiagnosis.Session
open State

/-! ### What is written, and what not -/

/-- A number that is taken has work to do. -/
theorem workDone_of_taking {s : State} (hm : Manned s) {n id : Nat}
    (h : taking s (.turn n) = some (n, id)) :
    (take s (.turn n)).stateOf n = some (.waiting id) ∧
      (take s (.turn n)).workDone id = false := by
  cases take_workChange s (.turn n) with
  | stands _ hsequence =>
    rw [taking_of_sequence_eq hsequence] at h
    cases h
  | starts hs _ hshifts =>
    rw [taking_of_begins hshifts] at h
    cases h
    exact ⟨hshifts.after, workDone_of_state (by rw [hs.states, if_pos (by rw [hm.count])])⟩

/-- Whose diagnosis is there, and who is last, writes it when its turn comes. -/
theorem written_of_kept {s : State} {n id : Nat} {d : Diagnosis} (h : Kept s n id)
    (hcurrent : s.sequence = id) (hwork : s.workStateOf id = some (.finished d)) :
    (take s (.turn n)).latest = some (id, d) ∧
      (take s (.turn n)).stateOf n = some (.outcome id) := by
  cases h with
  | waits hstate hcalm =>
    rw [take_turn_of_endsIn hstate (.finished hcalm hwork), stateOf_afterWaiting hstate]
    refine ⟨?_, congrArg some (if_pos hcurrent.symm)⟩
    rw [afterWaiting, finishedWaiting, if_neg (not_not.mpr hcurrent.symm)]
    rfl
  | wrote hstate hfinished hlatest =>
    cases hfinished.symm.trans hwork
    have hidle : take s (.turn n) = s :=
      take_of_concerns hstate rfl (m := .turn n) (beq_self_eq_true n)
    rw [hidle]
    exact ⟨hlatest, hstate⟩
  | fails hstate _ hnone => exact absurd (Option.some.inj (hstate.symm.trans hwork)) (hnone d)

theorem run_append (before after : List Move) :
    run (before ++ after) = takeAll (run before) after :=
  takeAll_append {} before after

theorem kept_of_open {before after : List Move} {n id : Nat}
    (hwaiting : (run before).stateOf n = some (.waiting id))
    (hopen : (run before).workDone id = false) (hcancel : .cancel n ∉ after)
    (hcurrent : (run (before ++ after)).sequence = id) : Kept (run (before ++ after)) n id := by
  have hle : (run before).sequence ≤ (run (before ++ after)).sequence := by
    rw [run_append]
    exact sequence_le_takeAll _ after
  have hge := (tracked before).le_sequence ((tracked before).waiting hwaiting)
  have hkept : Kept (run before) n id := .waits hwaiting (requestOf_of_open before hwaiting hopen)
  exact kept_run hkept (by omega) after hcancel hcurrent

/-- The waiting of the newest submission ends without a diagnosis. -/
inductive Raises (s : State) (n : Nat) : SubmissionState → Prop
  | cancelled (h : EndsIn s n s.sequence .cancelled) : Raises s n .cancelled
  | failed {f : Failure} (h : EndsIn s n s.sequence (.failure f)) : Raises s n (.failed f)

namespace Raises

variable {s : State} {n : Nat} {ending : SubmissionState}

/-- Who is cancelled, or whose work failed, ends that way when its turn comes. -/
theorem take_turn (hraises : Raises s n ending) (h : s.stateOf n = some (.waiting s.sequence)) :
    take s (.turn n) = s.endSubmission n ending := by
  cases hraises with
  | cancelled hend =>
    rw [take_turn_of_endsIn h hend, afterWaiting, cancelledWaiting, if_neg (not_not.mpr rfl)]
  | failed hend => rw [take_turn_of_endsIn h hend, afterWaiting]

theorem isDone (h : Raises s n ending) : ending.isDone = true := by
  cases h <;> rfl

theorem ne_outcome (h : Raises s n ending) (id : Nat) : ending ≠ .outcome id := by
  cases h <;> exact SubmissionState.noConfusion

end Raises

/-! ### What follows -/

/-- The numbers that are taken later go on where the last one was. -/
theorem numbers_after (before after : List Move) :
    (observe taking (run before) after).map Prod.snd = List.range' ((run before).sequence + 1)
      ((run (before ++ after)).sequence - (run before).sequence) := by
  have hle : (run before).sequence ≤ (run (before ++ after)).sequence := by
    rw [run_append]
    exact sequence_le_takeAll _ after
  have hall := (tracked (before ++ after)).numbers
  have htaken : taken (before ++ after) = taken before ++ observe taking (run before) after :=
    observe_append taking {} before after
  rw [htaken, List.map_append, (tracked before).numbers] at hall
  have hsplit : List.range' 1 (run before).sequence ++ List.range' (1 + (run before).sequence)
      ((run (before ++ after)).sequence - (run before).sequence) =
        List.range' 1 ((run before).sequence +
          ((run (before ++ after)).sequence - (run before).sequence)) := List.range'_append_1
  rw [Nat.add_sub_cancel' hle, ← hall, Nat.add_comm 1] at hsplit
  exact (List.append_cancel_left hsplit).symm

/-- The latest diagnosis stays until another is written. -/
theorem latest_after (s : State) (ms : List Move) : (takeAll s ms).latest = s.latest ∨
    ∃ w ∈ observe writing s ms, ∃ d, (takeAll s ms).latest = some (w.2, d) := by
  induction ms using List.reverseRecOn with
  | nil => exact .inl rfl
  | append_singleton ms m ih =>
    rw [takeAll_append, observe_append]
    by_cases hsame : (take (takeAll s ms) m).latest = (takeAll s ms).latest
    · rcases ih with hold | ⟨w, hw, d, hlatest⟩
      · exact .inl (hsame.trans hold)
      · exact .inr ⟨w, List.mem_append_left _ hw, d, hsame.trans hlatest⟩
    · obtain ⟨n, d, rfl, _, hlatest⟩ := writes_of_latest_ne hsame
      have hwriting : writing (takeAll s ms) (.turn n) = some (n, (takeAll s ms).sequence) := by
        rw [writing, if_neg hsame, hlatest, Option.map_some]
      refine .inr ⟨(n, (takeAll s ms).sequence), List.mem_append_right _ ?_, d, hlatest⟩
      rw [observe, hwriting]
      exact List.mem_cons_self

/-- What follows when the waiting of submission `n` has ended without a diagnosis. -/
structure Unharmed (before : List Move) (n : Nat) (ending : SubmissionState)
    (after : List Move) : Prop where
  /-- The next to begin gets the next number, and so on. -/
  numbers : (observe taking (run (before ++ [.turn n])) after).map Prod.snd =
    List.range' ((run before).sequence + 1)
      ((run (before ++ .turn n :: after)).sequence - (run before).sequence)
  /-- The latest diagnosis is the one from before, or a newer submission's. -/
  latest : (run (before ++ .turn n :: after)).latest = (run before).latest ∨
    ∃ id d, (run before).sequence < id ∧
      (run (before ++ .turn n :: after)).latest = some (id, d)
  /-- Everything but its own record is as though it still waited. -/
  apart : run (before ++ .turn n :: after) =
    (takeAll (run before) (after.filter fun m => !m.concerns n)).endSubmission n ending

/-- A submission that is cancelled or fails leaves nothing behind that others would see. -/
theorem unharmed {before : List Move} {n : Nat} {ending : SubmissionState}
    (h : (run before).stateOf n = some (.waiting (run before).sequence))
    (hraises : Raises (run before) n ending) (after : List Move) :
    Unharmed before n ending after := by
  have hturn : run (before ++ [.turn n]) = (run before).endSubmission n ending := by
    rw [run_concat, hraises.take_turn h]
  have happend : before ++ .turn n :: after = (before ++ [.turn n]) ++ after :=
    (List.append_assoc before [.turn n] after).symm
  have hsequence : (run (before ++ [.turn n])).sequence = (run before).sequence := by
    rw [hturn]
    rfl
  constructor
  case numbers => rw [numbers_after, happend, hsequence]
  case latest =>
    rw [happend, run_append]
    rcases latest_after (run (before ++ [.turn n])) after with hold | ⟨w, hw, d, hlatest⟩
    · left
      rw [hold, hturn]
      rfl
    · refine .inr ⟨w.2, d, ?_, hlatest⟩
      have hle := sequence_le_of_written _ after w hw
      rw [hsequence] at hle
      refine Nat.lt_of_le_of_ne hle fun heq => ?_
      -- it is the submission that took the number which would have written under it
      have ht := tracked (before ++ [.turn n] ++ after)
      have hwritten : w ∈ written (before ++ [.turn n] ++ after) := by
        rw [written, observe_append]
        exact List.mem_append_right _ hw
      have htaken : (n, w.2) ∈ taken (before ++ [.turn n] ++ after) := by
        rw [taken, List.append_assoc, observe_append]
        exact List.mem_append_left _ (heq ▸ (tracked before).waiting h)
      have hwn : w.1 = n := ht.unique (ht.own hwritten) htaken
      have houtcome := ht.outcome.mpr hwritten
      have hover : (run (before ++ [.turn n])).stateOf n = some ending := by
        rw [hturn]
        exact (shifts_endSubmission h ending).after
      rw [hwn, run_append, takeAll_of_isDone hover hraises.isDone after] at houtcome
      exact hraises.ne_outcome _ (Option.some.inj houtcome)
  case apart =>
    obtain ⟨b, hb, _⟩ := Option.map_eq_some_iff.mp h
    rw [happend, run_append, hturn, takeAll_endSubmission hb hraises.isDone]

/-! ### What a caller relies on -/

/-- In every order of moves. -/
structure Settled (ms : List Move) : Prop where
  /-- Whoever has not begun, and was not cancelled, begins with its turn. -/
  begins : ∀ n snippet, (run ms).submission? n = some ⟨snippet, .fresh, false⟩ →
    Begins n snippet (run ms) (take (run ms) (.turn n))
  /-- Whoever begins waits for a piece of work that is not done. -/
  begun : ∀ n id, taking (run ms) (.turn n) = some (n, id) →
    (take (run ms) (.turn n)).stateOf n = some (.waiting id) ∧
      (take (run ms) (.turn n)).workDone id = false
  /-- The newest, if it has not been cancelled since its work was under way, writes what the work
      came to. -/
  written : ∀ before after n id d, ms = before ++ after →
    (run before).stateOf n = some (.waiting id) → (run before).workDone id = false →
    .cancel n ∉ after → (run ms).sequence = id → (run ms).workStateOf id = some (.finished d) →
      (take (run ms) (.turn n)).latest = some (id, d) ∧
        (take (run ms) (.turn n)).stateOf n = some (.outcome id)
  /-- The newest passes on an end without a diagnosis, and nothing else changes. -/
  raised : ∀ n ending, (run ms).stateOf n = some (.waiting (run ms).sequence) →
    Raises (run ms) n ending → take (run ms) (.turn n) = (run ms).endSubmission n ending
  later : ∀ before n ending after, ms = before ++ .turn n :: after →
    (run before).stateOf n = some (.waiting (run before).sequence) →
    Raises (run before) n ending → Unharmed before n ending after
  /-- A cancellation is swallowed for those, and only those, that a newer one has overtaken. -/
  swallowed : ∀ n id, (run ms).stateOf n = some (.waiting id) →
    EndsIn (run ms) n id .cancelled →
      ((take (run ms) (.turn n)).stateOf n = some .superseded ↔ ∃ w ∈ taken ms, id < w.2) ∧
      ((take (run ms) (.turn n)).stateOf n = some .cancelled ↔ id = (run ms).sequence)
  /-- Nobody else comes back with nothing. -/
  overtaken : ∀ n, (take (run ms) (.turn n)).stateOf n = some .superseded →
    (run ms).stateOf n = some .superseded ∨
      ∃ id, (run ms).stateOf n = some (.waiting id) ∧ ∃ w ∈ taken ms, id < w.2

theorem exists_newer {ms : List Move} {n id : Nat} (h : (run ms).stateOf n = some (.waiting id))
    (hne : id ≠ (run ms).sequence) : ∃ w ∈ taken ms, id < w.2 := by
  have ht := tracked ms
  have hle := ht.le_sequence (ht.waiting h)
  obtain ⟨k, hk⟩ := ht.mem_numbers_iff.mpr ⟨by omega, Nat.le_refl (run ms).sequence⟩
  exact ⟨_, hk, Nat.lt_of_le_of_ne hle hne⟩

/-- **What every run settles.** -/
theorem settled (ms : List Move) : Settled ms where
  begins := fun n snippet => begins_of_fresh (manned_run ms).count
  begun := fun n id => workDone_of_taking (manned_run ms)
  written := by
    rintro before after n id d rfl hwaiting hopen hcancel hcurrent hwork
    exact written_of_kept (kept_of_open hwaiting hopen hcancel hcurrent) hcurrent hwork
  raised := fun n ending h hraises => hraises.take_turn h
  later := fun before n ending after _ h hraises => unharmed h hraises after
  swallowed := by
    intro n id hwaiting hend
    rw [take_turn_of_endsIn hwaiting hend, stateOf_afterWaiting hwaiting]
    -- a cancellation is swallowed for whoever has been overtaken, and for nobody else
    by_cases hcurrent : id = (run ms).sequence
    · have hnone : ¬ ∃ w ∈ taken ms, id < w.2 := by
        rintro ⟨w, hw, hlt⟩
        have hw := (tracked ms).le_sequence hw
        omega
      have hreached : Ending.cancelled.reached id (run ms).sequence = .cancelled :=
        if_pos hcurrent
      rw [hreached]
      exact ⟨iff_of_false (by simp) hnone, iff_of_true rfl hcurrent⟩
    · have hreached : Ending.cancelled.reached id (run ms).sequence = .superseded :=
        if_neg hcurrent
      rw [hreached]
      exact ⟨iff_of_true rfl (exists_newer hwaiting hcurrent), iff_of_false (by simp) hcurrent⟩
  overtaken := by
    intro n h
    cases take_change (run ms) (.turn n) with
    | keeps hk =>
      rcases hk.news h with hold | hfresh
      · exact .inl hold
      · cases hfresh
    | begins hs _ _ =>
      rw [hs.after] at h
      cases h
    | ends hs hend _ _ =>
      rw [hs.after] at h
      cases h
      cases hend with
      | @superseded id hne => exact .inr ⟨id, hs.before, exists_newer hs.before hne⟩
    | writes hs _ _ =>
      rw [hs.after] at h
      cases h

/-- In every course: who has not begun, or waits for work that is done, has a turn to come, and has
    had it after as many turns as the queue is long. -/
structure Delivered (g : Setting) (hs : List Happening) : Prop where
  due : Due (course g hs)
  begun : ∀ later n, (course g hs).stateOf n = some .fresh →
    (course g hs).ready.length ≤ later.countP Happening.isTurn → Begun (course g (hs ++ later)) n
  woken : Woken (course g hs)
  ended : ∀ later n id, (course g hs).stateOf n = some (.waiting id) →
    (course g hs).workDone id = true →
    (course g hs).ready.length ≤ later.countP Happening.isTurn → (course g (hs ++ later)).Over n
  /-- The newest has then written what its work came to. -/
  written : ∀ before after later n id d, hs = before ++ after →
    (course g before).stateOf n = some (.waiting id) → (course g before).workDone id = false →
    .cancel n ∉ after ++ later → (course g hs).workStateOf id = some (.finished d) →
    (course g hs).ready.length ≤ later.countP Happening.isTurn →
    (course g (hs ++ later)).sequence = id →
      (course g (hs ++ later)).latest = some (id, d) ∧
        (course g (hs ++ later)).stateOf n = some (.outcome id)

/-- **What every course delivers.** -/
theorem delivered (g : Setting) (hs : List Happening) : Delivered g hs where
  due := due_course g hs
  begun := fun later n => begun_in_time g hs later
  woken := woken_course g hs
  ended := fun later n id => over_in_time g hs later
  written := by
    rintro before after later n id d rfl hwaiting hopen hcancel hwork hlater hcurrent
    -- in time its waiting is over, its work stays finished, and it has lost nothing on the way
    have hover : (course g (before ++ after ++ later)).Over n := by
      obtain ⟨ms, _, hms⟩ := course_append_moves g before after
      rcases waiting_or_over hwaiting ms with hstill | hover
      · rw [hms] at hstill
        exact over_in_time g _ later hstill (workDone_of_state hwork) hlater
      · rw [course_append]
        exact over_happenAll g (hms ▸ hover) later
    have hfinished : (course g (before ++ after ++ later)).workStateOf id = some (.finished d) := by
      obtain ⟨ms, _, hms⟩ := course_append_moves g (before ++ after) later
      rw [← hms]
      exact workStateOf_takeAll hwork rfl ms
    have hkept : Kept (course g (before ++ after ++ later)) n id := by
      obtain ⟨ms, hms⟩ := course_moves g before
      obtain ⟨ms', hspares, hms'⟩ := course_append_moves g before (after ++ later)
      rw [← hms] at hwaiting hopen hms'
      rw [List.append_assoc, ← hms', ← run_append] at hcurrent ⊢
      exact kept_of_open hwaiting hopen (fun hn => hcancel (hspares n hn)) hcurrent
    cases hkept with
    | waits hstate _ =>
      obtain ⟨x, hx, hdone⟩ := hover
      cases hx.symm.trans hstate
      cases hdone
    | wrote hstate hwrote hlatest =>
      cases hwrote.symm.trans hfinished
      exact ⟨hlatest, hstate⟩
    | fails hnot _ hnone => exact absurd (Option.some.inj (hnot.symm.trans hfinished)) (hnone d)

/-- **No result is lost, and a failure leaves nothing behind,** in every order of moves; in a
    course whoever is due also has its turn, and a session leaves nobody who is due. -/
theorem nothing_lost :
    (∀ ms, Settled ms) ∧ (∀ g hs, Delivered g hs ∧ ∃ ms, run ms = course g hs) ∧
      ∀ g actions, Rested (session g actions) ∧ ∃ hs, course g hs = session g actions :=
  ⟨settled, fun g hs => ⟨delivered g hs, course_moves g hs⟩,
    fun g actions => ⟨rested_session g actions, session_course g actions⟩⟩

/-- What the parser fails with. -/
def crash : Failure := ⟨.assertion, "Template literal must start with a template head", none⟩

/-- Half a second, the first pause unless another is given, is one that settings admit. -/
theorem isBelowZero_half : (Seconds.float .half).isBelowZero = false := rfl

/-- A parser that fails on one snippet and finds nothing wrong with any other; there is a key. -/
def fragile : Setting where
  parse := fun
    | ['y'] => .failed crash
    | _ => .program []
  mode := .script
  config := { apiKey := some "k", backoff_nonneg := isBelowZero_half }

/-- A reply is written, a submission fails, one is overtaken by the next, and that one waits. -/
def eventful : List Action :=
  [.submit "x();", .release 1 (.replied none) none, .submit "y", .submit "x();", .submit "x();"]

/-- Each of them takes the next number, and what was written stays. -/
theorem eventful_endings :
    (session fragile eventful).stateOf 1 = some (.outcome 1) ∧
    (session fragile eventful).stateOf 2 = some (.failed crash) ∧
    (session fragile eventful).stateOf 3 = some .superseded ∧
    (session fragile eventful).stateOf 4 = some (.waiting 4) ∧
    (session fragile eventful).sequence = 4 ∧
    (session fragile eventful).latest.map Prod.fst = some 1 :=
  ⟨rfl, rfl, rfl, rfl, rfl, rfl⟩

end ScriptDiagnosis.Session
