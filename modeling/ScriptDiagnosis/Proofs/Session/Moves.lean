/-
  ScriptDiagnosis/Proofs/Session/Moves.lean
  =========================================
  Sessions without a schedule.  In a move a caller submits or cancels, some submission takes a
  turn, or a piece of work that is not done gets any state at all: it goes on, finishes, fails,
  is cancelled, or finishes although it was to be cancelled.  The moves may come in any order.
  What one of them does to the submissions, the numbers and the latest diagnosis is one of
  four changes (`take_change`), and whatever a turn of the queue does is a row of moves
  (`leads_turn`).
-/
import ScriptDiagnosis.Proofs.Session.WorkTurns

namespace ScriptDiagnosis.Session
open Review

/-! ### Moves -/

/-- Something that may happen next. -/
inductive Move
  | submit (snippet : Text)
  | cancel (submission : Nat)
  /-- A submission takes a turn. -/
  | turn (submission : Nat)
  /-- A piece of work gets on, and a request to cancel it is noted or forgotten. -/
  | work (id : Nat) (next : WorkState) (requested : Bool)
  /-- What no submission looks at changes. -/
  | world (calls : List Call) (ready : List Turn) (delays : List Seconds)
      (logs : List Log.Record)

/-- The state after a move.  What cannot be done, or is done already, changes nothing. -/
def take (s : State) : Move → State
  | .submit snippet => s.submit snippet
  | .cancel n => (s.cancel n).getD s
  | .turn n => s.submissionTurn n
  | .work id next requested =>
    if s.workDone id then s
    else s.setWork id fun w => { w with state := next, cancelRequested := requested }
  | .world calls ready delays logs => { s with calls, ready, delays, logs }

def takeAll (s : State) (ms : List Move) : State := ms.foldl take s

def run (ms : List Move) : State := takeAll {} ms

@[simp]
theorem takeAll_append (s : State) (before after : List Move) :
    takeAll s (before ++ after) = takeAll (takeAll s before) after :=
  List.foldl_append

theorem run_concat (ms : List Move) (m : Move) : run (ms ++ [m]) = take (run ms) m :=
  takeAll_append {} ms [m]

/-! ### The states of submissions -/

section Numbered

variable {α : Type} (xs : List α) (f : α → α) (n k : Nat)

/-- Changing one element changes it and no other. -/
theorem numbered?_updateNumbered :
    numbered? (updateNumbered xs f n) k =
      if k = n then (numbered? xs k).map f else numbered? xs k := by
  cases n with
  | zero => cases k <;> simp [updateNumbered, numbered?]
  | succ n =>
    cases k with
    | zero => simp [numbered?]
    | succ k =>
      by_cases h : n = k
      · simp [updateNumbered, numbered?, h]
      · simp [updateNumbered, numbered?, h, Ne.symm h]

theorem numbered?_concat (x : α) :
    numbered? (xs ++ [x]) k = if k = xs.length + 1 then some x else numbered? xs k := by
  cases k with
  | zero => simp [numbered?]
  | succ k =>
    rcases Nat.lt_trichotomy k xs.length with hlt | heq | hgt
    · simp [numbered?, List.getElem?_append_left hlt, Nat.ne_of_lt hlt]
    · simp [numbered?, heq]
    · have hnone : xs[k]? = none := List.getElem?_eq_none (Nat.le_of_lt hgt)
      have hconcat : (xs ++ [x])[k]? = none := List.getElem?_eq_none (by simp; omega)
      simp [numbered?, hnone, hconcat, Nat.ne_of_gt hgt]

end Numbered

namespace State

def stateOf (s : State) (n : Nat) : Option SubmissionState :=
  (s.submission? n).map Submission.state

theorem stateOf_setSubmission (s : State) (n k : Nat) (f : Submission → Submission) :
    (s.setSubmission n f).stateOf k =
      if k = n then (s.submission? k).map (fun b => (f b).state) else s.stateOf k := by
  rw [stateOf, submission?, setSubmission, numbered?_updateNumbered]
  split
  · rw [Option.map_map]
    rfl
  · rfl

theorem stateOf_submit (s : State) (snippet : Text) (k : Nat) :
    (s.submit snippet).stateOf k =
      if k = s.submissions.length + 1 then some .fresh else s.stateOf k := by
  have hsubmissions : (s.submit snippet).submissions =
      s.submissions ++ [⟨snippet, .fresh, false⟩] := rfl
  rw [stateOf, submission?, hsubmissions, numbered?_concat]
  split <;> rfl

theorem stateOf_length_add_one (s : State) : s.stateOf (s.submissions.length + 1) = none := by
  simp [stateOf, submission?, numbered?]

theorem exists_lt_of_stateOf {s : State} {n : Nat} {x : SubmissionState}
    (h : s.stateOf n = some x) : ∃ k < s.submissions.length, n = k + 1 := by
  obtain ⟨b, hb, _⟩ := Option.map_eq_some_iff.mp h
  cases n with
  | zero => cases hb
  | succ k => exact ⟨k, (List.getElem?_eq_some_iff.mp hb).1, rfl⟩

theorem stateOf_of_lt {s : State} {k : Nat} (h : k < s.submissions.length) :
    s.stateOf (k + 1) = some s.submissions[k].state := by
  rw [stateOf, submission?, numbered?, List.getElem?_eq_getElem, Option.map_some]

/-! ### What a move changes -/

/-- Nothing that a submission looks at is touched. -/
structure Stays (s s' : State) : Prop where
  states : ∀ n, s'.stateOf n = s.stateOf n
  sequence : s'.sequence = s.sequence
  latest : s'.latest = s.latest

/-- No submission gets on, though there may be new ones. -/
structure Keeps (s s' : State) : Prop where
  states : ∀ {n x}, s.stateOf n = some x → s'.stateOf n = some x
  news : ∀ {n x}, s'.stateOf n = some x → s.stateOf n = some x ∨ x = .fresh
  sequence : s'.sequence = s.sequence
  latest : s'.latest = s.latest

/-- One submission gets from a state to another, and no other gets on. -/
structure Shifts (n : Nat) (x y : SubmissionState) (s s' : State) : Prop where
  before : s.stateOf n = some x
  after : s'.stateOf n = some y
  others : ∀ k, k ≠ n → s'.stateOf k = s.stateOf k

/-- How a submission ends without a diagnosis. -/
inductive EndsFrom (s : State) : SubmissionState → SubmissionState → Prop
  | unbegun : EndsFrom s .fresh .cancelled
  | superseded {id : Nat} (h : id ≠ s.sequence) : EndsFrom s (.waiting id) .superseded
  | cancelled {id : Nat} (h : id = s.sequence) : EndsFrom s (.waiting id) .cancelled
  | failed {id : Nat} (f : Failure) : EndsFrom s (.waiting id) (.failed f)

inductive Change (s s' : State) : Move → Prop
  | keeps {m : Move} (h : Keeps s s') : Change s s' m
  | begins {n : Nat} (h : Shifts n .fresh (.waiting (s.sequence + 1)) s s')
      (sequence : s'.sequence = s.sequence + 1) (latest : s'.latest = s.latest) :
      Change s s' (.turn n)
  | ends {n : Nat} {x y : SubmissionState} (h : Shifts n x y s s') (hend : EndsFrom s x y)
      (sequence : s'.sequence = s.sequence) (latest : s'.latest = s.latest) :
      Change s s' (.turn n)
  | writes {n : Nat} {d : Diagnosis}
      (h : Shifts n (.waiting s.sequence) (.outcome s.sequence) s s')
      (sequence : s'.sequence = s.sequence) (latest : s'.latest = some (s.sequence, d)) :
      Change s s' (.turn n)

theorem Stays.refl (s : State) : Stays s s := ⟨fun _ => rfl, rfl, rfl⟩

theorem Stays.keeps {s s' : State} (h : Stays s s') : Keeps s s' where
  states := fun hn => (h.states _).trans hn
  news := fun hn => .inl ((h.states _).symm.trans hn)
  sequence := h.sequence
  latest := h.latest

theorem keeps_submit (s : State) (snippet : Text) : Keeps s (s.submit snippet) where
  states := by
    intro n x h
    rw [stateOf_submit, if_neg, h]
    rintro rfl
    rw [stateOf_length_add_one] at h
    cases h
  news := by
    intro n x h
    rw [stateOf_submit] at h
    split at h
    · cases h
      exact .inr rfl
    · exact .inl h
  sequence := rfl
  latest := rfl

theorem stays_cancelWork (s : State) (id : Nat) : Stays s (s.cancelWork id) := by
  unfold cancelWork
  split
  · exact .refl s
  · split
    · exact ⟨fun _ => rfl, rfl, rfl⟩
    · split <;> exact ⟨fun _ => rfl, rfl, rfl⟩
    · exact .refl s

theorem stays_cancelInFlight (s : State) : Stays s s.cancelInFlight := by
  unfold cancelInFlight
  split
  · exact stays_cancelWork s _
  · exact .refl s

/-- A request to cancel a submission only leaves a note; what comes of it is seen in its turn. -/
theorem stays_cancel {s s' : State} {n : Nat} (h : s.cancel n = some s') : Stays s s' := by
  have hnote : Stays s (s.setSubmission n fun b => { b with cancelRequested := true }) := by
    refine ⟨?_, rfl, rfl⟩
    intro k
    rw [stateOf_setSubmission]
    split <;> rfl
  unfold cancel at h
  split at h
  · cases h
  · split at h
    · cases h
      exact hnote
    · cases h
      split
      · exact hnote
      · exact stays_cancelWork s _
    · cases h

theorem stays_release {s s' : State} {n : Nat} {result : CallResult} {first : Option Text}
    (h : s.release n result first = some s') : Stays s s' := by
  unfold release at h
  split at h
  · cases h
    exact ⟨fun _ => rfl, rfl, rfl⟩
  · cases h

/-! ### Turns of a submission -/

theorem shifts_setSubmission {s : State} {n : Nat} {x y : SubmissionState}
    {f : Submission → Submission} (h : s.stateOf n = some x) (hf : ∀ b, (f b).state = y) :
    Shifts n x y s (s.setSubmission n f) where
  before := h
  after := by
    obtain ⟨b, hb, _⟩ := Option.map_eq_some_iff.mp h
    rw [stateOf_setSubmission, if_pos rfl, hb, Option.map_some, hf]
  others := by
    intro k hk
    rw [stateOf_setSubmission, if_neg hk]

theorem shifts_endSubmission {s : State} {n : Nat} {x : SubmissionState}
    (h : s.stateOf n = some x) (y : SubmissionState) : Shifts n x y s (s.endSubmission n y) :=
  shifts_setSubmission h fun _ => rfl

theorem Shifts.of_eq {s s' s'' : State} {n : Nat} {x y : SubmissionState}
    (h : Shifts n x y s' s'') (heq : ∀ k, s'.stateOf k = s.stateOf k) : Shifts n x y s s'' where
  before := (heq n).symm.trans h.before
  after := h.after
  others := fun k hk => (h.others k hk).trans (heq k)

/-- A submission that begins waits under the next number. -/
theorem shifts_begin {s : State} {n : Nat} (h : s.stateOf n = some .fresh) (snippet : Text) :
    Shifts n .fresh (.waiting (s.sequence + 1)) s (s.begin n snippet) := by
  have hstays := stays_cancelInFlight s
  have hfresh : s.cancelInFlight.stateOf n = some .fresh := (hstays.states n).trans h
  have hset : Shifts n .fresh (.waiting (s.cancelInFlight.sequence + 1)) s.cancelInFlight
      (s.cancelInFlight.setSubmission n fun b =>
        { b with state := .waiting (s.cancelInFlight.sequence + 1) }) :=
    shifts_setSubmission hfresh fun _ => rfl
  have hbegin : Shifts n .fresh (.waiting (s.cancelInFlight.sequence + 1)) s (s.begin n snippet) :=
    Shifts.of_eq ⟨hset.before, hset.after, hset.others⟩ hstays.states
  rwa [hstays.sequence] at hbegin

theorem sequence_begin (s : State) (n : Nat) (snippet : Text) :
    (s.begin n snippet).sequence = s.sequence + 1 :=
  congrArg (· + 1) (stays_cancelInFlight s).sequence

/-- The turn of a submission that has not begun and is not cancelled. -/
theorem take_turn_of_fresh {s : State} {n : Nat} {snippet : Text}
    (h : s.submission? n = some ⟨snippet, .fresh, false⟩) :
    take s (.turn n) = s.begin n snippet := by
  rw [take, submissionTurn, h]
  rfl

theorem change_begin {s : State} {n : Nat} (h : s.stateOf n = some .fresh) (snippet : Text) :
    Change s (s.begin n snippet) (.turn n) :=
  .begins (shifts_begin h snippet) (sequence_begin s n snippet) (stays_cancelInFlight s).latest

theorem change_superseded {s : State} {n id : Nat} (h : s.stateOf n = some (.waiting id))
    (hid : id ≠ s.sequence) (rs : List Log.Record) :
    Change s ((s.addLogs rs).endSubmission n .superseded) (.turn n) := by
  have hshifts := shifts_endSubmission (s := s.addLogs rs) h .superseded
  exact .ends (hshifts.of_eq fun _ => rfl) (.superseded hid) rfl rfl

theorem change_cancelledWaiting {s : State} {n id : Nat} (h : s.stateOf n = some (.waiting id)) :
    Change s (s.cancelledWaiting n id) (.turn n) := by
  unfold cancelledWaiting
  split
  · next hid => exact change_superseded h hid _
  · next hid =>
    have hid := Decidable.of_not_not hid
    exact .ends (shifts_endSubmission h .cancelled) (.cancelled hid) rfl rfl

theorem change_finishedWaiting {s : State} {n id : Nat} (h : s.stateOf n = some (.waiting id))
    (d : Diagnosis) : Change s (s.finishedWaiting n id d) (.turn n) := by
  unfold finishedWaiting
  split
  · next hid => exact change_superseded h hid _
  · next hid =>
    cases Decidable.of_not_not hid
    have hshifts := shifts_endSubmission (s := { s with latest := some (s.sequence, d) }) h
      (.outcome s.sequence)
    exact .writes (hshifts.of_eq fun _ => rfl) rfl rfl

theorem change_resume {s : State} {n id : Nat} (h : s.stateOf n = some (.waiting id))
    (requested : Bool) : Change s (s.resume n id requested) (.turn n) := by
  unfold resume
  split
  · exact change_cancelledWaiting h
  · split
    · exact change_finishedWaiting h _
    · exact .ends (shifts_endSubmission h _) (.failed _) rfl rfl
    · exact change_cancelledWaiting h
    · exact .keeps (Stays.refl s).keeps

/-- What a turn of a submission changes. -/
theorem change_submissionTurn (s : State) (n : Nat) :
    Change s (s.submissionTurn n) (.turn n) := by
  unfold submissionTurn
  split
  · exact .keeps (Stays.refl s).keeps
  · next b hb =>
    have hstate : s.stateOf n = some b.state := by rw [stateOf, hb, Option.map_some]
    split
    · next hfresh =>
      rw [hfresh] at hstate
      split
      · exact .ends (shifts_endSubmission hstate .cancelled) .unbegun rfl rfl
      · exact change_begin hstate _
    · next id hwaiting =>
      rw [hwaiting] at hstate
      exact change_resume hstate _
    · exact .keeps (Stays.refl s).keeps

end State

open State in
/-- **What a move changes.** There are four ways, each with all that it does to submissions,
    numbers and the latest diagnosis. -/
theorem take_change (s : State) (m : Move) : Change s (take s m) m := by
  cases m with
  | submit snippet => exact .keeps (keeps_submit s snippet)
  | cancel n =>
    rw [take]
    cases h : s.cancel n with
    | none => exact .keeps (Stays.refl s).keeps
    | some s' => exact .keeps (stays_cancel h).keeps
  | turn n => exact change_submissionTurn s n
  | work id next requested =>
    rw [take]
    split
    · exact .keeps (Stays.refl s).keeps
    · exact .keeps (Stays.keeps ⟨fun _ => rfl, rfl, rfl⟩)
  | world calls ready delays logs => exact .keeps (Stays.keeps ⟨fun _ => rfl, rfl, rfl⟩)

/-! ### Turns are moves -/

/-- A row of moves in which nobody cancels leads from a state to another. -/
def Leads (s s' : State) : Prop := ∃ ms, (∀ n, .cancel n ∉ ms) ∧ takeAll s ms = s'

namespace Leads

theorem refl (s : State) : Leads s s := ⟨[], nofun, rfl⟩

theorem trans {s s' s'' : State} (h : Leads s s') (h' : Leads s' s'') : Leads s s'' := by
  obtain ⟨before, hbefore, rfl⟩ := h
  obtain ⟨after, hafter, rfl⟩ := h'
  refine ⟨before ++ after, ?_, takeAll_append s before after⟩
  intro n hn
  rcases List.mem_append.mp hn with hn | hn
  · exact hbefore n hn
  · exact hafter n hn

theorem move (s : State) {m : Move} (h : ∀ n, .cancel n ≠ m) : Leads s (take s m) := by
  refine ⟨[m], ?_, rfl⟩
  intro n hn
  exact h n (List.mem_singleton.mp hn)

theorem world (s : State) (calls : List Call) (ready : List Turn) (delays : List Seconds)
    (logs : List Log.Record) : Leads s { s with calls, ready, delays, logs } :=
  .move s (m := .world calls ready delays logs) nofun

end Leads

namespace State

/-- Two changes are one where they agree on the element that is there. -/
theorem updateNumbered_congr {α : Type} {xs : List α} {f g : α → α} {n : Nat}
    (h : ∀ x, numbered? xs n = some x → f x = g x) :
    updateNumbered xs f n = updateNumbered xs g n := by
  cases n with
  | zero => rfl
  | succ n =>
    apply List.ext_getElem?
    intro k
    rw [updateNumbered, updateNumbered, List.getElem?_modify, List.getElem?_modify]
    cases hx : xs[k]? with
    | none => rfl
    | some x =>
      by_cases hk : n = k
      · have hsame : f x = g x := h x (by rw [numbered?, hk, hx])
        simp [hsame]
      · simp [hk]

/-- Setting work that is running is a move, if it is only its state and its mark that are set. -/
theorem leads_setWork {s : State} {id : Nat} {w : Work} (h : s.Running id w) {f : Work → Work}
    {next : WorkState} {requested : Bool}
    (hf : f w = { w with state := next, cancelRequested := requested }) :
    Leads s (s.setWork id f) := by
  obtain ⟨hwork, hopen⟩ := h
  have hsame : s.setWork id f =
      s.setWork id fun w => { w with state := next, cancelRequested := requested } := by
    rw [setWork, setWork, updateNumbered_congr]
    intro x hx
    cases hwork.symm.trans hx
    exact hf
  have htake : take s (.work id next requested) = s.setWork id f := by
    rw [take, hsame, workDone, hwork]
    simp [hopen]
  rw [← htake]
  exact .move s nofun

theorem leads_endWork {s : State} {id : Nat} {w : Work} (h : s.Running id w)
    (ending : WorkState) : Leads s (s.endWork id w ending) := by
  have hset : Leads s
      (s.setWork id fun w => { w with state := ending, cancelRequested := false }) :=
    leads_setWork h rfl
  exact hset.trans (.world _ s.calls _ s.delays s.logs)

theorem leads_call {s : State} {id : Nat} {w : Work} (h : s.Running id w)
    (checked : SyntaxCheck.SyntaxResult) (attempt : Nat) (prompt : Text) :
    Leads s (s.call id checked attempt prompt) := by
  let asked : State := { s with calls := s.calls ++ [⟨id, prompt, .waiting⟩] }
  have hasked : Leads s asked := .world s _ s.ready s.delays s.logs
  have hrunning : asked.Running id w := h
  exact hasked.trans (leads_setWork hrunning rfl)

theorem leads_before {s s' : State} {w : Work} (h : Before s w s') : Leads s s' := by
  cases h with
  | plain delays logs => exact .world s s.calls s.ready delays logs
  | @submits _ _ _ snippet _ _ delays logs =>
    have hsubmit : Leads s (s.submit snippet) := .move s (m := .submit snippet) nofun
    exact hsubmit.trans (.world _ s.calls (s.submit snippet).ready delays logs)

theorem Before.running {s s' : State} {w : Work} (h : Before s w s') {id : Nat}
    (hw : s.Running id w) : s'.Running id w := by
  cases h <;> exact hw

theorem WorkTurn.leads {s s' : State} {id : Nat} (h : WorkTurn s id s') : Leads s s' := by
  cases h with
  | idle => exact .refl s
  | ends h hbefore _ => exact (leads_before hbefore).trans (leads_endWork (hbefore.running h) _)
  | calls h hbefore _ =>
    exact (leads_before hbefore).trans (leads_call (hbefore.running h) _ _ _)

/-- Every turn of a session is a row of moves, none of them a request to cancel. -/
theorem leads_turn (g : Setting) (s : State) (t : Turn) : Leads s (s.turn g t) := by
  cases t with
  | submission n => exact .move s (m := .turn n) nofun
  | work id => exact (workTurn_turn g s id).leads

theorem leads_release {s s' : State} {n : Nat} {result : CallResult} {first : Option Text}
    (h : s.release n result first = some s') : Leads s s' := by
  unfold release at h
  split at h
  · cases h
    exact .world s _ _ s.delays s.logs
  · cases h

end State

end ScriptDiagnosis.Session
