/-
  ScriptDiagnosis/Proofs/Session/Works.lean
  =========================================
  The works of a session, in any order of moves.  A move does one of three things to them
  (`take_workChange`): they stand as they are, a submission begins and starts the next one, or one
  that is not done gets on.  So each number that was taken has a piece of work, started by the
  submission that took it, and the last one is in flight (`Staffed`); and what is done stays as it
  is.  A request to cancel leaves a mark on the work it is for (`Marked`).
-/
import ScriptDiagnosis.Proofs.Session.LatestWins

namespace ScriptDiagnosis.Session
namespace State

/-! ### Works as they are seen -/

def workStateOf (s : State) (id : Nat) : Option WorkState := (s.work? id).map Work.state

/-- The submission that started a piece of work. -/
def ownerOf (s : State) (id : Nat) : Option Nat := (s.work? id).map Work.submission

/-- The work bears a request to cancel it. -/
def Marked (s : State) (id : Nat) : Prop := ∃ w, s.work? id = some w ∧ s.Requested w

/-- A number without work counts as done. -/
theorem workDone_eq (s : State) (id : Nat) :
    s.workDone id = ((s.workStateOf id).map WorkState.isDone).getD true := by
  rw [workDone, workStateOf]
  cases s.work? id <;> rfl

theorem workDone_eq_false_iff {s : State} {id : Nat} :
    s.workDone id = false ↔ ∃ w, s.Running id w := by
  rw [workDone]
  cases h : s.work? id with
  | none => simp [Running, h]
  | some w => simp [Running, h]

theorem workDone_congr {s s' : State} {id : Nat} (h : s'.workStateOf id = s.workStateOf id) :
    s'.workDone id = s.workDone id := by
  rw [workDone_eq, workDone_eq, h]

theorem workDone_of_state {s : State} {id : Nat} {x : WorkState}
    (h : s.workStateOf id = some x) : s.workDone id = x.isDone := by
  rw [workDone_eq, h]
  rfl

theorem work?_length_add_one (s : State) : s.work? (s.works.length + 1) = none := by
  simp [work?, numbered?]

/-- No piece of work is started and none gets on. -/
structure Stands (s s' : State) : Prop where
  states : ∀ id, s'.workStateOf id = s.workStateOf id
  owners : ∀ id, s'.ownerOf id = s.ownerOf id
  count : s'.works.length = s.works.length
  inFlight : s'.inFlight = s.inFlight

theorem stands_of_eq {s s' : State} (hworks : s'.works = s.works)
    (hinFlight : s'.inFlight = s.inFlight) : Stands s s' where
  states := fun id => by rw [workStateOf, workStateOf, work?, work?, hworks]
  owners := fun id => by rw [ownerOf, ownerOf, work?, work?, hworks]
  count := by rw [hworks]
  inFlight := hinFlight

theorem Stands.workDone {s s' : State} (h : Stands s s') (id : Nat) :
    s'.workDone id = s.workDone id :=
  workDone_congr (h.states id)

theorem work?_setWork (s : State) (id k : Nat) (f : Work → Work) :
    (s.setWork id f).work? k = if k = id then (s.work? k).map f else s.work? k :=
  numbered?_updateNumbered s.works f id k

theorem call?_setCall (s : State) (n k : Nat) (f : Call → Call) :
    (s.setCall n f).call? k = if k = n then (s.call? k).map f else s.call? k :=
  numbered?_updateNumbered s.calls f n k

theorem length_updateNumbered {α : Type} (xs : List α) (f : α → α) (n : Nat) :
    (updateNumbered xs f n).length = xs.length := by
  cases n with
  | zero => rfl
  | succ n => exact List.length_modify ..

/-! ### Requests to cancel -/

/-- The state with a request noted for a piece of work. -/
def noteWork (s : State) (id : Nat) : State :=
  s.setWork id fun w => { w with cancelRequested := true }

/-- The state in which nobody waits for a call any more. -/
def dropCall (s : State) (n : Nat) : State :=
  s.setCall n fun c => { c with state := .dropped }

/-- A request is noted, or the call is dropped and the work gets a turn. -/
theorem cancelWork_of_running {s : State} {id : Nat} {w : Work} (h : s.Running id w) :
    s.cancelWork id = s.noteWork id ∨
      ∃ checked attempt n, w.state = .waiting checked attempt n ∧ (s.call? n).isSome ∧
        s.cancelWork id = (s.dropCall n).enqueue (.work id) := by
  obtain ⟨hwork, hopen⟩ := h
  rw [cancelWork, hwork]
  dsimp only
  split
  · exact .inl rfl
  · next checked attempt n hstate =>
    split
    · next hcall => exact .inr ⟨checked, attempt, n, hstate, by rw [hcall]; rfl, rfl⟩
    · exact .inl rfl
  · next hfresh hwaiting =>
    -- every other state is one in which work is done
    cases hstate : w.state with
    | fresh => exact absurd hstate hfresh
    | waiting checked attempt n => exact absurd hstate (hwaiting checked attempt n)
    | finished | failed | cancelled => rw [hstate] at hopen; cases hopen

/-- A request to cancel what is done changes nothing. -/
theorem cancelWork_of_done {s : State} {id : Nat} (h : s.workDone id = true) :
    s.cancelWork id = s := by
  rw [workDone] at h
  rw [cancelWork]
  cases hwork : s.work? id with
  | none => rfl
  | some w =>
    rw [hwork] at h
    dsimp only at h ⊢
    split
    · next hstate => rw [hstate] at h; cases h
    · next hstate => rw [hstate] at h; cases h
    · rfl

theorem stands_noteWork (s : State) (id : Nat) : Stands s (s.noteWork id) where
  states := by
    intro k
    rw [workStateOf, noteWork, work?_setWork]
    split
    · rw [Option.map_map]
      rfl
    · rfl
  owners := by
    intro k
    rw [ownerOf, noteWork, work?_setWork]
    split
    · rw [Option.map_map]
      rfl
    · rfl
  count := length_updateNumbered ..
  inFlight := rfl

/-- No piece of work gets on by being asked to stop. -/
theorem stands_cancelWork (s : State) (id : Nat) : Stands s (s.cancelWork id) := by
  -- only what is running can be noted, or lose its call
  cases h : s.workDone id with
  | true => exact stands_of_eq (by rw [cancelWork_of_done h]) (by rw [cancelWork_of_done h])
  | false =>
    obtain ⟨w, hw⟩ := workDone_eq_false_iff.mp h
    rcases cancelWork_of_running hw with heq | ⟨checked, attempt, n, _, _, heq⟩
    · rw [heq]
      exact stands_noteWork s id
    · rw [heq]
      exact stands_of_eq rfl rfl

/-- A request reaches work that is running: it bears the mark, or nobody waits for its call any
    more. -/
theorem marked_cancelWork {s : State} {id : Nat} (h : s.workDone id = false) :
    (s.cancelWork id).Marked id := by
  obtain ⟨w, hw⟩ := workDone_eq_false_iff.mp h
  rcases cancelWork_of_running hw with heq | ⟨checked, attempt, n, hstate, hcall, heq⟩
  -- noted at the work itself
  · rw [heq]
    refine ⟨{ w with cancelRequested := true }, ?_, .inl rfl⟩
    rw [noteWork, work?_setWork, if_pos rfl, hw.1, Option.map_some]
  · rw [heq]
    -- or seen at its call, which has been dropped
    obtain ⟨c, hc⟩ := Option.isSome_iff_exists.mp hcall
    have hdropped : (s.dropCall n).Dropped n := by
      rw [Dropped, dropCall, call?_setCall, if_pos rfl, hc]
      rfl
    exact ⟨w, hw.1, .inr ⟨checked, attempt, n, hstate, hdropped⟩⟩

theorem Marked.of_eq {s s' : State} {id : Nat} (h : s.Marked id) (hworks : s'.works = s.works)
    (hcalls : s'.calls = s.calls) : s'.Marked id := by
  obtain ⟨w, hw, hrequested⟩ := h
  refine ⟨w, by rw [work?, hworks]; exact hw, ?_⟩
  rcases hrequested with hnoted | ⟨checked, attempt, n, hstate, hdropped⟩
  · exact .inl hnoted
  · exact .inr ⟨checked, attempt, n, hstate, by rw [Dropped, call?, hcalls]; exact hdropped⟩

/-- A request stays where calls that nobody waits for stay dropped. -/
theorem Requested.mono {s s' : State} {w : Work} (h : s.Requested w)
    (hdropped : ∀ {n}, s.Dropped n → s'.Dropped n) : s'.Requested w := by
  rcases h with hnoted | ⟨checked, attempt, n, hstate, hn⟩
  · exact .inl hnoted
  · exact .inr ⟨checked, attempt, n, hstate, hdropped hn⟩

theorem Dropped.setCall {s : State} {n : Nat} (h : s.Dropped n) {k : Nat} {f : Call → Call}
    (hf : ∀ c, s.call? k = some c → c.state = .dropped → (f c).state = .dropped) :
    (s.setCall k f).Dropped n := by
  obtain ⟨c, hc, hstate⟩ := Option.map_eq_some_iff.mp h
  rw [Dropped, call?_setCall]
  split
  · next hk => rw [hc, Option.map_some, Option.map_some, hf c (hk ▸ hc) hstate]
  · exact h

theorem Marked.noteWork {s : State} {k : Nat} (h : s.Marked k) (id : Nat) :
    (s.noteWork id).Marked k := by
  obtain ⟨w, hw, hrequested⟩ := h
  by_cases hk : k = id
  · refine ⟨{ w with cancelRequested := true }, ?_, .inl rfl⟩
    rw [State.noteWork, work?_setWork, if_pos hk, hw, Option.map_some]
  · refine ⟨w, ?_, hrequested⟩
    rw [State.noteWork, work?_setWork, if_neg hk, hw]

/-- A mark outlives every later request. -/
theorem Marked.cancelWork {s : State} {k : Nat} (h : s.Marked k) (id : Nat) :
    (s.cancelWork id).Marked k := by
  cases hdone : s.workDone id with
  | true => rwa [cancelWork_of_done hdone]
  | false =>
    obtain ⟨w, hw⟩ := workDone_eq_false_iff.mp hdone
    rcases cancelWork_of_running hw with heq | ⟨_, _, n, _, _, heq⟩
    · rw [heq]
      exact h.noteWork id
    · rw [heq]
      obtain ⟨w, hw, hrequested⟩ := h
      exact ⟨w, hw, hrequested.mono fun hn => hn.setCall fun _ _ _ => rfl⟩

theorem Marked.cancelInFlight {s : State} {k : Nat} (h : s.Marked k) :
    s.cancelInFlight.Marked k := by
  unfold State.cancelInFlight
  split
  · exact h.cancelWork _
  · exact h

theorem stands_cancelInFlight (s : State) : Stands s s.cancelInFlight := by
  unfold cancelInFlight
  split
  · exact stands_cancelWork s _
  · exact stands_of_eq rfl rfl

theorem stands_cancel {s s' : State} {n : Nat} (h : s.cancel n = some s') : Stands s s' := by
  unfold cancel at h
  split at h
  · cases h
  · split at h
    · cases h
      exact stands_of_eq rfl rfl
    · cases h
      split
      · exact stands_of_eq rfl rfl
      · exact stands_cancelWork s _
    · cases h

/-! ### Turns of a submission -/

/-- Nothing changes but submissions, the latest diagnosis and the log. -/
structure Spares (s s' : State) : Prop where
  works : s'.works = s.works
  calls : s'.calls = s.calls
  inFlight : s'.inFlight = s.inFlight
  sequence : s'.sequence = s.sequence
  ready : s'.ready = s.ready
  count : s'.submissions.length = s.submissions.length

theorem Spares.refl (s : State) : Spares s s := ⟨rfl, rfl, rfl, rfl, rfl, rfl⟩

theorem spares_endSubmission (s : State) (n : Nat) (ending : SubmissionState) :
    Spares s (s.endSubmission n ending) :=
  ⟨rfl, rfl, rfl, rfl, rfl, length_updateNumbered ..⟩

theorem spares_cancelledWaiting (s : State) (n id : Nat) :
    Spares s (s.cancelledWaiting n id) := by
  unfold cancelledWaiting
  split <;> exact ⟨rfl, rfl, rfl, rfl, rfl, length_updateNumbered ..⟩

theorem spares_finishedWaiting (s : State) (n id : Nat) (d : Diagnosis) :
    Spares s (s.finishedWaiting n id d) := by
  unfold finishedWaiting
  split <;> exact ⟨rfl, rfl, rfl, rfl, rfl, length_updateNumbered ..⟩

theorem spares_resume (s : State) (n id : Nat) (requested : Bool) :
    Spares s (s.resume n id requested) := by
  unfold resume
  split
  · exact spares_cancelledWaiting s n id
  · split
    · exact spares_finishedWaiting s n id _
    · exact spares_endSubmission s n _
    · exact spares_cancelledWaiting s n id
    · exact .refl s

/-- In its turn a submission begins, or touches neither works nor calls. -/
theorem submissionTurn_begins_or_spares (s : State) (n : Nat) :
    (∃ snippet, s.stateOf n = some .fresh ∧ s.submissionTurn n = s.begin n snippet) ∨
      Spares s (s.submissionTurn n) := by
  unfold submissionTurn
  split
  · exact .inr (.refl s)
  · next b hb =>
    split
    · next hfresh =>
      split
      · exact .inr (spares_endSubmission s n _)
      · exact .inl ⟨b.snippet, by rw [stateOf, hb, Option.map_some, hfresh], rfl⟩
    · exact .inr (spares_resume s n _ _)
    · exact .inr (.refl s)

/-- A submission begins: its work is the next one, and it is in flight. -/
structure Starts (n : Nat) (s s' : State) : Prop where
  states : ∀ id, s'.workStateOf id =
    if id = s.works.length + 1 then some .fresh else s.workStateOf id
  owners : ∀ id, s'.ownerOf id = if id = s.works.length + 1 then some n else s.ownerOf id
  count : s'.works.length = s.works.length + 1
  inFlight : s'.inFlight = some (s.sequence + 1)
  sequence : s'.sequence = s.sequence + 1
  /-- What was in flight, and is not done, bears a request now. -/
  marks : ∀ id, s.inFlight = some id → s.workDone id = false → s'.Marked id

theorem work?_begin (s : State) (n : Nat) (snippet : Text) (id : Nat) :
    (s.begin n snippet).work? id =
      if id = s.works.length + 1 then some ⟨n, snippet, .fresh, false⟩
      else s.cancelInFlight.work? id := by
  have hworks : (s.begin n snippet).works =
      s.cancelInFlight.works ++ [⟨n, snippet, .fresh, false⟩] := rfl
  rw [work?, hworks, numbered?_concat, (stands_cancelInFlight s).count]
  rfl

/-- A mark on the work in flight is still there when the next one has started. -/
theorem marked_begin {s : State} {id : Nat} (h : s.cancelInFlight.Marked id) (n : Nat)
    (snippet : Text) : (s.begin n snippet).Marked id := by
  obtain ⟨w, hw, hmark⟩ := h
  refine ⟨w, ?_, hmark⟩
  rw [work?_begin, if_neg, hw]
  -- the new work is behind all the old ones, so it is not the marked one
  rintro rfl
  rw [← (stands_cancelInFlight s).count, work?_length_add_one] at hw
  cases hw

/-- That is how a submission begins. -/
theorem starts_begin (s : State) (n : Nat) (snippet : Text) :
    Starts n s (s.begin n snippet) where
  states := by
    intro id
    rw [workStateOf, work?_begin]
    split
    · rfl
    · exact (stands_cancelInFlight s).states id
  owners := by
    intro id
    rw [ownerOf, work?_begin]
    split
    · rfl
    · exact (stands_cancelInFlight s).owners id
  count := by
    have hworks : (s.begin n snippet).works =
        s.cancelInFlight.works ++ [⟨n, snippet, .fresh, false⟩] := rfl
    rw [hworks, List.length_append, (stands_cancelInFlight s).count]
    rfl
  inFlight := congrArg (some <| · + 1) (stays_cancelInFlight s).sequence
  sequence := sequence_begin s n snippet
  -- only here the order matters: the request comes before the next work starts
  marks := by
    intro id hin hopen
    have hcancel : s.cancelInFlight = s.cancelWork id := by rw [cancelInFlight, hin]
    exact marked_begin (hcancel ▸ marked_cancelWork hopen) n snippet

/-- A submission takes the next number in its turn, and work for its snippet, started under that
    number, is in flight and has a turn to come. -/
structure Begins (n : Nat) (snippet : Text) (s s' : State) : Prop where
  sequence : s'.sequence = s.sequence + 1
  waits : s'.stateOf n = some (.waiting (s.sequence + 1))
  work : s'.work? (s.sequence + 1) = some ⟨n, snippet, .fresh, false⟩
  inFlight : s'.inFlight = some (s.sequence + 1)
  due : .work (s.sequence + 1) ∈ s'.ready

/-- **A fresh submission that nobody has cancelled takes the next number in its turn,** and its
    work starts. -/
theorem begins_of_fresh {s : State} {n : Nat} {snippet : Text}
    (hcount : s.works.length = s.sequence)
    (h : s.submission? n = some ⟨snippet, .fresh, false⟩) :
    Begins n snippet s (take s (.turn n)) := by
  have hfresh : s.stateOf n = some .fresh := by
    rw [stateOf, h]
    rfl
  have hs := starts_begin s n snippet
  rw [take_turn_of_fresh h]
  constructor
  case sequence => exact hs.sequence
  case waits => exact (shifts_begin hfresh snippet).after
  case work => rw [work?_begin, if_pos (by rw [hcount])]
  case inFlight => exact hs.inFlight
  -- its first turn is the last one in the queue
  case due =>
    have hready : (s.begin n snippet).ready =
        s.cancelInFlight.ready ++ [.work (s.cancelInFlight.sequence + 1)] := rfl
    rw [hready, (stays_cancelInFlight s).sequence]
    exact List.mem_append_right _ List.mem_cons_self

/-! ### What a move does to the works -/

/-- One piece of work, not done before, gets a state; no other gets on. -/
structure GoesOn (id : Nat) (next : WorkState) (s s' : State) : Prop where
  before : s.workDone id = false
  states : ∀ k, s'.workStateOf k = if k = id then some next else s.workStateOf k
  owners : ∀ k, s'.ownerOf k = s.ownerOf k
  count : s'.works.length = s.works.length
  inFlight : s'.inFlight = s.inFlight

inductive WorkChange (s s' : State) : Move → Prop
  | stands {m : Move} (h : Stands s s') (sequence : s'.sequence = s.sequence) : WorkChange s s' m
  | starts {n : Nat} (h : Starts n s s') (fresh : s.stateOf n = some .fresh)
      (shifts : Shifts n .fresh (.waiting (s.sequence + 1)) s s') : WorkChange s s' (.turn n)
  | goesOn {id : Nat} {next : WorkState} {requested : Bool} (h : GoesOn id next s s')
      (sequence : s'.sequence = s.sequence) : WorkChange s s' (.work id next requested)

/-- Work that is running gets on to the state that it is given. -/
theorem goesOn_setWork {s : State} {id : Nat} {w : Work} (h : s.Running id w) {f : Work → Work}
    {next : WorkState} (hstate : ∀ w, (f w).state = next)
    (howner : ∀ w, (f w).submission = w.submission) : GoesOn id next s (s.setWork id f) where
  before := workDone_eq_false_iff.mpr ⟨w, h⟩
  states := by
    intro k
    rw [workStateOf, work?_setWork]
    split
    · next hk => rw [hk, h.1, Option.map_some, Option.map_some, hstate]
    · rfl
  owners := by
    intro k
    rw [ownerOf, work?_setWork]
    split
    · rw [Option.map_map, ownerOf]
      exact congrArg (Option.map · (s.work? k)) (funext howner)
    · rfl
  count := length_updateNumbered ..
  inFlight := rfl

end State

open State in
/-- **What a move does to the works.** There are three ways, and each says everything about them.
    -/
theorem take_workChange (s : State) (m : Move) : WorkChange s (take s m) m := by
  cases m with
  | submit snippet => exact .stands (stands_of_eq rfl rfl) rfl
  | cancel n =>
    rw [take]
    cases h : s.cancel n with
    | none => exact .stands (stands_of_eq rfl rfl) rfl
    | some s' => exact .stands (stands_cancel h) (stays_cancel h).sequence
  | turn n =>
    rcases submissionTurn_begins_or_spares s n with ⟨snippet, hfresh, hbegin⟩ | hspares
    · rw [take, hbegin]
      exact .starts (starts_begin s n snippet) hfresh (shifts_begin hfresh snippet)
    · exact .stands (stands_of_eq hspares.works hspares.inFlight) hspares.sequence
  | work id next requested =>
    rw [take]
    split
    · exact .stands (stands_of_eq rfl rfl) rfl
    · next h =>
      obtain ⟨w, hw⟩ := workDone_eq_false_iff.mp (Bool.eq_false_iff.mpr h)
      exact .goesOn (goesOn_setWork hw (fun _ => rfl) fun _ => rfl) rfl
  | world calls ready delays logs => exact .stands (stands_of_eq rfl rfl) rfl

open State in
/-- What is done stays as it is. -/
theorem workStateOf_take_of_isDone {s : State} {id : Nat} {x : WorkState}
    (h : s.workStateOf id = some x) (hdone : x.isDone = true) (m : Move) :
    (take s m).workStateOf id = some x := by
  cases take_workChange s m with
  | stands hs _ => rw [hs.states, h]
  | starts hs _ _ =>
    rw [hs.states, if_neg, h]
    -- the work that starts is new, so it was not done before
    rintro rfl
    rw [workStateOf, work?_length_add_one] at h
    cases h
  | goesOn hs _ =>
    rw [hs.states, if_neg, h]
    rintro rfl
    have hbefore := hs.before
    rw [workDone_of_state h, hdone] at hbefore
    cases hbefore

/-! ### Each number has its work -/

open State in
/-- The works of a run belong to the numbers that were taken in it. -/
structure Staffed (s : State) (taken : List (Nat × Nat)) : Prop where
  count : s.works.length = s.sequence
  inFlight : s.inFlight = if s.sequence = 0 then none else some s.sequence
  owner : ∀ {n id}, (n, id) ∈ taken → s.ownerOf id = some n

open State in
theorem taking_of_sequence_eq {s : State} {m : Move} (h : (take s m).sequence = s.sequence) :
    taking s m = none := by
  cases take_change s m with
  | keeps hk => exact taking_of_keeps hk
  | begins _ hsequence _ => omega
  | ends hs hend _ _ => exact taking_of_ends hs hend
  | writes hs _ _ => exact taking_of_waiting hs.before

open State in
/-- For that it matters only how many works there are, who owns them and which is in flight. -/
theorem Staffed.of_same {s s' : State} {taken : List (Nat × Nat)} (h : Staffed s taken)
    (hcount : s'.works.length = s.works.length) (hsequence : s'.sequence = s.sequence)
    (hinFlight : s'.inFlight = s.inFlight) (howners : ∀ id, s'.ownerOf id = s.ownerOf id) :
    Staffed s' taken where
  count := by rw [hcount, hsequence, h.count]
  inFlight := by rw [hinFlight, hsequence, h.inFlight]
  owner := fun hmem => (howners _).trans (h.owner hmem)

open State in
/-- A move keeps the works in step with the numbers. -/
theorem Staffed.take {s : State} {taken : List (Nat × Nat)} (h : Staffed s taken) (m : Move) :
    Staffed (Session.take s m) (taken ++ (taking s m).toList) := by
  cases take_workChange s m with
  | stands hs hsequence =>
    rw [taking_of_sequence_eq hsequence, Option.toList_none, List.append_nil]
    exact h.of_same hs.count hsequence hs.inFlight hs.owners
  | goesOn hs hsequence =>
    rw [taking_of_sequence_eq hsequence, Option.toList_none, List.append_nil]
    exact h.of_same hs.count hsequence hs.inFlight hs.owners
  | @starts n hs _ hshifts =>
    -- a number is taken: by this submission, and the work that starts is its own
    rw [taking_of_begins hshifts, Option.toList_some]
    refine ⟨?_, ?_, ?_⟩
    · rw [hs.count, hs.sequence, h.count]
    · rw [hs.inFlight, hs.sequence, if_neg (Nat.succ_ne_zero _)]
    · intro k id hmem
      rw [hs.owners]
      rcases List.mem_append.mp hmem with hold | hnew
      · have howner := h.owner hold
        rw [if_neg, howner]
        rintro rfl
        rw [ownerOf, work?_length_add_one] at howner
        cases howner
      · cases List.mem_singleton.mp hnew
        rw [if_pos (by rw [h.count])]

open State in
/-- What is done stays done; a number that has no work yet counts as done until its work starts. -/
theorem Staffed.workDone_take {s : State} {taken : List (Nat × Nat)} (h : Staffed s taken)
    {id : Nat} (hdone : s.workDone id = true) {m : Move}
    (hin : (Session.take s m).inFlight ≠ some id) : (Session.take s m).workDone id = true := by
  refine (workDone_congr ?_).trans hdone
  cases take_workChange s m with
  | stands hs _ => exact hs.states id
  | starts hs _ _ =>
    rw [hs.states, if_neg]
    -- work that starts here is in flight, which is excluded
    rintro rfl
    exact hin (by rw [hs.inFlight, h.count])
  | goesOn hs _ =>
    rw [hs.states, if_neg]
    rintro rfl
    have hopen := hs.before
    rw [hdone] at hopen
    cases hopen

/-- **In every run, each number that was taken has its work.** -/
theorem staffed (ms : List Move) : Staffed (run ms) (taken ms) := by
  induction ms using List.reverseRecOn with
  | nil => exact ⟨rfl, rfl, by simp [taken, observe]⟩
  | append_singleton ms m ih =>
    rw [run_concat, taken_concat]
    exact ih.take m

end ScriptDiagnosis.Session
