/-
  ScriptDiagnosis/Proofs/Session/OneLive.lean
  ===========================================
  **At most one piece of work is live:** every work but the one in flight is done or was asked to
  end.  The session looks at nothing but the work in flight, so the invariant is about all older
  ones at once: whoever begins asks the work in flight to end and puts its own in its place.  In an
  arbitrary order of moves a work may forget the request, so it is the history that says what was
  asked (`Asked`); in a course the request can be seen on the work itself until it is done
  (`Marked`).  Both are in `at_most_one_live`.
-/
import ScriptDiagnosis.Proofs.Session.Happenings

namespace ScriptDiagnosis.Session
open State

/-- Every work but the one in flight is done or was asked to end, so no two works are neither. -/
structure OneLive (s : State) (asked : Nat → Prop) : Prop where
  others : ∀ id, s.inFlight ≠ some id → s.workDone id = true ∨ asked id
  one : ∀ id id', s.workDone id = false → ¬ asked id → s.workDone id' = false → ¬ asked id' →
    id = id'

/-- It is enough to know of all works but the one in flight that they are done or asked to stop.
    -/
theorem oneLive_of_others {s : State} {asked : Nat → Prop}
    (h : ∀ id, s.inFlight ≠ some id → s.workDone id = true ∨ asked id) : OneLive s asked where
  others := h
  one := by
    have hlive : ∀ id, s.workDone id = false → ¬ asked id → s.inFlight = some id := by
      intro id hopen hasked
      by_cases hin : s.inFlight = some id
      · exact hin
      · rcases h id hin with hdone | hid
        · rw [hopen] at hdone
          cases hdone
        · exact absurd hid hasked
    intro id id' hopen hasked hopen' hasked'
    have hsame := (hlive id hopen hasked).symm.trans (hlive id' hopen' hasked')
    exact Option.some.inj hsame

/-- The work of the current number is in flight, and each number has the work that its submission
    started. -/
structure InFlight (s : State) (taken : List (Nat × Nat)) : Prop where
  none : s.sequence = 0 → s.inFlight = none
  current : 0 < s.sequence → s.inFlight = some s.sequence
  works : ∀ n id, (n, id) ∈ taken ↔ ∃ w, s.work? id = some w ∧ w.submission = n

/-! ### Requests in any order of moves -/

/-- A move asks for the end of a work that is not done: somebody cancels the submission that waits
    for it, or another begins while it is in flight.  After that the work bears the request. -/
structure Asks (s : State) (m : Move) (id : Nat) : Prop where
  before : s.workDone id = false
  origin : (∃ n, m = .cancel n ∧ s.stateOf n = some (.waiting id)) ∨
    ∃ n, m = .turn n ∧ s.stateOf n = some .fresh ∧ s.inFlight = some id
  after : (take s m).Marked id

def Asked (ms : List Move) (id : Nat) : Prop :=
  ∃ before m after, ms = before ++ m :: after ∧ Asks (run before) m id

theorem Asked.concat {ms : List Move} {id : Nat} (h : Asked ms id) (m : Move) :
    Asked (ms ++ [m]) id := by
  obtain ⟨before, asking, after, rfl, hasks⟩ := h
  exact ⟨before, asking, after ++ [m], by simp, hasks⟩

/-- In every run, work that is not in flight is done or was asked to stop. -/
theorem done_or_asked (ms : List Move) :
    ∀ id, (run ms).inFlight ≠ some id → (run ms).workDone id = true ∨ Asked ms id := by
  induction ms using List.reverseRecOn with
  | nil =>
    intro id _
    left
    cases id <;> rfl
  | append_singleton ms m ih =>
    intro id hid
    rw [run_concat] at hid ⊢
    -- what is done stays done, and what was asked was asked
    have hstill : (run ms).workDone id = true →
        (take (run ms) m).workDone id = true ∨ Asked (ms ++ [m]) id :=
      fun hdone => .inl ((staffed ms).workDone_take hdone hid)
    by_cases hin : (run ms).inFlight = some id
    · -- it was in flight before the move, so a submission begins
      cases hopen : (run ms).workDone id with
      | true => exact hstill hopen
      | false =>
        cases take_workChange (run ms) m with
        | stands hs _ => exact absurd (hs.inFlight.trans hin) hid
        | goesOn hs _ => exact absurd (hs.inFlight.trans hin) hid
        | @starts n hs hfresh _ =>
          exact .inr ⟨ms, .turn n, [], rfl, hopen, .inr ⟨n, rfl, hfresh, hin⟩,
            hs.marks id hin hopen⟩
    · rcases ih id hin with hdone | hasked
      · exact hstill hdone
      · exact .inr (hasked.concat m)

/-- In every run, the work in flight is that of the last number. -/
theorem inFlight_run (ms : List Move) : InFlight (run ms) (taken ms) where
  none := by
    intro hzero
    rw [(staffed ms).inFlight, if_pos hzero]
  current := by
    intro hpos
    rw [(staffed ms).inFlight, if_neg (Nat.ne_of_gt hpos)]
  works := by
    intro n id
    constructor
    · exact fun hmem => Option.map_eq_some_iff.mp ((staffed ms).owner hmem)
    · rintro ⟨w, hw, rfl⟩
      have hid : 1 ≤ id ∧ id ≤ (run ms).sequence := by
        rw [← (staffed ms).count]
        cases id with
        | zero => cases hw
        | succ id => exact ⟨Nat.le_add_left 1 id, (List.getElem?_eq_some_iff.mp hw).1⟩
      obtain ⟨n, hn⟩ := (tracked ms).mem_numbers_iff.mpr hid
      have howner := (staffed ms).owner hn
      rw [ownerOf, hw] at howner
      cases howner
      exact hn

/-! ### Requests in a course -/

/-- Every work but the one in flight is done or bears a request. -/
def Heeded (s : State) : Prop :=
  ∀ id, s.inFlight ≠ some id → s.workDone id = true ∨ s.Marked id

namespace Heeded

variable {s s' : State}

theorem calm (h : Heeded s) (hs : Stands s s') (hmarks : ∀ {id}, s.Marked id → s'.Marked id) :
    Heeded s' := by
  intro id hid
  rw [hs.inFlight] at hid
  rcases h id hid with hdone | hmarked
  · exact .inl ((hs.workDone id).trans hdone)
  · exact .inr (hmarks hmarked)

/-- A submission that begins puts one piece of work out of flight, and asks it to stop. -/
theorem begin (h : Heeded s) (hcount : s.works.length = s.sequence) (n : Nat) (snippet : Text) :
    Heeded (s.begin n snippet) := by
  have hs := starts_begin s n snippet
  intro id hid
  -- the work that starts is in flight, so it is not this one
  have hne : id ≠ s.works.length + 1 := by
    rintro rfl
    exact hid (by rw [hs.inFlight, hcount])
  have hsame : (s.begin n snippet).workDone id = s.workDone id :=
    workDone_congr (by rw [hs.states, if_neg hne])
  cases hopen : s.workDone id with
  | true => exact .inl (hsame.trans hopen)
  | false =>
    by_cases hin : s.inFlight = some id
    · exact .inr (hs.marks id hin hopen)
    · rcases h id hin with hdone | hmarked
      · rw [hopen] at hdone
        cases hdone
      · exact .inr (marked_begin hmarked.cancelInFlight n snippet)

/-- A turn of a piece of work keeps the marks: what makes a call has none, and is in flight. -/
theorem workTurn (h : Heeded s) {id : Nat} (hturn : WorkTurn s id s') : Heeded s' := by
  have haside := hturn.aside
  rcases hturn.getsOn with rfl | ⟨next, hgoes, hgets⟩
  · exact h
  · intro k hk
    rw [hgoes.inFlight] at hk
    by_cases hkid : k = id
    · cases hgets with
      | ends hdone _ =>
        left
        rw [workDone_of_state (by rw [hgoes.states, if_pos hkid]), hdone]
      | calls _ hcalm =>
        -- it goes on, so it is not done and bears no request: it is in flight
        rw [hkid] at hk
        rcases h id hk with hdone | hmarked
        · rw [hgoes.before] at hdone
          cases hdone
        · exact absurd hmarked hcalm
    · rcases h k hk with hdone | hmarked
      · exact .inl ((workDone_congr (by rw [hgoes.states, if_neg hkid])).trans hdone)
      · exact .inr (haside.marks hkid hmarked)

theorem submissionTurn (h : Heeded s) (hcount : s.works.length = s.sequence) (n : Nat) :
    Heeded (s.submissionTurn n) := by
  rcases submissionTurn_begins_or_spares s n with ⟨snippet, _, hbegin⟩ | hspares
  · rw [hbegin]
    exact h.begin hcount n snippet
  · exact h.calm (stands_of_eq hspares.works hspares.inFlight)
      fun hmarked => hmarked.of_eq hspares.works hspares.calls

/-- Whatever happens, requests are heeded. -/
theorem happen (h : Heeded s) (hcount : s.works.length = s.sequence) (g : Setting)
    (e : Happening) : Heeded (Session.happen g s e) := by
  cases e with
  | submit snippet => exact h.calm (calm_submit s snippet).stands (calm_submit s snippet).marks
  | release n result first =>
    rw [Session.happen]
    cases hrelease : s.release n result first with
    | none => exact h
    | some s' => exact h.calm (calm_release hrelease).stands (calm_release hrelease).marks
  | cancel n =>
    rw [Session.happen]
    cases hcancel : s.cancel n with
    | none => exact h
    | some s' => exact h.calm (calm_cancel hcancel).stands (calm_cancel hcancel).marks
  | turn =>
    rw [Session.happen]
    split
    · exact h
    · next t rest _ =>
      have hpopped : Heeded { s with ready := rest } :=
        h.calm (stands_of_eq rfl rfl) fun hmarked => hmarked.of_eq rfl rfl
      cases t with
      | submission n => exact hpopped.submissionTurn hcount n
      | work id => exact hpopped.workTurn (workTurn_turn g _ id)

end Heeded

/-- **In every course, work that is not in flight is done or bears its request.** -/
theorem heeded_course (g : Setting) (hs : List Happening) : Heeded (course g hs) := by
  induction hs using List.reverseRecOn with
  | nil =>
    intro id _
    left
    cases id <;> rfl
  | append_singleton hs e ih =>
    obtain ⟨ms, hms⟩ := course_moves g hs
    have hcount := (staffed ms).count
    rw [hms] at hcount
    rw [course_concat]
    exact ih.happen hcount g e

/-- **At most one piece of work is live,** in every order of moves, and in every course, where the
    request can be seen on each work that is neither in flight nor done. -/
theorem at_most_one_live :
    (∀ ms, OneLive (run ms) (Asked ms) ∧ InFlight (run ms) (taken ms)) ∧
      (∀ g hs, OneLive (course g hs) (course g hs).Marked ∧ ∃ ms, run ms = course g hs) ∧
      ∀ g actions, ∃ hs, course g hs = session g actions := by
  refine ⟨fun ms => ?_, fun g hs => ?_, session_course⟩
  · exact ⟨oneLive_of_others (done_or_asked ms), inFlight_run ms⟩
  · exact ⟨oneLive_of_others (heeded_course g hs), course_moves g hs⟩

end ScriptDiagnosis.Session
