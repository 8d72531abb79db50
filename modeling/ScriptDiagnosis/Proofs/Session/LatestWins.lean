/-
  ScriptDiagnosis/Proofs/Session/LatestWins.lean
  ==============================================
  The latest submission wins, in every order of moves.  A run is seen through two rows: the
  numbers that submissions took, and the numbers that they wrote a diagnosis under, each with
  the submission.  The invariant ties both rows to the state (`Tracked`); what a caller relies
  on follows from it (`latest_wins`).
-/
import Mathlib.Data.List.Induction
import Mathlib.Data.List.Nodup
import ScriptDiagnosis.Proofs.Session.Course

namespace ScriptDiagnosis.Session
open State

/-! ### What is seen of a run -/

/-- What is seen of the moves of a run, in order; most show nothing. -/
def observe {α : Type} (see : State → Move → Option α) (s : State) : List Move → List α
  | [] => []
  | m :: ms => (see s m).toList ++ observe see (take s m) ms

theorem observe_append {α : Type} (see : State → Move → Option α) (s : State)
    (before after : List Move) :
    observe see s (before ++ after) =
      observe see s before ++ observe see (takeAll s before) after := by
  induction before generalizing s with
  | nil => rfl
  | cons m ms ih =>
    rw [List.cons_append, observe, observe, ih, List.append_assoc]
    rfl

/-- The number that a submission takes in its turn, with the submission. -/
def taking (s : State) : Move → Option (Nat × Nat)
  | .turn n =>
    match s.stateOf n, (take s (.turn n)).stateOf n with
    | some .fresh, some (.waiting id) => some (n, id)
    | _, _ => none
  | _ => none

/-- The number of a diagnosis that becomes the latest, with the submission whose turn it is. -/
def writing (s : State) : Move → Option (Nat × Nat)
  | .turn n =>
    if (take s (.turn n)).latest = s.latest then none
    else (take s (.turn n)).latest.map fun l => (n, l.1)
  | _ => none

def taken (ms : List Move) : List (Nat × Nat) := observe taking {} ms

def written (ms : List Move) : List (Nat × Nat) := observe writing {} ms

theorem taken_concat (ms : List Move) (m : Move) :
    taken (ms ++ [m]) = taken ms ++ (taking (run ms) m).toList := by
  rw [taken, observe_append, observe, observe, List.append_nil]
  rfl

theorem written_concat (ms : List Move) (m : Move) :
    written (ms ++ [m]) = written ms ++ (writing (run ms) m).toList := by
  rw [written, observe_append, observe, observe, List.append_nil]
  rfl

theorem taking_of_keeps {s : State} {m : Move} (h : Keeps s (take s m)) : taking s m = none := by
  unfold taking
  split
  · split
    · next hbefore hafter =>
      rw [h.states hbefore] at hafter
      cases hafter
    · rfl
  · rfl

theorem writing_of_latest_eq {s : State} {m : Move} (h : (take s m).latest = s.latest) :
    writing s m = none := by
  unfold writing
  split
  · rw [if_pos h]
  · rfl

theorem taking_of_begins {s : State} {n id : Nat}
    (h : Shifts n .fresh (.waiting id) s (take s (.turn n))) :
    taking s (.turn n) = some (n, id) := by
  rw [taking, h.before, h.after]

theorem taking_of_waiting {s : State} {n id : Nat} (h : s.stateOf n = some (.waiting id)) :
    taking s (.turn n) = none := by
  rw [taking, h]

theorem taking_of_ends {s : State} {n : Nat} {x y : SubmissionState}
    (h : Shifts n x y s (take s (.turn n))) (hend : EndsFrom s x y) :
    taking s (.turn n) = none := by
  cases hend with
  | unbegun => rw [taking, h.before, h.after]
  | superseded | cancelled | failed => exact taking_of_waiting h.before

theorem writing_of_latest {s : State} {n id : Nat} {d : Diagnosis}
    (h : (take s (.turn n)).latest = some (id, d)) (hnew : ∀ d, s.latest ≠ some (id, d)) :
    writing s (.turn n) = some (n, id) := by
  rw [writing, if_neg (by rw [h]; exact (hnew d).symm), h, Option.map_some]

/-! ### The invariant -/

/-- The rows of a run and its state belong together. -/
structure Tracked (s : State) (taken written : List (Nat × Nat)) : Prop where
  numbers : taken.map Prod.snd = List.range' 1 s.sequence
  waiting : ∀ {n id}, s.stateOf n = some (.waiting id) → (n, id) ∈ taken
  outcome : ∀ {n id}, s.stateOf n = some (.outcome id) ↔ (n, id) ∈ written
  own : ∀ {w}, w ∈ written → w ∈ taken
  latest : s.latest.map Prod.fst = (written.map Prod.snd).getLast?
  increasing : (written.map Prod.snd).Pairwise (· < ·)

namespace Tracked

variable {s s' : State} {taken written : List (Nat × Nat)}

theorem mem_numbers_iff (h : Tracked s taken written) {id : Nat} :
    (∃ n, (n, id) ∈ taken) ↔ 1 ≤ id ∧ id ≤ s.sequence := by
  have hmem : id ∈ taken.map Prod.snd ↔ id ∈ List.range' 1 s.sequence := by rw [h.numbers]
  rw [List.mem_range'_1] at hmem
  simp only [List.mem_map, Prod.exists, exists_eq_right] at hmem
  rw [hmem]
  omega

theorem le_sequence (h : Tracked s taken written) {n id : Nat} (hmem : (n, id) ∈ taken) :
    id ≤ s.sequence :=
  (h.mem_numbers_iff.mp ⟨n, hmem⟩).2

theorem unique (h : Tracked s taken written) {m n id : Nat} (hm : (m, id) ∈ taken)
    (hn : (n, id) ∈ taken) : m = n := by
  have hnodup : (taken.map Prod.snd).Nodup := by
    rw [h.numbers]
    exact List.nodup_range'
  exact congrArg Prod.fst (List.inj_on_of_nodup_map hnodup hm hn rfl)

theorem not_written (h : Tracked s taken written) {n id : Nat}
    (hn : s.stateOf n = some (.waiting id)) (k : Nat) : (k, id) ∉ written := by
  intro hk
  have hkn : k = n := h.unique (h.own hk) (h.waiting hn)
  have houtcome := h.outcome.mpr hk
  rw [hkn, hn] at houtcome
  cases houtcome

theorem lt_of_waiting (h : Tracked s taken written) {n : Nat}
    (hn : s.stateOf n = some (.waiting s.sequence)) : ∀ w ∈ written, w.2 < s.sequence := by
  rintro ⟨k, id⟩ hw
  have hne : id ≠ s.sequence := by
    rintro rfl
    exact h.not_written hn k hw
  exact Nat.lt_of_le_of_ne (h.le_sequence (h.own hw)) hne

theorem latest_ne_of_waiting (h : Tracked s taken written) {n id : Nat}
    (hn : s.stateOf n = some (.waiting id)) (d : Diagnosis) : s.latest ≠ some (id, d) := by
  intro hlatest
  have hlast := h.latest
  rw [hlatest, Option.map_some] at hlast
  obtain ⟨⟨k, _⟩, hk, rfl⟩ := List.mem_map.mp (List.mem_of_getLast? hlast.symm)
  exact h.not_written hn k hk

theorem keeps (h : Tracked s taken written) (hk : Keeps s s') : Tracked s' taken written where
  numbers := by rw [hk.sequence]; exact h.numbers
  waiting := by
    intro n id hn
    rcases hk.news hn with hold | hfresh
    · exact h.waiting hold
    · cases hfresh
  outcome := by
    intro n id
    constructor
    · intro hn
      rcases hk.news hn with hold | hfresh
      · exact h.outcome.mp hold
      · cases hfresh
    · intro hw
      exact hk.states (h.outcome.mpr hw)
  own := h.own
  latest := by rw [hk.latest]; exact h.latest
  increasing := h.increasing

theorem begins (h : Tracked s taken written) {n : Nat}
    (hs : Shifts n .fresh (.waiting (s.sequence + 1)) s s')
    (hsequence : s'.sequence = s.sequence + 1) (hlatest : s'.latest = s.latest) :
    Tracked s' (taken ++ [(n, s.sequence + 1)]) written where
  numbers := by
    rw [List.map_append, h.numbers, hsequence, List.range'_1_concat, Nat.add_comm 1]
    rfl
  waiting := by
    intro k id hk
    by_cases hkn : k = n
    · rw [hkn, hs.after] at hk
      cases hk
      rw [hkn]
      exact List.mem_append_right _ (List.mem_singleton.mpr rfl)
    · rw [hs.others k hkn] at hk
      exact List.mem_append_left _ (h.waiting hk)
  outcome := by
    intro k id
    rw [← h.outcome]
    by_cases hkn : k = n
    · simp [hkn, hs.before, hs.after]
    · rw [hs.others k hkn]
  own := fun hw => List.mem_append_left _ (h.own hw)
  latest := by rw [hlatest]; exact h.latest
  increasing := h.increasing

theorem ends (h : Tracked s taken written) {n : Nat} {x y : SubmissionState}
    (hs : Shifts n x y s s') (hend : EndsFrom s x y) (hsequence : s'.sequence = s.sequence)
    (hlatest : s'.latest = s.latest) : Tracked s' taken written where
  numbers := by rw [hsequence]; exact h.numbers
  waiting := by
    intro k id hk
    by_cases hkn : k = n
    · rw [hkn, hs.after] at hk
      cases hend <;> cases hk
    · rw [hs.others k hkn] at hk
      exact h.waiting hk
  outcome := by
    intro k id
    rw [← h.outcome]
    by_cases hkn : k = n
    · rw [hkn, hs.before, hs.after]
      cases hend <;> simp
    · rw [hs.others k hkn]
  own := h.own
  latest := by rw [hlatest]; exact h.latest
  increasing := h.increasing

/-- The last submission writes: what was written before has a smaller number. -/
theorem writes (h : Tracked s taken written) {n : Nat} {d : Diagnosis}
    (hs : Shifts n (.waiting s.sequence) (.outcome s.sequence) s s')
    (hsequence : s'.sequence = s.sequence) (hlatest : s'.latest = some (s.sequence, d)) :
    Tracked s' taken (written ++ [(n, s.sequence)]) where
  numbers := by rw [hsequence]; exact h.numbers
  waiting := by
    intro k id hk
    by_cases hkn : k = n
    · rw [hkn, hs.after] at hk
      cases hk
    · rw [hs.others k hkn] at hk
      exact h.waiting hk
  outcome := by
    intro k id
    rw [List.mem_append, List.mem_singleton, ← h.outcome, Prod.mk.injEq]
    by_cases hkn : k = n
    · simp [hkn, hs.before, hs.after, eq_comm]
    · rw [hs.others k hkn]
      simp [hkn]
  own := by
    intro w hw
    rcases List.mem_append.mp hw with hold | hnew
    · exact h.own hold
    · rw [List.mem_singleton.mp hnew]
      exact h.waiting hs.before
  latest := by
    rw [hlatest, List.map_append, Option.map_some, List.map_singleton, List.getLast?_concat]
  increasing := by
    rw [List.map_append, List.pairwise_append]
    -- all that was written is older than what is written now
    refine ⟨h.increasing, List.pairwise_singleton _ _, ?_⟩
    intro a ha b hb
    obtain ⟨w, hw, rfl⟩ := List.mem_map.mp ha
    rw [List.mem_singleton.mp hb]
    exact h.lt_of_waiting hs.before w hw

/-- Each move keeps account of what is taken and written. -/
theorem take (h : Tracked s taken written) (m : Move) :
    Tracked (Session.take s m) (taken ++ (taking s m).toList)
      (written ++ (writing s m).toList) := by
  cases take_change s m with
  | keeps hk =>
    rw [taking_of_keeps hk, writing_of_latest_eq hk.latest]
    simpa using h.keeps hk
  | begins hs hsequence hlatest =>
    rw [taking_of_begins hs, writing_of_latest_eq hlatest]
    simpa using h.begins hs hsequence hlatest
  | ends hs hend hsequence hlatest =>
    rw [taking_of_ends hs hend, writing_of_latest_eq hlatest]
    simpa using h.ends hs hend hsequence hlatest
  | writes hs hsequence hlatest =>
    rw [taking_of_waiting hs.before, writing_of_latest hlatest (h.latest_ne_of_waiting hs.before)]
    simpa using h.writes hs hsequence hlatest

end Tracked

/-- **The account is right in every run.** -/
theorem tracked (ms : List Move) : Tracked (run ms) (taken ms) (written ms) := by
  -- moves are added at the end, where the invariant is known of the state before
  induction ms using List.reverseRecOn with
  | nil =>
    have hnone : ∀ n, (run []).stateOf n = none := by
      intro n
      cases n <;> rfl
    refine ⟨rfl, ?_, ?_, ?_, rfl, .nil⟩ <;> simp [hnone, written, observe]
  | append_singleton ms m ih =>
    rw [run_concat, taken_concat, written_concat]
    exact ih.take m

/-! ### What follows for a caller -/

theorem writes_of_latest_ne {s : State} {m : Move} (h : (take s m).latest ≠ s.latest) :
    ∃ n d, m = .turn n ∧ s.stateOf n = some (.waiting s.sequence) ∧
      (take s m).latest = some (s.sequence, d) := by
  cases take_change s m with
  | keeps hk => exact absurd hk.latest h
  | begins _ _ hlatest => exact absurd hlatest h
  | ends _ _ _ hlatest => exact absurd hlatest h
  | writes hs _ hlatest => exact ⟨_, _, rfl, hs.before, hlatest⟩

theorem sequence_le_take (s : State) (m : Move) : s.sequence ≤ (take s m).sequence := by
  cases take_change s m with
  | keeps hk => exact Nat.le_of_eq hk.sequence.symm
  | begins _ hsequence _ => omega
  | ends _ _ hsequence _ => exact Nat.le_of_eq hsequence.symm
  | writes _ hsequence _ => exact Nat.le_of_eq hsequence.symm

theorem eq_sequence_of_writing {s : State} {m : Move} {w : Nat × Nat} (h : writing s m = some w) :
    w.2 = s.sequence := by
  have hne : (take s m).latest ≠ s.latest := by
    intro heq
    rw [writing_of_latest_eq heq] at h
    cases h
  obtain ⟨n, d, rfl, _, hlatest⟩ := writes_of_latest_ne hne
  rw [writing, if_neg hne, hlatest] at h
  cases h
  rfl

/-- What is written from a state on has a number that is not below the current one there. -/
theorem sequence_le_of_written (s : State) (ms : List Move) :
    ∀ w ∈ observe writing s ms, s.sequence ≤ w.2 := by
  induction ms generalizing s with
  | nil => simp [observe]
  | cons m ms ih =>
    intro w hw
    rcases List.mem_append.mp hw with hnow | hlater
    · exact Nat.le_of_eq (eq_sequence_of_writing (Option.mem_toList.mp hnow)).symm
    · exact Nat.le_trans (sequence_le_take s m) (ih _ w hlater)

/-- A submission that is done stays as it is. -/
theorem take_of_isDone {s : State} {n : Nat} {x : SubmissionState} (h : s.stateOf n = some x)
    (hdone : x.isDone = true) (m : Move) : (take s m).stateOf n = some x := by
  -- the submission that gets on is not done before
  have hother : ∀ {k y z}, Shifts k y z s (take s m) → y.isDone = false →
      (take s m).stateOf n = some x := by
    intro k y z hs hy
    have hne : n ≠ k := by
      rintro rfl
      rw [hs.before] at h
      cases h
      rw [hdone] at hy
      cases hy
    exact (hs.others n hne).trans h
  cases take_change s m with
  | keeps hk => exact hk.states h
  | begins hs _ _ => exact hother hs rfl
  | ends hs hend _ _ => exact hother hs (by cases hend <;> rfl)
  | writes hs _ _ => exact hother hs rfl

theorem takeAll_of_isDone {s : State} {n : Nat} {x : SubmissionState} (h : s.stateOf n = some x)
    (hdone : x.isDone = true) (ms : List Move) : (takeAll s ms).stateOf n = some x := by
  induction ms generalizing s with
  | nil => exact h
  | cons m ms ih => exact ih (take_of_isDone h hdone m)

/-- A superseded submission had a turn in which its number was no longer the last. -/
theorem exists_turn_of_superseded (ms : List Move) {n : Nat}
    (h : (run ms).stateOf n = some .superseded) :
    ∃ before after id, ms = before ++ .turn n :: after ∧
      (run before).stateOf n = some (.waiting id) ∧ id ≠ (run before).sequence := by
  induction ms using List.reverseRecOn with
  | nil => cases n <;> cases h
  | append_singleton ms m ih =>
    -- either it was superseded before, or the last move did it
    have hold : (run ms).stateOf n = some .superseded → ∃ before after id,
        ms ++ [m] = before ++ .turn n :: after ∧
          (run before).stateOf n = some (.waiting id) ∧ id ≠ (run before).sequence := by
      intro hn
      obtain ⟨before, after, id, rfl, hwaiting, hne⟩ := ih hn
      exact ⟨before, after ++ [m], id, by simp, hwaiting, hne⟩
    rw [run_concat] at h
    cases take_change (run ms) m with
    | keeps hk =>
      rcases hk.news h with hn | hfresh
      · exact hold hn
      · cases hfresh
    | @begins k hs _ _ =>
      by_cases hnk : n = k
      · rw [hnk, hs.after] at h
        cases h
      · exact hold ((hs.others n hnk).symm.trans h)
    | @writes k d hs _ _ =>
      by_cases hnk : n = k
      · rw [hnk, hs.after] at h
        cases h
      · exact hold ((hs.others n hnk).symm.trans h)
    -- of the ways to end only being superseded fits, and it says why
    | @ends k x y hs hend _ _ =>
      by_cases hnk : n = k
      · rw [hnk, hs.after] at h
        cases h
        cases hend with
        | superseded hne => exact ⟨ms, [], _, by rw [hnk], by rw [hnk]; exact hs.before, hne⟩
      · exact hold ((hs.others n hnk).symm.trans h)

/-- What a caller relies on, after any moves. -/
structure LatestWins (ms : List Move) : Prop where
  /-- The numbers are handed out in order, from one, without a gap. -/
  numbers : (taken ms).map Prod.snd = List.range' 1 (run ms).sequence
  /-- The turn of a submission that has not begun, and was not cancelled, takes the next. -/
  next : ∀ n snippet, (run ms).submission? n = some ⟨snippet, .fresh, false⟩ →
    taking (run ms) (.turn n) = some (n, (run ms).sequence + 1)
  bounded : ∀ id d, (run ms).latest = some (id, d) → id ≤ (run ms).sequence
  increasing : ((written ms).map Prod.snd).Pairwise (· < ·)
  /-- Only the turn of the submission with the current number changes the latest diagnosis. -/
  current : ∀ before m after, ms = before ++ m :: after →
    (take (run before) m).latest ≠ (run before).latest →
      ∃ n d, m = .turn n ∧ (run before).stateOf n = some (.waiting (run before).sequence) ∧
        (take (run before) m).latest = some ((run before).sequence, d)
  /-- Once a number is taken, nothing is written under an older one. -/
  overtaken : ∀ before after, ms = before ++ after →
    ∀ w ∈ observe writing (run before) after, (run before).sequence ≤ w.2
  /-- An outcome is returned by those, and only those, that wrote the latest diagnosis. -/
  outcome : ∀ n id, (run ms).stateOf n = some (.outcome id) ↔ (n, id) ∈ written ms
  /-- It carries the number that the submission took. -/
  own : ∀ w ∈ written ms, w ∈ taken ms
  /-- Who is superseded wrote nothing, and a newer number was taken before its last turn. -/
  superseded : ∀ n, (run ms).stateOf n = some .superseded → (∀ id, (n, id) ∉ written ms) ∧
    ∃ before after id k, ms = before ++ .turn n :: after ∧ (n, id) ∈ taken before ∧
      (k, id + 1) ∈ taken before
  /-- What is returned once stays. -/
  returned : ∀ before after n x, ms = before ++ after → (run before).stateOf n = some x →
    x.isDone = true → (run ms).stateOf n = some x

/-- **The latest submission wins,** in every order of moves, and so in every session. -/
theorem latest_wins :
    (∀ ms, LatestWins ms) ∧ ∀ g actions, ∃ ms, run ms = session g actions := by
  refine ⟨?_, session_moves⟩
  intro ms
  have h := tracked ms
  constructor
  case numbers => exact h.numbers
  case next =>
    intro n snippet hn
    have hfresh : (run ms).stateOf n = some .fresh := by
      rw [stateOf, hn]
      rfl
    apply taking_of_begins
    rw [take_turn_of_fresh hn]
    exact shifts_begin hfresh snippet
  -- what is the latest was written, and what was written had been taken
  case bounded =>
    intro id d hlatest
    have hlast := h.latest
    rw [hlatest, Option.map_some] at hlast
    obtain ⟨⟨n, _⟩, hn, rfl⟩ := List.mem_map.mp (List.mem_of_getLast? hlast.symm)
    exact h.le_sequence (h.own hn)
  case increasing => exact h.increasing
  case current =>
    rintro before m after rfl hne
    exact writes_of_latest_ne hne
  case overtaken =>
    rintro before after rfl
    exact sequence_le_of_written (run before) after
  case outcome => exact fun n id => h.outcome
  case own => exact fun w => h.own
  -- who is superseded wrote nothing, and at that turn another had taken a number
  case superseded =>
    intro n hn
    constructor
    · intro id hw
      have houtcome := h.outcome.mpr hw
      rw [hn] at houtcome
      cases houtcome
    · obtain ⟨before, after, id, rfl, hwaiting, hne⟩ := exists_turn_of_superseded ms hn
      have hbefore := tracked before
      have hle := hbefore.le_sequence (hbefore.waiting hwaiting)
      obtain ⟨k, hk⟩ := hbefore.mem_numbers_iff.mpr ⟨Nat.le_add_left 1 id, by omega⟩
      exact ⟨before, after, id, k, rfl, hbefore.waiting hwaiting, hk⟩
  case returned =>
    rintro before after n x rfl hn hdone
    rw [run, takeAll_append]
    exact takeAll_of_isDone hn hdone after

end ScriptDiagnosis.Session
