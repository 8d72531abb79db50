/-
  ScriptDiagnosis/Proofs/Json/Members.lean
  ========================================
  Asking an object for a member.  Members may repeat; the one that counts is the last of its name
  (`lastOf_eq_some_iff`), and where a name stands once, its place does not matter.
-/
import ScriptDiagnosis.Json.Basic

namespace ScriptDiagnosis.Json

variable {name : Text} {ms : List (Text × Json)} {v : Json}

/-- A member gives way to any later one of its name. -/
theorem lastOf_cons (m : Text × Json) :
    lastOf name (m :: ms) = (lastOf name ms).or (if m.1 = name then some m.2 else none) := by
  have hfold : ∀ (ms : List (Text × Json)) (found : Option Json),
      ms.foldl (fun found m => if m.1 = name then some m.2 else found) found =
        (lastOf name ms).or found := by
    intro ms
    induction ms with
    | nil => intro found; rfl
    | cons m ms ih =>
      intro found
      rw [lastOf, List.foldl_cons, List.foldl_cons, ih, ih, Option.or_assoc]
      by_cases hm : m.1 = name
      · rw [if_pos hm, if_pos hm]; rfl
      · rw [if_neg hm, if_neg hm]; rfl
  exact hfold ms _

theorem lastOf_eq_none_iff : lastOf name ms = none ↔ ∀ m ∈ ms, m.1 ≠ name := by
  induction ms with
  | nil => simp [lastOf]
  | cons m ms ih =>
    rw [lastOf_cons, Option.or_eq_none_iff, ih, List.forall_mem_cons, and_comm]
    simp

/-- The last member of a name is one behind which the name does not occur. -/
theorem lastOf_eq_some_iff : lastOf name ms = some v ↔
    ∃ before after, ms = before ++ (name, v) :: after ∧ ∀ m ∈ after, m.1 ≠ name := by
  constructor
  · intro h
    induction ms with
    | nil => cases h
    | cons m ms ih =>
      rw [lastOf_cons, Option.or_eq_some_iff] at h
      rcases h with h | ⟨hnone, h⟩
      · obtain ⟨before, after, rfl, hafter⟩ := ih h
        exact ⟨m :: before, after, rfl, hafter⟩
      · split at h
        · next hm =>
          cases h
          exact ⟨[], ms, by rw [← hm]; rfl, lastOf_eq_none_iff.mp hnone⟩
        · cases h
  · rintro ⟨before, after, rfl, hafter⟩
    induction before with
    | nil => rw [List.nil_append, lastOf_cons, lastOf_eq_none_iff.mpr hafter, if_pos rfl]; rfl
    | cons m before ih => rw [List.cons_append, lastOf_cons, ih]; rfl

theorem lastOf_eq_some_of_unique (hmem : (name, v) ∈ ms)
    (hunique : ∀ w, (name, w) ∈ ms → w = v) : lastOf name ms = some v := by
  cases hlast : lastOf name ms with
  | none => exact absurd rfl (lastOf_eq_none_iff.mp hlast _ hmem)
  | some w =>
    obtain ⟨before, after, hms, _⟩ := lastOf_eq_some_iff.mp hlast
    rw [hunique w (by rw [hms]; simp)]

end ScriptDiagnosis.Json
