/-
  ScriptDiagnosis/Proofs/Text/Occurrence.lean
  ===========================================
  Where a part can occur in a text that is put together from pieces.  `occurs` is the relation
  of being an infix, and an infix cannot reach across a character that it does not hold.  So
  in a worded message a row of digits is found in the wording or in one of the numbers, never
  across the seam between them (`occurs_around`).
-/
import ScriptDiagnosis.Text.Basic

namespace ScriptDiagnosis.Text

theorem occurs_iff {part t : Text} : occurs part t = true ↔ part <:+: t := by
  induction t with
  | nil => simp [occurs]
  | cons c rest ih =>
    simp only [occurs, Bool.or_eq_true, List.isPrefixOf_iff_prefix, ih]
    exact List.infix_cons_iff.symm

theorem occurs_eq_or {part a b t : Text}
    (h : part <:+: t ↔ part <:+: a ∨ part <:+: b) :
    occurs part t = (occurs part a || occurs part b) := by
  rw [Bool.eq_iff_iff, Bool.or_eq_true]
  simp only [occurs_iff]
  exact h

/-- A piece that ends in a foreign character shares no occurrence with the next. -/
theorem occurs_append_of_last {part a b : Text} {x : Char} (hx : x ∉ part)
    (ha : a.getLast? = some x) : occurs part (a ++ b) = (occurs part a || occurs part b) := by
  apply occurs_eq_or
  rw [List.infix_append_iff]
  constructor
  · rintro (h | h | ⟨l, r, rfl, hl, hr⟩)
    · exact .inl h
    · exact .inr h
    · rcases List.eq_nil_or_concat l with rfl | ⟨l, y, rfl⟩
      · exact .inr hr.isInfix
      · -- the part's last character on this side would be the foreign one
        obtain ⟨t, rfl⟩ := hl
        rw [List.concat_eq_append, ← List.append_assoc, List.getLast?_concat] at ha
        cases ha
        exact absurd (by simp) hx
  · rintro (h | h)
    · exact .inl h
    · exact .inr (.inl h)

/-- The same where it is the second text that begins with a foreign character. -/
theorem occurs_append_of_head {part a b : Text} {x : Char} (hx : x ∉ part)
    (hb : b.head? = some x) : occurs part (a ++ b) = (occurs part a || occurs part b) := by
  apply occurs_eq_or
  rw [List.infix_append_iff]
  constructor
  · rintro (h | h | ⟨l, r, rfl, hl, hr⟩)
    · exact .inl h
    · exact .inr h
    · cases r with
      | nil => exact .inl (by rw [List.append_nil]; exact hl.isInfix)
      | cons y r =>
        obtain ⟨t, rfl⟩ := hr
        cases hb
        exact absurd (by simp) hx
  · rintro (h | h)
    · exact .inl h
    · exact .inr (.inl h)

/-- A wording that begins and ends in foreign characters keeps what it joins apart. -/
theorem occurs_around {part a wording b : Text} {x y : Char} (hx : x ∉ part) (hy : y ∉ part)
    (hhead : wording.head? = some x) (hlast : wording.getLast? = some y) :
    occurs part (a ++ wording ++ b) =
      (occurs part a || occurs part wording || occurs part b) := by
  have hjoined : (a ++ wording).getLast? = some y := by
    rw [List.getLast?_append, hlast, Option.some_or]
  rw [occurs_append_of_last hy hjoined, occurs_append_of_head hx hhead]

end ScriptDiagnosis.Text
