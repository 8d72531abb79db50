/-
  ScriptDiagnosis/Proofs/Provider/Signals.lean
  ============================================
  Where the signals of a denial can be found in a text that is put together.  Lower case is taken
  one character at a time, so a part keeps its place, and a signal that needs no lower case is found
  before and after alike (`showsDenial_of_status`).  No signal begins with a blank, and none holds a
  colon or a full stop: wording that ends in one of these makes no signal with what it is put
  around (`showsDenial_around`).
-/
import ScriptDiagnosis.Proofs.Provider.Incidents

namespace ScriptDiagnosis.Provider
open Text

instance (t : Text) : Decidable (ShowsDenial t) := decidable_of_iff _ isDenial_iff

/-! ### Lower case -/

theorem lowered_append (a b : Text) : lowered (a ++ b) = lowered a ++ lowered b :=
  List.flatMap_append

theorem lowered_cons (x : Char) (t : Text) : lowered (x :: t) = lowerChar x ++ lowered t :=
  List.flatMap_cons

theorem lowered_infix {part t : Text} (h : part <:+: t) : lowered part <:+: lowered t := by
  obtain ⟨before, behind, rfl⟩ := h
  refine ⟨lowered before, lowered behind, ?_⟩
  rw [lowered_append, lowered_append]

/-! ### Seams -/

/-- No signal holds the character, which is its own lower case. -/
structure IsForeign (x : Char) : Prop where
  lower : lowerChar x = [x]
  absent : ∀ signal ∈ denialSignals, x ∉ signal

theorem isForeign_colon : IsForeign ':' := ⟨by decide, by decide⟩

theorem isForeign_stop : IsForeign '.' := ⟨by decide, by decide⟩

/-- A character that is not in a part is not in an occurrence of it. -/
theorem infix_cons_of_not_mem {part t : Text} {x : Char} (hx : x ∉ part) :
    part <:+: x :: t ↔ part <:+: t := by
  rw [List.infix_cons_iff]
  constructor
  · rintro (hbegins | hwithin)
    · cases part with
      | nil => exact List.nil_infix
      | cons y part =>
        obtain ⟨rfl, -⟩ := List.cons_prefix_cons.mp hbegins
        exact absurd List.mem_cons_self hx
    · exact hwithin
  · intro hwithin
    exact .inr hwithin

theorem infix_around_iff {part a b : Text} {x : Char} (hx : x ∉ part) :
    part <:+: a ++ x :: b ↔ part <:+: a ∨ part <:+: b := by
  have hseam := occurs_append_of_head (a := a) (b := x :: b) hx rfl
  rw [Bool.eq_iff_iff, Bool.or_eq_true] at hseam
  simp only [occurs_iff] at hseam
  rw [hseam, infix_cons_of_not_mem hx]

/-- A signal stands on one side of a foreign character. -/
theorem showsDenial_around {x : Char} (hx : IsForeign x) (a b : Text) :
    ShowsDenial (a ++ x :: b) ↔ ShowsDenial a ∨ ShowsDenial b := by
  have hlowered : lowered (a ++ x :: b) = lowered a ++ x :: lowered b := by
    rw [lowered_append, lowered_cons, hx.lower, List.singleton_append]
  simp only [ShowsDenial, hlowered]
  constructor
  · rintro ⟨signal, hsignal, hfound⟩
    rcases (infix_around_iff (hx.absent signal hsignal)).mp hfound with ha | hb
    · exact .inl ⟨signal, hsignal, ha⟩
    · exact .inr ⟨signal, hsignal, hb⟩
  · rintro (⟨signal, hsignal, ha⟩ | ⟨signal, hsignal, hb⟩)
    · exact ⟨signal, hsignal, (infix_around_iff (hx.absent signal hsignal)).mpr (.inl ha)⟩
    · exact ⟨signal, hsignal, (infix_around_iff (hx.absent signal hsignal)).mpr (.inr hb)⟩

/-- No signal begins with a blank. -/
theorem showsDenial_blank (t : Text) : ShowsDenial (' ' :: t) ↔ ShowsDenial t := by
  have hheads : ∀ signal ∈ denialSignals, ¬ signal <+: ' ' :: lowered t := by
    intro signal hsignal hbegins
    have hhead : ∀ signal ∈ denialSignals, signal ≠ [] ∧ signal.head? ≠ some ' ' := by decide
    obtain ⟨hne, hblank⟩ := hhead signal hsignal
    cases signal with
    | nil => exact hne rfl
    | cons c rest =>
      obtain ⟨rfl, -⟩ := List.cons_prefix_cons.mp hbegins
      exact hblank rfl
  have hlowered : lowered (' ' :: t) = ' ' :: lowered t := rfl
  simp only [ShowsDenial, hlowered, List.infix_cons_iff]
  constructor
  · rintro ⟨signal, hsignal, hbegins | hwithin⟩
    · exact absurd hbegins (hheads signal hsignal)
    · exact ⟨signal, hsignal, hwithin⟩
  · rintro ⟨signal, hsignal, hwithin⟩
    exact ⟨signal, hsignal, .inr hwithin⟩

/-- The provider's status in a text is a signal; lower case does not hide it. -/
theorem showsDenial_of_status {t : Text} (h : occurs "403" t = true) : ShowsDenial t := by
  refine ⟨"403".toList, by decide, ?_⟩
  exact lowered_infix (occurs_iff.mp h)

end ScriptDiagnosis.Provider
