/-
  ScriptDiagnosis/Proofs/Text/Integers.lean
  =========================================
  Which whole numbers can be written.  It is a matter of size alone, and reading has the same limit
  as writing: a row of so many digits stands for a number below that power of ten, so whatever has
  been read can be written again (`writable_of_readInteger`).
-/
import Mathlib.Algebra.Group.Nat.Defs
import ScriptDiagnosis.Text.Integer

namespace ScriptDiagnosis.Text

/-! ### Numbers that can be written -/

theorem writable_of_le {m n : Int} (h : m.natAbs ≤ n.natAbs) (hn : writable n = true) :
    writable m = true := by
  unfold writable at hn ⊢
  exact decide_eq_true (Nat.lt_of_le_of_lt h (of_decide_eq_true hn))

theorem writable_of_lt_pow {n k : Nat} (h : n < 10 ^ k) (hk : k ≤ maxDigits) :
    writable n = true := by
  unfold writable
  generalize maxDigits = m at hk ⊢
  exact decide_eq_true (Nat.lt_of_lt_of_le h (Nat.pow_le_pow_right (by decide) hk))

theorem not_writable_of_le {n : Nat} (h : 10 ^ maxDigits ≤ n) : writable n = false := by
  unfold writable
  generalize maxDigits = m at h ⊢
  exact decide_eq_false (Nat.not_lt.mpr h)

/-! ### Numbers that have been read -/

theorem digitValue?_lt {c : Char} {d : Nat} (h : digitValue? c = some d) : d < 10 := by
  obtain ⟨r, _, rfl⟩ := Option.map_eq_some_iff.mp h
  exact Nat.mod_lt _ (by decide)

theorem foldl_lt_pow {f : Nat → Char → Nat} (hf : ∀ n c, f n c < (n + 1) * 10) (ds : Text)
    (n : Nat) : ds.foldl f n < (n + 1) * 10 ^ ds.length := by
  induction ds generalizing n with
  | nil => simp
  | cons c ds ih =>
    rw [List.foldl_cons, List.length_cons, Nat.pow_succ', ← Nat.mul_assoc]
    exact Nat.lt_of_lt_of_le (ih _) (Nat.mul_le_mul_right _ (hf n c))

/-- So many digits make less than that power of ten, whatever script they are in. -/
theorem digitsValue_lt (ds : Text) : digitsValue ds < 10 ^ ds.length := by
  have hstart : 10 ^ ds.length = (0 + 1) * 10 ^ ds.length := by rw [Nat.zero_add, Nat.one_mul]
  rw [digitsValue, hstart]
  refine foldl_lt_pow ?_ ds 0
  intro n c
  cases hd : digitValue? c with
  | none =>
    show n < (n + 1) * 10
    omega
  | some d =>
    have hlt := digitValue?_lt hd
    show 10 * n + d < (n + 1) * 10
    omega

/-- A number that has been read is no longer than what can be written. -/
theorem writable_of_readInteger {t : Text} {n : Int} (h : readInteger t = .ok n) :
    writable n = true := by
  rw [readInteger] at h
  dsimp only at h
  generalize digitRow false _ = row at h
  split at h
  · cases h
  · split at h
    · cases h
    · next hshort =>
      split at h
      · cases h
      · -- the sign makes no difference to the size
        have hvalue := writable_of_lt_pow (digitsValue_lt _) (Nat.le_of_not_lt hshort)
        cases h
        refine writable_of_le ?_ hvalue
        split <;> simp

end ScriptDiagnosis.Text
