/-
  ScriptDiagnosis/Proofs/SyntaxCheck/Verdicts.lean
  ================================================
  What the check says for each answer of the parser, without its steps.  Every verdict on a fault
  with a known line is one of `placed`; a fault with a line of its own is carried to the snippet
  first (`faultResult_given`), a fault without one is placed by its text (`faultResult_sought`).
-/
import Mathlib.Algebra.Group.Nat.Defs
import ScriptDiagnosis.Proofs.Text.Integers
import ScriptDiagnosis.Proofs.Text.Lines
import ScriptDiagnosis.SyntaxCheck.Check

namespace ScriptDiagnosis.SyntaxCheck
open Text

/-- What is said of a fault, without the line that stands in front of its text. -/
def description (text : Text) : Text :=
  if (dropLinePrefix text).isEmpty then unknownMessage else dropLinePrefix text

/-- The verdict that a snippet is faulty at a place.  There is one only if the number of the line
    can be written. -/
def placed (description : Text) (line : Int) (column : Option Int) : Except Failure SyntaxResult :=
  if writable line then .ok ⟨false, lineMessage line description, some line, column⟩
  else .error .unwritable

theorem placed_of_writable {line : Int} (h : writable line = true) (description : Text)
    (column : Option Int) :
    placed description line column =
      .ok ⟨false, lineMessage line description, some line, column⟩ := by
  rw [placed, if_pos h]

theorem placed_of_not_writable {line : Int} (h : writable line = false) (description : Text)
    (column : Option Int) : placed description line column = .error .unwritable := by
  rw [placed, if_neg (by simp [h])]

-- From here on the bound is a number that nobody computes.
attribute [local irreducible] writable

/-! ### Carrying a line to the snippet -/

theorem relocate_inside {n last line : Nat} (hpos : 1 ≤ line) (hle : line ≤ n)
    (column : Option Int) : relocate n last (line + 1) column = ((line : Int), column) := by
  simp only [relocate]
  rw [if_neg (by omega), if_neg (by omega), Int.add_sub_cancel]

theorem relocate_behind {n last : Nat} {line : Int} (h : (n : Int) + 1 < line)
    (column : Option Int) :
    relocate n last line column = ((n : Int), some ((last : Int) + 1)) := by
  simp only [relocate]
  rw [if_pos (by omega)]

theorem relocate_before {n last : Nat} {line : Int} (h : line ≤ 1) (column : Option Int) :
    relocate n last line column = (1, none) := by
  simp only [relocate]
  rw [if_neg (by omega), if_pos (by omega)]

/-- The line is never outside the snippet, whatever line the parser gives. -/
theorem relocate_line {n : Nat} (hn : 1 ≤ n) (last : Nat) (line : Int) (column : Option Int) :
    1 ≤ (relocate n last line column).1 ∧ (relocate n last line column).1 ≤ n := by
  rcases Int.lt_or_le (n + 1) line with hbehind | hle
  · rw [relocate_behind hbehind]
    exact ⟨by omega, Int.le_refl _⟩
  · rcases Int.lt_or_le 1 line with hinside | hbefore
    · have hnonneg : 0 ≤ line - 1 := by omega
      obtain ⟨k, hk⟩ := Int.eq_ofNat_of_zero_le hnonneg
      have hline : line = (k : Int) + 1 := by omega
      have hpos : 1 ≤ k := by omega
      have hle' : k ≤ n := by omega
      rw [hline, relocate_inside hpos hle']
      exact ⟨by omega, by omega⟩
    · rw [relocate_before hbefore]
      exact ⟨Int.le_refl _, by omega⟩

/-- Nor is it above the line that the parser gives, if that is one of the snippet or behind it. -/
theorem relocate_line_le (n last : Nat) {line : Int} (h : 1 < line)
    (column : Option Int) : (relocate n last line column).1 ≤ line := by
  simp only [relocate]
  split
  · omega
  · rw [if_neg (by omega)]
    show line - 1 ≤ line
    omega

/-- The place of a fault in the snippet, from the place that the parser gives. -/
def placeIn (mode : Mode) (snippet : Text) (line : Int) (column : Option Int) :
    Int × Option Int :=
  match mode with
  | .script => (line, column)
  | .functionBody => relocate (lines snippet).length (lastLine snippet).length line column

/-- A line that can be written can be written when it has been carried over. -/
theorem writable_placeIn (mode : Mode) (snippet : Text) {line : Int} (h : writable line = true)
    (column : Option Int) : writable (placeIn mode snippet line column).1 = true := by
  cases mode with
  | script => exact h
  | functionBody =>
    have hpos : 1 ≤ (lines snippet).length := by
      rw [length_lines]
      exact Nat.le_add_left 1 _
    obtain ⟨hone, _⟩ := relocate_line hpos (lastLine snippet).length line column
    rcases Int.lt_or_le 1 line with hbelow | hfirst
    · have hle := relocate_line_le (lines snippet).length (lastLine snippet).length hbelow column
      refine writable_of_le ?_ h
      show (relocate (lines snippet).length (lastLine snippet).length line column).1.natAbs ≤ _
      omega
    · show writable (relocate (lines snippet).length (lastLine snippet).length line column).1 = true
      rw [relocate_before hfirst]
      decide +kernel

/-! ### The line that a text refers to -/

theorem findLine_of_lineDigits {text ds : Text} (h : lineDigits? text = some ds)
    (hlong : maxDigits < ds.length) : findLine text = .error (.tooLong ds.length) := by
  rw [findLine, h]
  show (readDigits ds).map some = _
  rw [readDigits, if_pos hlong]
  rfl

/-- A number that is found can be written again. -/
theorem findLine_of_short {text : Text}
    (h : ∀ ds, lineDigits? text = some ds → ds.length ≤ maxDigits) :
    findLine text = .ok none ∨ ∃ n : Nat, findLine text = .ok (some n) ∧ writable n = true := by
  rw [findLine]
  cases hdigits : lineDigits? text with
  | none => exact .inl rfl
  | some ds =>
    have hshort := h ds hdigits
    refine .inr ⟨digitsValue ds, ?_, writable_of_lt_pow (digitsValue_lt ds) hshort⟩
    show (readDigits ds).map some = _
    rw [readDigits, if_neg (Nat.not_lt.mpr hshort)]
    rfl

/-! ### The verdicts -/

theorem faultResult_given (mode : Mode) (snippet text : Text) (line : Int) (column : Option Int) :
    faultResult mode snippet text (some line) column =
      placed (description text) (placeIn mode snippet line column).1
        (placeIn mode snippet line column).2 := by
  cases mode with
  | script =>
    unfold faultResult placed placeIn
    dsimp only [bind, Except.bind, pure, Except.pure]
    cases writable line <;> rfl
  | functionBody =>
    unfold faultResult placed placeIn lastLine
    dsimp only [bind, Except.bind, pure, Except.pure]
    generalize relocate _ _ line column = place
    cases writable place.1 <;> rfl

/-- Without a line of its own, a fault gets the one that its text names, if there is one. -/
theorem faultResult_sought (mode : Mode) (snippet text : Text) (column : Option Int) :
    faultResult mode snippet text none column =
      match findLine text with
      | .error f => .error (IntegerFault.failure f)
      | .ok none => .ok ⟨false, description text, none, column⟩
      | .ok (some n) => placed (description text) n column := by
  have hplace : faultResult mode snippet text none column =
      faultResult .script snippet text none column := by
    cases mode <;> rfl
  rw [hplace]
  unfold faultResult placed
  cases hfind : findLine text with
  | error f => rfl
  | ok n =>
    cases n with
    | none => rfl
    | some n =>
      dsimp only [bind, Except.bind, pure, Except.pure, Option.map]
      cases writable n <;> rfl

def strayBrace : Text := "Unexpected token \x7d"

theorem earlyEnd_cons (p : Place) (ps : List Place) :
    earlyEnd (p :: ps) = placed strayBrace (max (p.line - 1) 1) (some p.column) := by
  unfold earlyEnd placed
  dsimp only
  cases writable (max (p.line - 1) 1) <;> rfl

end ScriptDiagnosis.SyntaxCheck
