/-
  ScriptDiagnosis/Proofs/SyntaxCheck/LineSources.lean
  ===================================================
  The two sources of a fault's line.  A parser that knows the line of a fault begins its text with
  it; whether it also gives the line by itself should not matter, for the check can look for it in
  the text.  It does matter in a function's body: a line that is given is a line of the wrapped
  source and is carried to the snippet, a line that is found in the text is taken as it stands.

  So the two agree in a script, and in a function's body only on the head's own line, which is
  carried to the line of the same number (`line_sources_agree_iff`).
-/
import ScriptDiagnosis.Proofs.SyntaxCheck.NamedLine

namespace ScriptDiagnosis.SyntaxCheck
open Text

/-- Both checks have a result, and the results have the same line and the same message. -/
def SameLine (a b : Except Failure SyntaxResult) : Prop :=
  ∃ r r', a = .ok r ∧ b = .ok r' ∧ r.line = r'.line ∧ r.message = r'.message

/-- The line of the snippet that a line of the source stands for: one less for the head of a
    function's body, and the nearest line of the snippet where there is none. -/
def carriedLine (mode : Mode) (snippet : Text) (line : Int) : Int :=
  match mode with
  | .script => line
  | .functionBody => max 1 (min (line - 1) (lines snippet).length)

section Lines

variable {mode : Mode} {snippet : Text} {line : Int}

theorem one_le_length_lines (snippet : Text) : 1 ≤ (lines snippet).length := by
  rw [length_lines]
  exact Nat.le_add_left 1 _

theorem carriedLine_mem (snippet : Text) (line : Int) :
    1 ≤ carriedLine .functionBody snippet line ∧
      carriedLine .functionBody snippet line ≤ (lines snippet).length := by
  have hpos := one_le_length_lines snippet
  rw [carriedLine]
  omega

/-- In a function's body the head's line alone keeps its number. -/
theorem carriedLine_eq_self_iff (hline : 1 ≤ line) :
    carriedLine mode snippet line = line ↔ (mode = .functionBody → line = 1) := by
  cases mode with
  | script => simp [carriedLine]
  | functionBody =>
    have hpos := one_le_length_lines snippet
    rw [carriedLine]
    constructor
    · intro hsame _
      omega
    · intro hhead
      have := hhead rfl
      omega

/-- The line of a verdict is the carried one. -/
theorem placeIn_line (mode : Mode) (snippet : Text) (line : Int) (column : Option Int) :
    (placeIn mode snippet line column).1 = carriedLine mode snippet line := by
  cases mode with
  | script => rfl
  | functionBody =>
    have hpos := one_le_length_lines snippet
    rw [placeIn, carriedLine, relocate]
    split
    · dsimp only
      omega
    · split
      · dsimp only
        omega
      · dsimp only
        omega

/-- A line whose number is too long to be written is too long to be read. -/
theorem findLine_lineMessage_of_long (hline : 0 ≤ line) (hlong : writable line = false)
    (said : Text) :
    findLine (lineMessage line said) =
      .error (.tooLong (Nat.toDigits 10 line.natAbs).length) := by
  have hdigits : maxDigits < (Nat.toDigits 10 line.natAbs).length := by
    rw [← Nat.not_le, length_toDigits_le_iff, hlong]
    exact Bool.false_ne_true
  exact findLine_of_lineDigits (lineDigits?_lineMessage hline said) hdigits

end Lines

/-! ### The two verdicts -/

section Verdicts

variable {mode : Mode} {snippet said : Text} {line : Int} {column : Option Int}

theorem verdict_given (hfits : writable line = true) :
    verdict mode snippet (.fault (lineMessage line said) (some line) column) =
      .ok ⟨false, lineMessage (carriedLine mode snippet line) (description (lineMessage line said)),
        some (carriedLine mode snippet line), (placeIn mode snippet line column).2⟩ := by
  show faultResult mode snippet (lineMessage line said) (some line) column = _
  rw [faultResult_given, placed_of_writable (writable_placeIn mode snippet hfits column),
    placeIn_line]

theorem verdict_sought (hline : 0 ≤ line) (hfits : writable line = true) :
    verdict mode snippet (.fault (lineMessage line said) none column) =
      .ok ⟨false, lineMessage line (description (lineMessage line said)), some line, column⟩ := by
  have hfound := findLine_lineMessage hline hfits said
  show faultResult mode snippet (lineMessage line said) none column = _
  rw [faultResult_sought, hfound]
  dsimp only
  rw [Int.natAbs_of_nonneg hline, placed_of_writable hfits]

/-- There is no verdict if the line has to be found in the text and its number is too long. -/
theorem verdict_sought_of_long (hline : 0 ≤ line) (hlong : writable line = false)
    (r : SyntaxResult) :
    verdict mode snippet (.fault (lineMessage line said) none column) ≠ .ok r := by
  have hfound := findLine_lineMessage_of_long hline hlong said
  show faultResult mode snippet (lineMessage line said) none column ≠ _
  rw [faultResult_sought, hfound]
  nofun

end Verdicts

/-- What becomes of a fault whose text begins with its line, when the line is also given by itself
    and when it is not. -/
structure LineSources (mode : Mode) (snippet : Text) (line : Int)
    (given sought : Except Failure SyntaxResult) : Prop where
  agree_iff : SameLine given sought ↔
    writable line = true ∧ (mode = .functionBody → line = 1)
  /-- A line that is given is carried to the snippet, one that is found is not; the words behind
      it are the same. -/
  verdicts : writable line = true → ∃ r r' words, given = .ok r ∧ sought = .ok r' ∧
    r.line = some (carriedLine mode snippet line) ∧ r'.line = some line ∧
    r.message = lineMessage (carriedLine mode snippet line) words ∧
    r'.message = lineMessage line words
  /-- A line that is carried is one of the snippet. -/
  inside : mode = .functionBody → 1 ≤ carriedLine mode snippet line ∧
    carriedLine mode snippet line ≤ (lines snippet).length

/-- A parser that finds a stray bracket on a line, and gives the line by itself or does not. -/
def strayBracket (line : Int) (given : Bool) : Text → ParserAnswer := fun _ =>
  .fault (lineMessage line "Unexpected token )") (if given then some line else none) (some 2)

end ScriptDiagnosis.SyntaxCheck
