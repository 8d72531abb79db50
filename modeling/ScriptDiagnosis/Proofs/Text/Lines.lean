/-
  ScriptDiagnosis/Proofs/Text/Lines.lean
  ======================================
  The lines of a text: one more than it has line feeds (`length_lines`).  What is put in front of
  a text changes its last line only if the text is a single line.
-/
import Mathlib.Data.List.Count
import ScriptDiagnosis.Text.Basic

namespace ScriptDiagnosis.Text

theorem lines_feed (t : Text) : lines ('\n' :: t) = [] :: lines t := by
  rw [lines, if_pos rfl]

theorem lines_cons {c : Char} (hc : c ≠ '\n') (t : Text) :
    lines (c :: t) = (lines t).modifyHead (c :: ·) := by
  rw [lines, if_neg hc]
  cases hlines : lines t with
  | nil => exact absurd hlines (lines_ne_nil t)
  | cons l ls => rfl

theorem length_lines (t : Text) : (lines t).length = t.count '\n' + 1 := by
  induction t with
  | nil => rfl
  | cons c t ih =>
    by_cases hc : c = '\n'
    · subst hc
      simp [lines_feed, ih]
    · simp [lines_cons hc, ih, hc]

theorem lines_of_not_mem {t : Text} (h : '\n' ∉ t) : lines t = [t] := by
  induction t with
  | nil => rfl
  | cons c t ih =>
    have hc : c ≠ '\n' := by
      rintro rfl
      exact h (.head _)
    rw [lines_cons hc, ih fun hmem => h (.tail _ hmem)]
    rfl

/-- What stands behind the last line feed of a text. -/
def lastLine (t : Text) : Text := (lines t).getLastD []

theorem lastLine_of_not_mem {t : Text} (h : '\n' ∉ t) : lastLine t = t := by
  rw [lastLine, lines_of_not_mem h]
  rfl

theorem lastLine_feed (t : Text) : lastLine ('\n' :: t) = lastLine t := by
  rw [lastLine, lines_feed, lastLine]
  cases hlines : lines t with
  | nil => exact absurd hlines (lines_ne_nil t)
  | cons l ls => rfl

/-- What stands before a line feed is not seen in the last line. -/
theorem lastLine_cons {c : Char} {t : Text} (hc : c ≠ '\n') (h : '\n' ∈ t) :
    lastLine (c :: t) = lastLine t := by
  have hcount : 0 < t.count '\n' := List.count_pos_iff.mpr h
  have hlength := length_lines t
  rw [lastLine, lines_cons hc, lastLine]
  match hlines : lines t with
  | [] => exact absurd hlines (lines_ne_nil t)
  | [_] =>
    rw [hlines, List.length_singleton] at hlength
    omega
  | _ :: _ :: _ => rfl

end ScriptDiagnosis.Text
