/-
  ScriptDiagnosis/Suggestion/Marker.lean
  ======================================
  Markers such as `Line 12:` in a reviewer's suggestion.  A marker is the word `line`, white
  space, digits, and then a run of colons and white space; each of the three runs is as
  long as it can be.  A marker is normalized to a label, `Line 12`.
-/
import ScriptDiagnosis.Failure
import ScriptDiagnosis.Text.Blank
import ScriptDiagnosis.Text.DecimalDigit
import ScriptDiagnosis.Text.LineWord

namespace ScriptDiagnosis.Suggestion
open Text

/-- What may stand between a marker's digits and the content behind it. -/
def isMarkerTail (c : Char) : Bool := c = ':' || isBlank c

/-- A marker, in its four parts. -/
structure Marker where
  word : Text
  gap : Text
  digits : Text
  tail : Text
  deriving DecidableEq, Repr

def Marker.text (m : Marker) : Text := m.word ++ m.gap ++ m.digits ++ m.tail

/-- The marker that a text begins with, and what follows it. -/
def marker? (t : Text) : Option (Marker × Text) :=
  match afterLineWord? t with
  | none => none
  | some afterWord =>
    let gap := afterWord.takeWhile isBlank
    let afterGap := afterWord.dropWhile isBlank
    let digits := afterGap.takeWhile isDigit
    let afterDigits := afterGap.dropWhile isDigit
    let tail := afterDigits.takeWhile isMarkerTail
    if gap.isEmpty || digits.isEmpty || tail.isEmpty then none
    else some (⟨t.take 4, gap, digits, tail⟩, afterDigits.dropWhile isMarkerTail)

theorem afterLineWord?_length {t rest : Text} (h : afterLineWord? t = some rest) :
    rest.length + 4 = t.length := by
  match t with
  | [] | [_] | [_, _] | [_, _, _] => simp [afterLineWord?] at h
  | l :: i :: n :: e :: r =>
    simp only [afterLineWord?] at h
    split at h
    · cases h; rfl
    · cases h

theorem length_dropWhile_le (p : Char → Bool) (t : Text) : (t.dropWhile p).length ≤ t.length :=
  (List.dropWhile_sublist p).length_le

theorem marker?_length {t rest : Text} {m : Marker} (h : marker? t = some (m, rest)) :
    rest.length < t.length := by
  unfold marker? at h
  split at h
  · cases h
  · next afterWord hw =>
    dsimp only at h
    split at h
    · cases h
    · cases h
      have := afterLineWord?_length hw
      have h₁ := length_dropWhile_le isBlank afterWord
      have h₂ := length_dropWhile_le isDigit (afterWord.dropWhile isBlank)
      have h₃ := length_dropWhile_le isMarkerTail
        ((afterWord.dropWhile isBlank).dropWhile isDigit)
      omega

/-- The label of a marker: what stands behind its first white space, without colons and
    white space at the end.  A text without such a part has no label. -/
def canonicalLabel (marker : Text) : Option Text :=
  let label := dropTrailing isMarkerTail (trim marker)
  match label.dropWhile fun c => !isBlank c with
  | [] => none
  | number => some (("Line " : Text) ++ number.dropWhile isBlank)

/-- The failure of a text that has no label. -/
def noLabel : Failure := ⟨.index, "list index out of range", none⟩

end ScriptDiagnosis.Suggestion
