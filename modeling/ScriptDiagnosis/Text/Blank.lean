/-
  ScriptDiagnosis/Text/Blank.lean
  ===============================
  Which code points count as white space in replies and snippets, and what is
  left of a text when the white space around it is taken away.  Scripts have a
  set of their own (`Script/Source.lean`).
-/
import ScriptDiagnosis.Text.Basic

namespace ScriptDiagnosis.Text

/-- White space: the separators of every script and the control characters that
    end or advance a line.  No zero-width character is among them. -/
def isBlank (c : Char) : Bool :=
  let n := c.toNat
  (0x09 ≤ n && n ≤ 0x0d) || (0x1c ≤ n && n ≤ 0x20) || n = 0x85 || n = 0xa0 || n = 0x1680 ||
  (0x2000 ≤ n && n ≤ 0x200a) || n = 0x2028 || n = 0x2029 || n = 0x202f || n = 0x205f ||
  n = 0x3000

/-- The text from its first character that fails the test. -/
def dropLeading (p : Char → Bool) (t : Text) : Text := t.dropWhile p

/-- The text up to its last character that fails the test. -/
def dropTrailing (p : Char → Bool) (t : Text) : Text := (t.reverse.dropWhile p).reverse

/-- The text without the white space around it. -/
def trim (t : Text) : Text := dropTrailing isBlank (dropLeading isBlank t)

/-- Does the text hold nothing but white space? -/
def isBlankText (t : Text) : Bool := t.all isBlank

end ScriptDiagnosis.Text
