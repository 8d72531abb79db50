/-
  ScriptDiagnosis/Text/LineWord.lean
  ==================================
  The word `line`, which announces a line number in a parser's message and in a reviewer's
  suggestion alike.  It is read in any case, and an `i` without its dot or a capital one
  with it counts as an `i`.
-/
import ScriptDiagnosis.Text.Basic

namespace ScriptDiagnosis.Text

/-- Is it an `i`, in either case, with or without its dot? -/
def isAnyI (c : Char) : Bool := c = 'i' || c = 'I' || c.toNat = 0x130 || c.toNat = 0x131

/-- Do the four characters spell the word? -/
def isLineWord (l i n e : Char) : Bool :=
  (l = 'l' || l = 'L') && isAnyI i && (n = 'n' || n = 'N') && (e = 'e' || e = 'E')

/-- What follows the word, if the text begins with it. -/
def afterLineWord? : Text → Option Text
  | l :: i :: n :: e :: rest => if isLineWord l i n e then some rest else none
  | _ => none

end ScriptDiagnosis.Text
