/-
  ScriptDiagnosis/Text/Hexadecimal.lean
  =====================================
  Hexadecimal digits, read in either case and written in lower case, and the character
  that a code stands for.
-/
import ScriptDiagnosis.Text.Basic

namespace ScriptDiagnosis.Text

def hexValue? (c : Char) : Option Nat :=
  if '0' ≤ c && c ≤ '9' then some (c.toNat - 0x30)
  else if 'a' ≤ c && c ≤ 'f' then some (c.toNat - 0x57)
  else if 'A' ≤ c && c ≤ 'F' then some (c.toNat - 0x37)
  else none

def isHexDigit (c : Char) : Bool := (hexValue? c).isSome

def hexDigit (n : Nat) : Char :=
  if n < 10 then Char.ofNat (0x30 + n) else Char.ofNat (0x57 + n)

/-- A number in a given count of digits; higher digits are left out. -/
def hex : Nat → Nat → Text
  | 0, _ => []
  | digits + 1, n => hex digits (n / 16) ++ [hexDigit (n % 16)]

def hexNumber (ds : Text) : Nat := ds.foldl (fun n c => 16 * n + (hexValue? c).getD 0) 0

/-- The character with a code; half of a surrogate pair shows as U+FFFD. -/
def charOfCode (n : Nat) : Char := if n.isValidChar then Char.ofNat n else '\ufffd'

end ScriptDiagnosis.Text
