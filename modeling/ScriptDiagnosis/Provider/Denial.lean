/-
  ScriptDiagnosis/Provider/Denial.lean
  ====================================
  Does a provider's error text say that the credential was refused?  It does if one of a few
  signals occurs in it, in any case.
-/
import ScriptDiagnosis.Text.Basic

namespace ScriptDiagnosis.Provider
open Text

/-- A character in lower case, so far as the result has an ASCII letter in it: the capital
    `I` with a dot gives an `i` and the dot, the Kelvin sign a `k`. -/
def lowerChar (c : Char) : Text :=
  if c.toNat = 0x130 then ['i', '\u0307']
  else if c.toNat = 0x212a then ['k']
  else [c.toLower]

def lowered (t : Text) : Text := t.flatMap lowerChar

/-- The texts that say the credential was refused. -/
def denialSignals : List Text :=
  ["403", "401", "forbidden", "permission", "authentication", "invalid api key",
   "invalid x-api-key"]

/-- Does the text carry a signal that the credential was refused? -/
def isDenial (t : Text) : Bool := denialSignals.any fun s => occurs s (lowered t)

end ScriptDiagnosis.Provider
