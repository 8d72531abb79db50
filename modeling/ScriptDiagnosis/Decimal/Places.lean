/-
  ScriptDiagnosis/Decimal/Places.lean
  ===================================
  A number with a fixed count of decimal places.  The exact value is rounded to the nearest
  multiple of the last place, and a tie goes to the even one.
-/
import ScriptDiagnosis.Decimal.Binary64
import ScriptDiagnosis.Text.Basic

namespace ScriptDiagnosis.Decimal
open Text

/-- The whole number nearest to a fraction; of two, the even one. -/
def roundHalfEven (num den : Nat) : Nat :=
  let q := num / den
  let r := num % den
  if 2 * r > den || (2 * r = den && q % 2 = 1) then q + 1 else q

def padZeros (width : Nat) (t : Text) : Text := List.replicate (width - t.length) '0' ++ t

/-- A number of units of the last place, written with the point. -/
def writePlaces (places units : Nat) : Text :=
  let ds := padZeros (places + 1) (ofNat units)
  let whole := ds.take (ds.length - places)
  if places = 0 then whole else whole ++ '.' :: ds.drop (ds.length - places)

def fixed (places : Nat) : Binary64 → Text
  | .finite negative mantissa exponent =>
    let (num, den) := Binary64.fraction mantissa exponent
    let units := roundHalfEven (num * Nat.pow 10 places) den
    (if negative then ['-'] else []) ++ writePlaces places units
  | .infinite negative => if negative then "-inf" else "inf"
  | .notANumber => "nan"

end ScriptDiagnosis.Decimal
