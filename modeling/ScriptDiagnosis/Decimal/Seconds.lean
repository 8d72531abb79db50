/-
  ScriptDiagnosis/Decimal/Seconds.lean
  ====================================
  A length of time in seconds.  It is kept as it was given: as a number in floating point, or
  as a whole number of any size.  The two differ in what doubling does to them.  A number in
  floating point is multiplied by another one, so the power of two has to be one as well,
  which the power 1024 no longer is.  A whole number has every double there is, and comes to
  floating point only to be shown.
-/
import ScriptDiagnosis.Decimal.Places

namespace ScriptDiagnosis

namespace Binary64

/-- The number nearest to a natural number with a sign: with more binary digits than there is
    room for, the last ones are rounded away. -/
def ofNat (negative : Bool) (n : Nat) : Binary64 :=
  let excess := n.log2 + 1 - precision
  let mantissa := Decimal.roundHalfEven n (Nat.pow 2 excess)
  -- rounding up can carry into one more digit, which is a zero then
  if mantissa = Nat.pow 2 precision then ofParts negative (mantissa / 2) (excess + 1)
  else ofParts negative mantissa excess

end Binary64

inductive Seconds
  | float (x : Binary64)
  | whole (n : Int)
  deriving DecidableEq, Repr

namespace Seconds

def isBelowZero : Seconds → Bool
  | float x => x.isBelowZero
  | whole n => decide (n < 0)

/-- So many seconds, doubled again and again. -/
def scale (k : Nat) : Seconds → Seconds
  | float x => float (x.scale k)
  | whole n => whole (n * Nat.pow 2 k)

/-- The first power of two that is no number in floating point. -/
def leastOverflow : Nat := 1024

/-- Can it be multiplied by a power of two? -/
def scalable (k : Nat) : Seconds → Bool
  | float _ => decide (k < leastOverflow)
  | whole _ => true

/-- The least natural number that is rounded to `2 ^ 1024`, for which floating point has no
    room any more. -/
def wholeLimit : Nat := Nat.pow 2 1024 - Nat.pow 2 970

/-- Can it be shown with decimal places? -/
def showable : Seconds → Bool
  | float _ => true
  | whole n => decide (n.natAbs < wholeLimit)

def toBinary64 : Seconds → Binary64
  | float x => x
  | whole n => .ofNat (decide (n < 0)) n.natAbs

end Seconds
end ScriptDiagnosis
