/-
  ScriptDiagnosis/Decimal/Binary64.lean
  =====================================
  Binary floating point of 64 bits, as exact numbers: a finite one is a sign and a mantissa
  times a power of two.  A mantissa has at most 53 binary digits and the exponent is at
  least -1074; with these limits each number is kept with the smallest exponent that it can
  have, so that equal numbers of one sign are equal values.
-/

namespace ScriptDiagnosis

inductive Binary64
  /-- The number `mantissa * 2 ^ exponent`, with its sign. -/
  | finite (negative : Bool) (mantissa : Nat) (exponent : Int)
  | infinite (negative : Bool)
  | notANumber
  deriving DecidableEq, Repr

namespace Binary64

/-- The binary digits of a mantissa. -/
def precision : Nat := 53

def leastExponent : Int := -1074

def mostExponent : Int := 971

/-- The number with a mantissa of at most 53 binary digits and an exponent that is not too
    small.  What is too large becomes infinite. -/
def ofParts (negative : Bool) (mantissa : Nat) (exponent : Int) : Binary64 :=
  if mantissa = 0 then finite negative 0 leastExponent
  else
    let shift := min (precision - 1 - mantissa.log2) (exponent - leastExponent).toNat
    let exponent := exponent - shift
    if exponent > mostExponent then infinite negative
    else finite negative (mantissa * Nat.pow 2 shift) exponent

/-- The number that a word of 64 bits stands for. -/
def ofWord (w : Nat) : Binary64 :=
  let negative : Bool := w / Nat.pow 2 63 % 2 = 1
  let exponent : Nat := w / Nat.pow 2 52 % Nat.pow 2 11
  let fraction : Nat := w % Nat.pow 2 52
  if exponent = 2047 then if fraction = 0 then infinite negative else notANumber
  else if exponent = 0 then finite negative fraction leastExponent
  else finite negative (Nat.pow 2 52 + fraction) ((exponent : Int) - 1075)

/-- The number times a power of two.  This is exact, unless the product is too large. -/
def scale (k : Nat) : Binary64 → Binary64
  | finite negative mantissa exponent => ofParts negative mantissa (exponent + k)
  | x => x

/-- Is the number less than zero?  A zero is not, whatever its sign. -/
def isBelowZero : Binary64 → Bool
  | finite negative mantissa _ => negative && mantissa != 0
  | infinite negative => negative
  | notANumber => false

def half : Binary64 := ofParts false 1 (-1)

/-- A fraction of natural numbers that is the number without its sign. -/
def fraction (mantissa : Nat) (exponent : Int) : Nat × Nat :=
  let power := Nat.pow 2 exponent.natAbs
  if exponent < 0 then (mantissa, power) else (mantissa * power, 1)

end Binary64
end ScriptDiagnosis
