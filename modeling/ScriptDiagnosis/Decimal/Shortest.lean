/-
  ScriptDiagnosis/Decimal/Shortest.lean
  =====================================
  The fewest decimal digits that read back as a number.  Every decimal in the interval
  around a number reads back as it; the interval reaches half way to the two neighbours, and
  its ends belong to it when the mantissa is even.  For one digit, two digits and so on the
  number's two neighbours on that decimal grid are tried, and the first grid with one in
  the interval wins; of two, the nearer.
-/
import ScriptDiagnosis.Decimal.Places
import ScriptDiagnosis.Text.Blank

namespace ScriptDiagnosis.Decimal
open Text

/-! ### The digits -/

/-- A positive number with the ends of the interval that reads back as it, all three over
    one denominator. -/
structure Interval where
  low : Nat
  value : Nat
  high : Nat
  den : Nat
  /-- Do the ends belong to it? -/
  closed : Bool
  deriving Repr

def Interval.of (mantissa : Nat) (exponent : Int) : Interval :=
  let narrow := mantissa = Nat.pow 2 52 ∧ exponent ≠ Binary64.leastExponent
  let (unit, den) := Binary64.fraction 1 (exponent - 2)
  { low := (4 * mantissa - if narrow then 1 else 2) * unit
    value := 4 * mantissa * unit
    high := (4 * mantissa + 2) * unit
    den := den
    closed := mantissa % 2 = 0 }

def Interval.shift (i : Interval) (k : Int) : Interval :=
  let power := Nat.pow 10 k.natAbs
  if k < 0 then { i with den := i.den * power }
  else { i with low := i.low * power, value := i.value * power, high := i.high * power }

/-- Does a whole number lie in the interval? -/
def Interval.holds (i : Interval) (n : Nat) : Bool :=
  if i.closed then i.low ≤ n * i.den && n * i.den ≤ i.high
  else i.low < n * i.den && n * i.den < i.high

/-- The whole number in the interval that is nearest to its value, if one of the two next to
    the value is in it. -/
def Interval.nearest? (i : Interval) : Option Nat :=
  let below := i.value / i.den
  match i.holds below, i.holds (below + 1) with
  | true, true => some (roundHalfEven i.value i.den)
  | true, false => some below
  | false, true => some (below + 1)
  | false, false => none

/-- Digits behind a decimal point, and the power of ten that they are multiplied by. -/
structure Digits where
  digits : Text
  point : Int
  deriving DecidableEq, Repr

/-- A number below one, times this power of ten, is at least one. -/
def reach : Nat := 400

/-- Where the decimal point stands, counted from the first digit. -/
def pointOf (i : Interval) : Int :=
  ((ofNat (i.value * Nat.pow 10 reach / i.den)).length : Int) - reach

/-- The first grid, from `count` digits on, that has a point in the interval; `left` grids
    more are tried. -/
def firstGrid (i : Interval) (point : Int) : Nat → Nat → Digits
  | 0, count =>
    let j := i.shift (count - point)
    ⟨ofNat (roundHalfEven j.value j.den), point⟩
  | left + 1, count =>
    match (i.shift (count - point)).nearest? with
    | some n =>
      let ds := ofNat n
      ⟨dropTrailing (· = '0') ds, point + (ds.length - count)⟩
    | none => firstGrid i point left (count + 1)

/-- The digits that always suffice. -/
def enough : Nat := 17

def shortestDigits (mantissa : Nat) (exponent : Int) : Digits :=
  let i := Interval.of mantissa exponent
  firstGrid i (pointOf i) (enough - 1) 1

/-! ### Their layout -/

/-- How digits are laid out: which exponents are written as positions, and the least number
    of digits that an exponent is written with. -/
structure Layout where
  lowest : Int
  limit : Int
  exponentDigits : Nat
  deriving DecidableEq, Repr

/-- Digits with the point among them; a whole number ends in `.0`. -/
def positional (d : Digits) : Text :=
  if d.point ≤ 0 then ("0." : Text) ++ List.replicate d.point.natAbs '0' ++ d.digits
  else
    let whole := d.point.natAbs
    if d.digits.length ≤ whole then
      d.digits ++ List.replicate (whole - d.digits.length) '0' ++ ".0"
    else d.digits.take whole ++ '.' :: d.digits.drop whole

/-- Digits with the point behind the first, and an exponent. -/
def scientific (exponentDigits : Nat) (d : Digits) : Text :=
  let e := d.point - 1
  let tail := d.digits.drop 1
  d.digits.take 1 ++ (if tail.isEmpty then [] else '.' :: tail) ++
    'e' :: (if e < 0 then '-' else '+') :: padZeros exponentDigits (ofNat e.natAbs)

/-- Digits, laid out. -/
def Layout.write (l : Layout) (d : Digits) : Text :=
  if l.lowest ≤ d.point - 1 ∧ d.point - 1 < l.limit then positional d
  else scientific l.exponentDigits d

def shortest (l : Layout) : Binary64 → Text
  | .finite negative mantissa exponent =>
    (if negative then ['-'] else []) ++
      if mantissa = 0 then "0.0".toList else l.write (shortestDigits mantissa exponent)
  | .infinite negative => if negative then "-inf" else "inf"
  | .notANumber => "nan"

end ScriptDiagnosis.Decimal
