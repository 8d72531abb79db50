/-
  ScriptDiagnosis/Text/Integer.lean
  =================================
  Whole numbers as people write them: white space around, one sign in front, digits
  of any script, and a single underscore between two digits.  A row of more than
  4300 digits is refused, whatever follows it, and no number that long is written out.
-/
import ScriptDiagnosis.Text.Blank
import ScriptDiagnosis.Text.DecimalDigit
import ScriptDiagnosis.Text.Quoted

namespace ScriptDiagnosis.Text

/-- The most digits that a written number may have. -/
def maxDigits : Nat := 4300

/-- Can a number be written out? -/
def writable (n : Int) : Bool := n.natAbs < Nat.pow 10 maxDigits

/-- Why a text is no whole number. -/
inductive IntegerFault
  | invalid (text : Text)
  | tooLong (digits : Nat)
  deriving DecidableEq, Repr

def tooLongText (digits : Nat) : Text :=
  "Exceeds the limit (4300 digits) for integer string conversion: value has ".toList ++
    ofNat digits ++ " digits; use sys.set_int_max_str_digits() to increase the limit".toList

/-- The wording of the fault; a quoted text is cut after 200 characters. -/
def IntegerFault.text : IntegerFault → Text
  | .invalid t => "invalid literal for int() with base 10: ".toList ++ (quoted t).take 200
  | .tooLong n => tooLongText n

/-- The number that a row of digits writes, unless the row is too long. -/
def readDigits (ds : Text) : Except IntegerFault Nat :=
  if ds.length > maxDigits then .error (.tooLong ds.length) else .ok (digitsValue ds)

/-- What a row of digits and underscores comes to: its digits, whether each underscore
    stands between two digits, and what follows the row. -/
def digitRow : Bool → Text → Text × Bool × Text
  | _, [] => ([], true, [])
  | afterDigit, c :: rest =>
    if isDigit c then
      let (ds, good, tail) := digitRow true rest
      (c :: ds, good, tail)
    else if c = '_' then
      match rest with
      | d :: _ =>
        if afterDigit && isDigit d then digitRow false rest else ([], false, c :: rest)
      | [] => ([], false, [c])
    else ([], true, c :: rest)

/-- White space that may stand around a number: any but the four information separators. -/
def isMargin (c : Char) : Bool := isBlank c && !(0x1c ≤ c.toNat && c.toNat ≤ 0x1f)

def readInteger (t : Text) : Except IntegerFault Int :=
  let body := dropTrailing isMargin (dropLeading isMargin t)
  let (negative, row) := match body with
    | '-' :: r => (true, r)
    | '+' :: r => (false, r)
    | r => (false, r)
  let (ds, good, tail) := digitRow false row
  if !good || ds.isEmpty then .error (.invalid t)
  else if ds.length > maxDigits then .error (.tooLong ds.length)
  else if !tail.isEmpty then .error (.invalid t)
  else .ok (if negative then -(digitsValue ds : Int) else digitsValue ds)

end ScriptDiagnosis.Text
