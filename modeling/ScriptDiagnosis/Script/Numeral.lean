/-
  ScriptDiagnosis/Script/Numeral.lean
  ===================================
  Numbers of a script: decimal ones with a fraction and an exponent, and whole ones
  to the bases 16, 8 and 2.  A zero in front of octal digits makes an octal number of
  the older kind, which strict code refuses; a digit 8 or 9 in the row makes it
  decimal again.
-/
import ScriptDiagnosis.Script.Word

namespace ScriptDiagnosis.Script
open Text

def isOctalDigit (c : Char) : Bool := '0' ≤ c && c ≤ '7'

/-- Is the row of octal digits behind the index free of 8 and 9? -/
def octalRow (src : Source) (i : Nat) : Bool :=
  let c := src.look (src.spanEnd isOctalDigit i)
  c ≠ '8' && c ≠ '9'

def numberToken (src : Source) (start : Nat) (octal : Bool) : Scan Token := do
  let c ← get
  return { kind := .number, value := src.slice start c.index, line := c.line, start,
           stop := c.index, octal }

/-- A whole number to a base, from its first digit on.  No digit at all, a name right
    behind it, and where asked a digit right behind it, are faults. -/
def basedNumber (src : Source) (start : Nat) (isDigit : Char → Bool) (octal strictEnd : Bool) :
    Scan Token := do
  let i ← Scan.index
  let e := src.spanEnd isDigit i
  Scan.jump e
  if !octal && e = i then Scan.fail .illegal
  else if isNameStart (src.look e) || (strictEnd && isAsciiDigit (src.look e)) then
    Scan.fail .illegal
  else numberToken src start octal

def scanExponent (src : Source) : Scan Unit := do
  let i ← Scan.index
  if src.look i = 'e' || src.look i = 'E' then
    let j := if src.look (i + 1) = '+' || src.look (i + 1) = '-' then i + 2 else i + 1
    let e := src.spanEnd isAsciiDigit j
    Scan.jump e
    if e = j then Scan.fail .illegal

def scanDecimal (src : Source) (start : Nat) : Scan Token := do
  let whole := src.spanEnd isAsciiDigit start
  Scan.jump (if src.look whole = '.' then src.spanEnd isAsciiDigit (whole + 1) else whole)
  scanExponent src
  if isNameStart (src.look (← Scan.index)) then Scan.fail .illegal
  else numberToken src start false

def scanNumber (src : Source) : Scan Token := do
  let start ← Scan.index
  let mark := src.look (start + 1)
  if src.look start ≠ '0' then scanDecimal src start
  else if mark = 'x' || mark = 'X' then
    Scan.jump (start + 2)
    basedNumber src start isHexDigit false false
  else if mark = 'b' || mark = 'B' then
    Scan.jump (start + 2)
    basedNumber src start (fun c => c = '0' || c = '1') false true
  else if mark = 'o' || mark = 'O' then
    Scan.jump (start + 2)
    basedNumber src start isOctalDigit false true
  else if isOctalDigit mark && octalRow src (start + 1) then
    Scan.jump (start + 1)
    basedNumber src start isOctalDigit true true
  else scanDecimal src start

end ScriptDiagnosis.Script
