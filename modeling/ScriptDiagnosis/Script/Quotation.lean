/-
  ScriptDiagnosis/Script/Quotation.lean
  =====================================
  Strings and templates.  Both know escapes, and a backslash before a line end joins
  two lines; a string may not hold a bare line end, a template may.  Octal escapes are
  noted on strings, since strict code refuses them, and refused in templates.
-/
import ScriptDiagnosis.Script.Numeral

namespace ScriptDiagnosis.Script
open Text

/-- The letters that stand for a control character behind a backslash. -/
def controlEscape? : Char → Option Char
  | 'n' => some '\n'
  | 'r' => some '\r'
  | 't' => some '\t'
  | 'b' => some '\x08'
  | 'v' => some '\x0b'
  | 'f' => some '\x0c'
  | _ => none

/-- The code of an octal escape of up to three digits, the first of which is given; the
    flag is off for a lone zero. -/
def octalEscape (src : Source) (digit : Char) : Scan (Nat × Bool) := do
  let value (c : Char) : Nat := c.toNat - 0x30
  let i ← Scan.index
  if i < src.size && isOctalDigit (src.look i) then
    Scan.advance 1
    let two := 8 * value digit + value (src.look i)
    let j := i + 1
    if digit ≤ '3' && j < src.size && isOctalDigit (src.look j) then
      Scan.advance 1
      pure (8 * two + value (src.look j), true)
    else pure (two, true)
  else pure (value digit, digit ≠ '0')

/-- What a string has been found to hold: its characters in reverse, and whether one of
    them was an octal escape. -/
structure Held where
  back : List Char
  octal : Bool

def Held.push (h : Held) (c : Char) : Held := { h with back := c :: h.back }

/-- One escape of a string, read from behind the backslash. -/
def stringEscape (src : Source) (h : Held) : Scan Held := do
  let c ← get
  let ch := src.look c.index
  if isLineEnd ch then
    set (c.pastLineEnd src)
    return h
  Scan.advance 1
  if ch = 'u' then
    if src.look (← Scan.index) = '\x7b' then
      Scan.advance 1
      return h.push (charOfCode (← bracedCode src))
    else
      match ← hexDigits src 4 0 with
      | some n => return h.push (charOfCode n)
      | none => Scan.fail .illegal
  else if ch = 'x' then
    match ← hexDigits src 2 0 with
    | some n => return h.push (charOfCode n)
    | none => Scan.fail .badHexEscape
  else if let some e := controlEscape? ch then return h.push e
  else if ch = '8' || ch = '9' then Scan.fail .illegal
  else if isOctalDigit ch then
    let (n, octal) ← octalEscape src ch
    return { h.push (charOfCode n) with octal := octal || h.octal }
  else return h.push ch

/-- The inside of a string up to its closing quote; `none` if there is none on the line. -/
def stringBody (src : Source) (quote : Char) : Nat → Held → Scan (Option Held)
  | 0, _ => pure none
  | fuel + 1, h => do
    let i ← Scan.index
    let ch := src.look i
    if i ≥ src.size || isLineEnd ch then pure none
    else
      Scan.advance 1
      if ch = quote then pure (some h)
      else if ch = '\\' then stringBody src quote fuel (← stringEscape src h)
      else stringBody src quote fuel (h.push ch)

/-- A string.  One without an end is a fault at its opening quote. -/
def scanString (src : Source) : Scan Token := do
  let start ← Scan.index
  Scan.advance 1
  match ← stringBody src (src.look start) (src.size + 1) ⟨[], false⟩ with
  | some h =>
    let c ← get
    return { kind := .string, value := String.ofList h.back.reverse, line := c.line, start,
             stop := c.index, octal := h.octal }
  | none =>
    Scan.jump start
    Scan.fail .illegal

/-- One escape of a template, read from behind the backslash. -/
def templateEscape (src : Source) : Scan Unit := do
  let c ← get
  let ch := src.look c.index
  if isLineEnd ch then set (c.pastLineEnd src)
  else
    Scan.advance 1
    if ch = 'u' then
      let i ← Scan.index
      if src.look i = '\x7b' then
        Scan.advance 1
        let _ ← bracedCode src
      else
        match ← hexDigits src 4 0 with
        | some _ => pure ()
        | none => Scan.jump i
    else if ch = 'x' then
      match ← hexDigits src 2 0 with
      | some _ => pure ()
      | none => Scan.fail .badHexEscape
    else if ch = '0' then
      if isAsciiDigit (src.look (← Scan.index)) then Scan.fail .octalInTemplate
    else if isOctalDigit ch then Scan.fail .octalInTemplate

/-- How a piece of a template ends. -/
inductive PieceEnd
  | close          -- the closing backtick
  | substitution   -- `${`
  deriving DecidableEq

/-- The inside of a template piece up to where it ends. -/
def templateBody (src : Source) : Nat → Scan PieceEnd
  | 0 => Scan.fail .illegal
  | fuel + 1 => do
    let c ← get
    let i := c.index
    let ch := src.look i
    if i ≥ src.size then Scan.fail .illegal
    else if isLineEnd ch then
      set (c.pastLineEnd src)
      templateBody src fuel
    else
      Scan.advance 1
      if ch = '\x60' then pure .close
      else if ch = '$' && src.look (i + 1) = '\x7b' then
        modify fun c => { c.ahead 1 with braces := .substitution :: c.braces }
        pure .substitution
      else if ch = '\\' then
        templateEscape src
        templateBody src fuel
      else templateBody src fuel

/-- A piece of a template: from its opening backtick, or from the brace that closes a
    substitution, to where it ends. -/
def scanTemplate (src : Source) : Scan Token := do
  let start ← Scan.index
  let opens := src.look start = '\x60'
  Scan.advance 1
  let e ← templateBody src (src.size + 1)
  if !opens then modify fun c => { c with braces := c.braces.drop 1 }
  let c ← get
  let raw := src.slice (start + 1) (c.index - (if e = .close then 1 else 2))
  return { kind := .template, value := raw, line := c.line, start, stop := c.index,
           opensTemplate := opens, closesTemplate := e = .close }

end ScriptDiagnosis.Script
