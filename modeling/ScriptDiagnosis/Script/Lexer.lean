/-
  ScriptDiagnosis/Script/Lexer.lean
  =================================
  The next token of a script.  A closing brace goes on with a template when the brace
  it closes opened a substitution, and a slash is always a punctuator here: only who
  expects an expression knows that a regular expression begins, and asks for one.
-/
import ScriptDiagnosis.Script.Quotation
import ScriptDiagnosis.Script.Pattern

namespace ScriptDiagnosis.Script
open Text

/-- Punctuators of more than one character, longest first. -/
def longPunctuators : List String :=
  [">>>=", "===", "!==", ">>>", "<<=", ">>=", "**=", "&&", "||", "==", "!=", "+=", "-=",
   "*=", "/=", "++", "--", "<<", ">>", "&=", "|=", "^=", "%=", "<=", ">=", "=>", "**"]

/-- Punctuators that are never the beginning of a longer one. -/
def lonePunctuators : List Char := ['(', ')', ';', ',', '[', ']', ':', '?', '~']

def shortPunctuators : List Char :=
  ['<', '>', '=', '!', '+', '-', '*', '%', '&', '|', '^', '/']

def punctuatorAt (src : Source) (i : Nat) : Option String :=
  let c := src.look i
  if c = '\x7b' || c = '\x7d' || lonePunctuators.contains c then some (String.singleton c)
  else if c = '.' then some (if src.hasAt i "..." then "..." else ".")
  else match longPunctuators.find? (src.hasAt i) with
    | some p => some p
    | none => if shortPunctuators.contains c then some (String.singleton c) else none

def bracesAfter (p : String) (open' : List Brace) : List Brace :=
  if p = "\x7b" then .block :: open'
  else if p = "\x7d" then open'.drop 1
  else open'

def scanPunctuator (src : Source) : Scan Token := do
  let c ← get
  match punctuatorAt src c.index with
  | none => Scan.fail .illegal
  | some p =>
    let stop := c.index + p.length
    set { c with index := stop, braces := bracesAfter p c.braces }
    return { kind := .punctuator, value := p, line := c.line, start := c.index, stop }

/-- The token at the cursor, where neither space nor comment is in front of it. -/
def scanToken (src : Source) : Scan Token := do
  let c ← get
  let i := c.index
  let ch := src.look i
  if i ≥ src.size then
    return { kind := .endOfSource, value := "", line := c.line, start := i, stop := i }
  else if isNameStart ch then scanWord src
  else if ch = '\x27' || ch = '\"' then scanString src
  else if isAsciiDigit ch || (ch = '.' && isAsciiDigit (src.look (i + 1))) then
    scanNumber src
  else if ch = '\x60' || (ch = '\x7d' && c.braces.head? = some .substitution) then
    scanTemplate src
  else scanPunctuator src

/-- Read on to the slash that closes a regular expression. -/
def patternBody (src : Source) : Nat → Bool → Scan Unit
  | 0, _ => Scan.fail .unclosedPattern
  | fuel + 1, inSet => do
    let i ← Scan.index
    let ch := src.look i
    if i ≥ src.size then Scan.fail .unclosedPattern
    else
      Scan.advance 1
      if ch = '\\' then
        let next := src.look (i + 1)
        Scan.advance 1
        if isLineEnd next then Scan.fail .unclosedPattern
        else patternBody src fuel inSet
      else if isLineEnd ch then Scan.fail .unclosedPattern
      else if inSet then patternBody src fuel (ch ≠ ']')
      else if ch = '/' then pure ()
      else patternBody src fuel (ch = '[')

/-- The letters behind a regular expression; none of them may be escaped. -/
def patternFlags (src : Source) : Scan Unit := do
  let e := src.spanEnd (fun c => c ≠ '\\' && isNamePart c) (← Scan.index)
  Scan.jump e
  if src.look e = '\\' && e < src.size then
    Scan.advance 1
    if e + 1 < src.size then
      if src.look (e + 1) = 'u' then
        Scan.advance 1
        match ← hexDigits src 4 0 with
        | some _ => pure ()
        | none => Scan.jump (e + 2)
      Scan.fail .illegal

def scanPattern (src : Source) : Scan Token := do
  let start ← Scan.index
  Scan.advance 1
  patternBody src (src.size + 1) false
  let close := (← Scan.index) - 1
  patternFlags src
  if Pattern.wellFormed (src.extract (start + 1) close).toList then
    let c ← get
    return { kind := .pattern, value := "", line := c.line, start, stop := c.index }
  else Scan.fail .badPattern

end ScriptDiagnosis.Script
