/-
  ScriptDiagnosis/Script/Word.lean
  ================================
  Names and keywords.  A name may spell a character by its code, four hexadecimal
  digits or any number of them in braces; a keyword may not.
-/
import ScriptDiagnosis.Script.Source
import ScriptDiagnosis.Script.Token
import ScriptDiagnosis.Text.Hexadecimal

namespace ScriptDiagnosis.Script
open Text

/-- Read exactly so many hexadecimal digits; with fewer the cursor stays behind those. -/
def hexDigits (src : Source) : Nat → Nat → Scan (Option Nat)
  | 0, value => pure (some value)
  | n + 1, value => do
    let i ← Scan.index
    match (if i < src.size then hexValue? (src.look i) else none) with
    | some d =>
      Scan.advance 1
      hexDigits src n (16 * value + d)
    | none => pure none

/-- Read hexadecimal digits up to the first other character, that one included; give
    the number and the last character read. -/
def hexRun (src : Source) : Nat → Nat → Char → Scan (Nat × Char)
  | 0, value, last => pure (value, last)
  | fuel + 1, value, last => do
    let i ← Scan.index
    if i ≥ src.size then pure (value, last)
    else
      let ch := src.look i
      Scan.advance 1
      match hexValue? ch with
      | some d => hexRun src fuel (16 * value + d) ch
      | none => pure (value, ch)

/-- The code in braces of an escape whose opening brace has been read. -/
def bracedCode (src : Source) : Scan Nat := do
  let ch := src.look (← Scan.index)
  if ch = '\x7d' then Scan.fail .illegal
  else
    let (value, last) ← hexRun src (src.size + 1) 0 ch
    if value > 0x10ffff || last ≠ '\x7d' then Scan.fail .illegal
    else pure value

/-- The character that an escape in a name stands for, read from behind the backslash.
    One written with four digits has to fit its place in the name. -/
def nameEscape (src : Source) (fits : Char → Bool) : Scan Char := do
  if src.look (← Scan.index) ≠ 'u' then Scan.fail .illegal
  else
    Scan.advance 1
    if src.look (← Scan.index) = '\x7b' then
      Scan.advance 1
      return charOfCode (← bracedCode src)
    else
      match ← hexDigits src 4 0 with
      | none => Scan.fail .illegal
      | some n =>
        let ch := charOfCode n
        if ch = '\\' || !fits ch then Scan.fail .illegal else pure ch

/-- The rest of a name that may hold escapes, in reverse. -/
def escapedNameRest (src : Source) : Nat → List Char → Scan (List Char)
  | 0, acc => pure acc
  | fuel + 1, acc => do
    let i ← Scan.index
    let ch := src.look i
    if i ≥ src.size || !isNamePart ch then pure acc
    else
      Scan.advance 1
      if ch = '\\' then
        let e ← nameEscape src isNamePart
        escapedNameRest src fuel (e :: acc)
      else escapedNameRest src fuel (ch :: acc)

/-- A name with an escape in it, from its first character on. -/
def escapedName (src : Source) : Scan (List Char) := do
  let ch := src.look (← Scan.index)
  Scan.advance 1
  let head ← if ch = '\\' then nameEscape src isNameStart else pure ch
  let back ← escapedNameRest src (src.size + 1) [head]
  pure back.reverse

/-- A name, keyword or word literal. -/
def scanWord (src : Source) : Scan Token := do
  let start ← Scan.index
  let plainEnd := src.spanEnd (fun c => c ≠ '\\' && isNamePart c) start
  let word ←
    if src.look plainEnd = '\\' && plainEnd < src.size then escapedName src
    else do
      Scan.jump plainEnd
      pure (src.extract start plainEnd).toList
  let stop ← Scan.index
  let value := String.ofList word
  let kind := if word.length = 1 then .identifier else wordKind value
  if kind ≠ .identifier && start + word.length ≠ stop then
    Scan.jump start
    Scan.fail .escapedKeyword
  else
    return { kind, value, line := (← get).line, start, stop }

end ScriptDiagnosis.Script
