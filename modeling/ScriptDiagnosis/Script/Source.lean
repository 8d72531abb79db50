/-
  ScriptDiagnosis/Script/Source.lean
  ==================================
  A script as it is read: code points by index, a cursor that knows the line it is
  on, and what may stand between two tokens (white space, line ends, comments).
  Reading one place past the last code point gives NUL, which no token goes on with.
-/
import ScriptDiagnosis.Script.Fault
import ScriptDiagnosis.Text.Letter

namespace ScriptDiagnosis.Script

abbrev Source := Array Char

/-- The code point at an index, NUL past the end. -/
def Source.look (src : Source) (i : Nat) : Char := src.getD i '\x00'

def Source.slice (src : Source) (i j : Nat) : String := String.ofList (src.extract i j).toList

/-- Does the given text stand at an index? -/
def Source.hasAt (src : Source) (i : Nat) (w : String) : Bool :=
  src.slice i (i + w.length) = w

/-- The first index from `i` on where the test fails, or the end. -/
def Source.spanEnd (src : Source) (p : Char → Bool) (i : Nat) : Nat :=
  if h : i < src.size then
    if p src[i] then spanEnd src p (i + 1) else i
  else i
termination_by src.size - i

def isSpace (c : Char) : Bool :=
  let n := c.toNat
  n = 0x20 || n = 0x09 || n = 0x0b || n = 0x0c || n = 0xa0 || n = 0x1680 || n = 0x180e ||
  (0x2000 ≤ n && n ≤ 0x200a) || n = 0x202f || n = 0x205f || n = 0x3000 || n = 0xfeff

/-- Does it end a line of a script? -/
def isLineEnd (c : Char) : Bool :=
  c = '\n' || c = '\r' || c.toNat = 0x2028 || c.toNat = 0x2029

/-- What an open brace belongs to: a block, or an expression inside a template. -/
inductive Brace
  | block
  | substitution
  deriving DecidableEq, Repr

/-- A place in a source, with the braces that are open there. -/
structure Cursor where
  index : Nat
  line : Nat
  /-- The index at which the line begins. -/
  lineStart : Nat
  braces : List Brace
  deriving Repr

namespace Cursor

/-- A source without a character has no first line. -/
def first (src : Source) : Cursor := ⟨0, if src.size = 0 then 0 else 1, 0, []⟩

def ahead (c : Cursor) (n : Nat) : Cursor := { c with index := c.index + n }

/-- The place behind the line end that stands at the cursor; a carriage return takes
    the line feed behind it along. -/
def pastLineEnd (src : Source) (c : Cursor) : Cursor :=
  let width :=
    if src.look c.index = '\r' && src.look (c.index + 1) = '\n' then 2 else 1
  { c with index := c.index + width, line := c.line + 1, lineStart := c.index + width }

def fault (c : Cursor) (what : Complaint) : Stop :=
  .fault ⟨what, c.line, (c.index : Int) - c.lineStart + 1⟩

end Cursor

/-- A scan: it moves the cursor and gives a value, or stops with a fault. -/
abbrev Scan := StateT Cursor (Except Stop)

/-- Stop where the cursor is. -/
def Scan.fail {α : Type} (what : Complaint) : Scan α := fun c => .error (c.fault what)

def Scan.index : Scan Nat := return (← get).index

def Scan.advance (n : Nat) : Scan Unit := modify (·.ahead n)

def Scan.jump (i : Nat) : Scan Unit := modify fun c => { c with index := i }

/-- The place behind the rest of a line, its end included. -/
def skipLine (src : Source) (c : Cursor) : Cursor :=
  let e := src.spanEnd (fun ch => !isLineEnd ch) c.index
  let c := { c with index := e }
  if e < src.size then c.pastLineEnd src else c

/-- The place behind a block comment whose opening has been read. -/
def skipBlock (src : Source) : Nat → Scan Unit
  | 0 => Scan.fail .illegal
  | fuel + 1 => do
    let c ← get
    if c.index ≥ src.size then Scan.fail .illegal
    else if isLineEnd (src.look c.index) then
      set (c.pastLineEnd src)
      skipBlock src fuel
    else if src.look c.index = '*' && src.look (c.index + 1) = '/' then
      Scan.advance 2
    else
      Scan.advance 1
      skipBlock src fuel

/-- Go past white space, line ends and comments.  `fresh` says that nothing but these
    has been seen on the line, so that `-->` opens a comment. -/
def skipBlanksFrom (src : Source) : Nat → Bool → Scan Unit
  | 0, _ => pure ()
  | fuel + 1, fresh => do
    let c ← get
    let i := c.index
    let ch := src.look i
    if i ≥ src.size then pure ()
    else if isSpace ch then
      Scan.advance 1
      skipBlanksFrom src fuel fresh
    else if isLineEnd ch then
      set (c.pastLineEnd src)
      skipBlanksFrom src fuel true
    else if ch = '/' && src.look (i + 1) = '/' then
      set (skipLine src (c.ahead 2))
      skipBlanksFrom src fuel true
    else if ch = '/' && src.look (i + 1) = '*' then
      Scan.advance 2
      skipBlock src (src.size + 1)
      skipBlanksFrom src fuel fresh
    else if fresh && src.hasAt i "-->" then
      set (skipLine src (c.ahead 3))
      skipBlanksFrom src fuel fresh
    else if src.hasAt i "<!--" then
      set (skipLine src (c.ahead 4))
      skipBlanksFrom src fuel fresh
    else pure ()

/-- Go past what may stand between two tokens. -/
def skipBlanks (src : Source) : Scan Unit := do
  skipBlanksFrom src (src.size + 1) ((← Scan.index) = 0)

end ScriptDiagnosis.Script
