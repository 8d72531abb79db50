/-
  ScriptDiagnosis/Json/Printer.lean
  =================================
  Writing JSON.  A style says whether characters above ASCII are escaped and whether each
  member goes on a line of its own, two spaces further in than what holds it.  Strings
  escape the quote, the backslash and the control characters; five of these have a letter,
  the others are written by their code, and one beyond the sixteen-bit range by two codes.
-/
import ScriptDiagnosis.Json.Basic
import ScriptDiagnosis.Text.Hexadecimal

namespace ScriptDiagnosis.Json
open Text

structure Style where
  asciiOnly : Bool
  /-- One member a line, indented; else all on one line. -/
  indented : Bool
  deriving DecidableEq, Repr

def codeEscape (n : Nat) : Text := '\\' :: 'u' :: hex 4 n

def writeChar (asciiOnly : Bool) (c : Char) : Text :=
  if c = '\"' then ['\\', '\"']
  else if c = '\\' then ['\\', '\\']
  else if c = '\n' then ['\\', 'n']
  else if c = '\r' then ['\\', 'r']
  else if c = '\t' then ['\\', 't']
  else if c = '\x08' then ['\\', 'b']
  else if c = '\x0c' then ['\\', 'f']
  else if c.toNat < 0x20 then codeEscape c.toNat
  else if asciiOnly && 0x7f ≤ c.toNat then
    if c.toNat < 0x10000 then codeEscape c.toNat
    else
      let n := c.toNat - 0x10000
      codeEscape (0xd800 + n / 0x400) ++ codeEscape (0xdc00 + n % 0x400)
  else [c]

def writeString (asciiOnly : Bool) (t : Text) : Text :=
  '\"' :: t.flatMap (writeChar asciiOnly) ++ ['\"']

def newLine (level : Nat) : Text := '\n' :: List.replicate (2 * level) ' '

/-- What stands between an opening bracket and the first member, and between the last
    member and the closing bracket. -/
def edge (s : Style) (level : Nat) : Text := if s.indented then newLine level else []

def between (s : Style) (level : Nat) : Text :=
  if s.indented then ',' :: newLine level else [',', ' ']

mutual

def write (s : Style) (level : Nat) : Json → Text
  | null => "null"
  | bool b => if b then "true" else "false"
  | integer n => ofInt n
  | decimal t => t
  | string t => writeString s.asciiOnly t
  | array [] => "[]"
  | array (v :: vs) =>
    '[' :: edge s (level + 1) ++ write s (level + 1) v ++ writeItems s (level + 1) vs ++
      edge s level ++ [']']
  | object [] => "\x7b\x7d"
  | object ((k, v) :: ms) =>
    '\x7b' :: edge s (level + 1) ++ writeString s.asciiOnly k ++ ':' :: ' ' ::
      write s (level + 1) v ++ writeMembers s (level + 1) ms ++ edge s level ++ ['\x7d']

/-- The items of an array behind the first. -/
def writeItems (s : Style) (level : Nat) : List Json → Text
  | [] => []
  | v :: vs => between s level ++ write s level v ++ writeItems s level vs

/-- The members of an object behind the first. -/
def writeMembers (s : Style) (level : Nat) : List (Text × Json) → Text
  | [] => []
  | (k, v) :: ms =>
    between s level ++ writeString s.asciiOnly k ++ ':' :: ' ' :: write s level v ++
      writeMembers s level ms

end

def encode (s : Style) (v : Json) : Text := write s 0 v

end ScriptDiagnosis.Json
