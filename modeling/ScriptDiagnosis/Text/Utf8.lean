/-
  ScriptDiagnosis/Text/Utf8.lean
  ==============================
  Reading text from bytes, and writing it.  A first byte says how many bytes follow and bounds
  the second one, so that no code has two forms and none is half of a surrogate pair.  The first
  byte that cannot go on is the fault; a sequence that has begun counts from its first byte.
  Line ends of all three kinds are read as line feeds.

  Halves of surrogate pairs cannot be written.  A row of them is refused at once.
-/
import ScriptDiagnosis.Failure
import ScriptDiagnosis.Text.Hexadecimal

namespace ScriptDiagnosis.Text

/-! ### Bytes -/

inductive Utf8Complaint
  | invalidStart
  | invalidContinuation
  | endOfData
  deriving DecidableEq, Repr

def Utf8Complaint.text : Utf8Complaint → Text
  | invalidStart => "invalid start byte"
  | invalidContinuation => "invalid continuation byte"
  | endOfData => "unexpected end of data"

/-- Why bytes are no text: what is wrong, and with which bytes, from one offset to
    another. -/
structure Utf8Fault where
  complaint : Utf8Complaint
  first : Nat
  last : Nat
  /-- The first of the bytes. -/
  byte : Nat
  deriving DecidableEq, Repr

def Utf8Fault.text (f : Utf8Fault) : Text :=
  let place : Text :=
    if f.first = f.last then ("byte 0x" : Text) ++ hex 2 f.byte ++ " in position " ++ ofNat f.first
    else ("bytes in position " : Text) ++ ofNat f.first ++ "-" ++ ofNat f.last
  ("'utf-8' codec can't decode " : Text) ++ place ++ ": " ++ f.complaint.text

def Utf8Fault.failure (f : Utf8Fault) : Failure := ⟨.undecodableBytes, f.text, none⟩

/-- A sequence that has begun: how many bytes it lacks, the code so far, and the bounds of
    the next byte. -/
structure Sequence where
  first : Nat
  byte : Nat
  lacks : Nat
  code : Nat
  low : Nat := 0x80
  high : Nat := 0xbf
  deriving Repr

/-- The sequence that a byte begins at an offset; a byte below 128 begins none. -/
def sequence? (offset b : Nat) : Option Sequence :=
  if b < 0xc2 then none
  else if b < 0xe0 then some ⟨offset, b, 1, b - 0xc0, 0x80, 0xbf⟩
  else if b < 0xf0 then
    some ⟨offset, b, 2, b - 0xe0, if b = 0xe0 then 0xa0 else 0x80, if b = 0xed then 0x9f else 0xbf⟩
  else if b < 0xf5 then
    some ⟨offset, b, 3, b - 0xf0, if b = 0xf0 then 0x90 else 0x80, if b = 0xf4 then 0x8f else 0xbf⟩
  else none

/-- The text of some bytes from an offset on, where a sequence may have begun before. -/
def decodeFrom (offset : Nat) : Option Sequence → List UInt8 → Except Utf8Fault Text
  | none, [] => .ok []
  | some s, [] => .error ⟨.endOfData, s.first, offset - 1, s.byte⟩
  | none, b :: rest =>
    let n := b.toNat
    if n < 0x80 then (decodeFrom (offset + 1) none rest).map (Char.ofNat n :: ·)
    else match sequence? offset n with
      | some s => decodeFrom (offset + 1) (some s) rest
      | none => .error ⟨.invalidStart, offset, offset, n⟩
  | some s, b :: rest =>
    let n := b.toNat
    if s.low ≤ n ∧ n ≤ s.high then
      let code := s.code * 64 + (n - 0x80)
      if s.lacks = 1 then (decodeFrom (offset + 1) none rest).map (Char.ofNat code :: ·)
      else decodeFrom (offset + 1) (some ⟨s.first, s.byte, s.lacks - 1, code, 0x80, 0xbf⟩) rest
    else .error ⟨.invalidContinuation, s.first, offset - 1, s.byte⟩

def decodeUtf8 (bytes : List UInt8) : Except Utf8Fault Text := decodeFrom 0 none bytes

/-- The failure of writing a text that has halves of surrogate pairs from one offset to another,
    the first of them with this code. -/
def unencodable (first last code : Nat) : Failure :=
  let place : Text :=
    if first = last then
      ("character '" : Text) ++ '\\' :: 'u' :: hex 4 code ++ "' in position " ++ ofNat first
    else ("characters in position " : Text) ++ ofNat first ++ "-" ++ ofNat last
  ⟨.unencodableText,
    ("'utf-8' codec can't encode " : Text) ++ place ++ ": surrogates not allowed", none⟩

/-! ### Line ends -/

def unifyLineEnds : Text → Text
  | [] => []
  | '\r' :: '\n' :: rest => '\n' :: unifyLineEnds rest
  | '\r' :: rest => '\n' :: unifyLineEnds rest
  | c :: rest => c :: unifyLineEnds rest

end ScriptDiagnosis.Text
