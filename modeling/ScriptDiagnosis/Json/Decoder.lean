/-
  ScriptDiagnosis/Json/Decoder.lean
  =================================
  Reading JSON.  The reader walks over the text and complains at the first place where no
  value can go on; a complaint keeps how much of the text was left there, from which its
  offset, line and column follow.  White space is space, tab, line feed and carriage
  return.  `NaN`, `Infinity` and `-Infinity` are numbers.

  Two limits are not complaints about the text: values may not nest without end, and an
  integer may not have more than 4300 digits.
-/
import ScriptDiagnosis.Json.Basic
import ScriptDiagnosis.Text.Hexadecimal
import ScriptDiagnosis.Text.Integer

namespace ScriptDiagnosis.Json
open Text

/-! ### Complaints -/

inductive Complaint
  | expectingValue
  | expectingName
  | expectingColon
  | expectingComma
  | unterminatedString
  | controlCharacter
  | badEscape
  | badCode
  | extraData
  | byteOrderMark
  deriving DecidableEq, Repr

def Complaint.text : Complaint → Text
  | expectingValue => "Expecting value"
  | expectingName => "Expecting property name enclosed in double quotes"
  | expectingColon => "Expecting ':' delimiter"
  | expectingComma => "Expecting ',' delimiter"
  | unterminatedString => "Unterminated string starting at"
  | controlCharacter => "Invalid control character at"
  | badEscape => "Invalid \\escape"
  | badCode => "Invalid \\uXXXX escape"
  | extraData => "Extra data"
  | byteOrderMark => "Unexpected UTF-8 BOM (decode using utf-8-sig)"

/-- Why a text is not read.  A complaint keeps the number of code points from where it
    arises to the end of the text. -/
inductive Fault
  | malformed (what : Complaint) (left : Nat)
  | tooManyDigits (count : Nat)
  | tooDeep (inArray : Bool)
  deriving DecidableEq, Repr

/-- The wording of a complaint about a text at an offset, with the line and column there. -/
def complaintText (doc : Text) (what : Complaint) (offset : Nat) : Text :=
  let before := doc.take offset
  let line := before.count '\n' + 1
  let column := (before.reverse.takeWhile (· ≠ '\n')).length + 1
  what.text ++ ": line " ++ ofNat line ++ " column " ++ ofNat column ++
    " (char " ++ ofNat offset ++ ")"

def fail {α : Type} (what : Complaint) (rest : Text) : Except Fault α :=
  .error (.malformed what rest.length)

/-! ### White space, strings, numbers -/

def isSpace (c : Char) : Bool := c = ' ' || c = '\t' || c = '\n' || c = '\r'

def skipSpace (t : Text) : Text := t.dropWhile isSpace

/-- The character that a letter behind a backslash stands for. -/
def escaped? : Char → Option Char
  | '\"' => some '\"'
  | '\\' => some '\\'
  | '/' => some '/'
  | 'b' => some '\x08'
  | 'f' => some '\x0c'
  | 'n' => some '\n'
  | 'r' => some '\r'
  | 't' => some '\t'
  | _ => none

def code? (a b c d : Char) : Option Nat :=
  match hexValue? a, hexValue? b, hexValue? c, hexValue? d with
  | some a, some b, some c, some d => some (((16 * a + b) * 16 + c) * 16 + d)
  | _, _, _, _ => none

/-- The codes of a string up to its closing quote, and what follows the quote.  `opening`
    is how much is left from the opening quote on.  Four digits of a code have to be
    followed by something. -/
def stringCodes (opening : Nat) : Text → Except Fault (List Nat × Text)
  | [] => .error (.malformed .unterminatedString opening)
  | '\"' :: rest => .ok ([], rest)
  | '\\' :: [] => .error (.malformed .unterminatedString opening)
  | '\\' :: 'u' :: a :: b :: c :: d :: e :: rest =>
    match code? a b c d with
    | none => fail .badCode ('u' :: a :: b :: c :: d :: e :: rest)
    | some n => do
      let (codes, tail) ← stringCodes opening (e :: rest)
      pure (n :: codes, tail)
  | '\\' :: x :: rest =>
    if x = 'u' then fail .badCode (x :: rest)
    else match escaped? x with
      | none => fail .badEscape ('\\' :: x :: rest)
      | some ch => do
        let (codes, tail) ← stringCodes opening rest
        pure (ch.toNat :: codes, tail)
  | x :: rest =>
    if x.toNat < 0x20 then fail .controlCharacter (x :: rest)
    else do
      let (codes, tail) ← stringCodes opening rest
      pure (x.toNat :: codes, tail)

def isHighSurrogate (n : Nat) : Bool := 0xd800 ≤ n && n < 0xdc00
def isLowSurrogate (n : Nat) : Bool := 0xdc00 ≤ n && n < 0xe000

/-- The characters of a row of codes; a high and a low surrogate side by side are one. -/
def joinCodes : List Nat → Text
  | [] => []
  | [n] => [charOfCode n]
  | hi :: lo :: rest =>
    if isHighSurrogate hi && isLowSurrogate lo then
      charOfCode (0x10000 + (hi - 0xd800) * 0x400 + (lo - 0xdc00)) :: joinCodes rest
    else charOfCode hi :: joinCodes (lo :: rest)

def stringBody (rest : Text) : Except Fault (Text × Text) := do
  let (codes, tail) ← stringCodes (rest.length + 1) rest
  pure (joinCodes codes, tail)

def isDecimalDigit (c : Char) : Bool := '0' ≤ c && c ≤ '9'

/-- The fraction at the beginning of a text, and what follows it. -/
def fraction (t : Text) : Text × Text :=
  match t with
  | '.' :: rest =>
    let ds := rest.takeWhile isDecimalDigit
    if ds.isEmpty then ([], t) else ('.' :: ds, rest.dropWhile isDecimalDigit)
  | _ => ([], t)

/-- The exponent at the beginning of a text, and what follows it. -/
def exponent (t : Text) : Text × Text :=
  match t with
  | e :: rest =>
    if e = 'e' || e = 'E' then
      let (sign, digits) := match rest with
        | '+' :: r => (['+'], r)
        | '-' :: r => (['-'], r)
        | r => ([], r)
      let ds := digits.takeWhile isDecimalDigit
      if ds.isEmpty then ([], t) else (e :: sign ++ ds, digits.dropWhile isDecimalDigit)
    else ([], t)
  | [] => ([], t)

/-- The digits of a whole number at the beginning of a text: a lone zero, or a row that
    begins with another digit. -/
def wholeDigits (t : Text) : Text :=
  match t with
  | '0' :: _ => ['0']
  | _ => t.takeWhile isDecimalDigit

def number (t : Text) : Except Fault (Json × Text) :=
  let (negative, body) := match t with
    | '-' :: rest => (true, rest)
    | _ => (false, t)
  let ds := wholeDigits body
  if ds.isEmpty then fail .expectingValue t
  else
    let (frac, rest) := fraction (body.drop ds.length)
    let (exp, rest) := exponent rest
    if frac.isEmpty && exp.isEmpty then
      if ds.length > maxDigits then .error (.tooManyDigits ds.length)
      else
        let n : Int := digitsValue ds
        .ok (.integer (if negative then -n else n), rest)
    else
      .ok (.decimal ((if negative then ['-'] else []) ++ ds ++ frac ++ exp), rest)

def words : List (Text × Json) :=
  [("null", .null), ("true", .bool true), ("false", .bool false), ("NaN", .decimal "NaN"),
   ("Infinity", .decimal "Infinity"), ("-Infinity", .decimal "-Infinity")]

def word? (t : Text) : Option (Json × Text) :=
  (words.find? fun w => w.1.isPrefixOf t).map fun w => (w.2, t.drop w.1.length)

/-! ### Values -/

mutual

/-- A value at the beginning of a text.  The first number bounds the steps, the second is
    the number of levels left. -/
def value : Nat → Nat → Text → Except Fault (Json × Text)
  | 0, _, t => fail .expectingValue t
  | fuel + 1, depth, t =>
    match t with
    | [] => fail .expectingValue t
    | '\"' :: rest => do
      let (s, tail) ← stringBody rest
      pure (.string s, tail)
    | '\x7b' :: rest =>
      match depth with
      | 0 => .error (.tooDeep false)
      | depth + 1 =>
        let inner := skipSpace rest
        match inner with
        | '\x7d' :: tail => .ok (.object [], tail)
        | _ => do
          let (members, tail) ← members fuel depth inner
          pure (.object members, tail)
    | '[' :: rest =>
      match depth with
      | 0 => .error (.tooDeep true)
      | depth + 1 =>
        let inner := skipSpace rest
        match inner with
        | ']' :: tail => .ok (.array [], tail)
        | _ => do
          let (items, tail) ← items fuel depth inner
          pure (.array items, tail)
    | _ =>
      match word? t with
      | some r => .ok r
      | none => number t

/-- The members of an object, at least one, up to its closing brace. -/
def members : Nat → Nat → Text → Except Fault (List (Text × Json) × Text)
  | 0, _, t => fail .expectingName t
  | fuel + 1, depth, t =>
    match t with
    | '\"' :: rest => do
      let (name, tail) ← stringBody rest
      match skipSpace tail with
      | ':' :: tail => do
        let (v, tail) ← value fuel depth (skipSpace tail)
        match skipSpace tail with
        | '\x7d' :: tail => pure ([(name, v)], tail)
        | ',' :: tail => do
          let (more, tail) ← members fuel depth (skipSpace tail)
          pure ((name, v) :: more, tail)
        | other => fail .expectingComma other
      | other => fail .expectingColon other
    | _ => fail .expectingName t

/-- The items of an array, at least one, up to its closing bracket. -/
def items : Nat → Nat → Text → Except Fault (List Json × Text)
  | 0, _, t => fail .expectingValue t
  | fuel + 1, depth, t => do
    let (v, tail) ← value fuel depth t
    match skipSpace tail with
    | ']' :: tail => pure ([v], tail)
    | ',' :: tail => do
      let (more, tail) ← items fuel depth (skipSpace tail)
      pure (v :: more, tail)
    | other => fail .expectingComma other

end

/-- The value of a document, where values may nest so many levels. -/
def decodeWithin (depth : Nat) (doc : Text) : Except Fault Json :=
  if doc.head? = some '\ufeff' then .error (.malformed .byteOrderMark doc.length)
  else do
    let (v, rest) ← value (2 * doc.length + 2) depth (skipSpace doc)
    match skipSpace rest with
    | [] => pure v
    | left => fail .extraData left

/-- The levels that values may nest.  They share the stack with the calls above the reader, and
    about so many are left where a reply is read. -/
def maxDepth : Nat := 990

def decode (doc : Text) : Except Fault Json := decodeWithin maxDepth doc

end ScriptDiagnosis.Json
