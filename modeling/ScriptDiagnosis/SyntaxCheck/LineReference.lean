/-
  ScriptDiagnosis/SyntaxCheck/LineReference.lean
  ==============================================
  Line numbers mentioned in prose.  `line 12` refers to a line wherever it stands, in any
  case, with one space and digits of any script.  A message that begins with `Line 12:`
  has that prefix removed before a new one is put in front.
-/
import ScriptDiagnosis.Text.Integer
import ScriptDiagnosis.Text.LineWord

namespace ScriptDiagnosis.SyntaxCheck
open Text

/-- The digits of the line that the text refers to at its beginning. -/
def lineDigitsHere? (t : Text) : Option Text :=
  match afterLineWord? t with
  | some (' ' :: rest) =>
    let ds := rest.takeWhile isDigit
    if ds.isEmpty then none else some ds
  | _ => none

/-- The digits of the first line that the text refers to. -/
def lineDigits? : Text → Option Text
  | [] => none
  | c :: rest =>
    match lineDigitsHere? (c :: rest) with
    | some ds => some ds
    | none => lineDigits? rest

/-- The first line that a text refers to, if its number is not too long to read. -/
def findLine (t : Text) : Except IntegerFault (Option Nat) :=
  match lineDigits? t with
  | none => .ok none
  | some ds => (readDigits ds).map some

/-- What is left of a text behind `Line 12:` and the white space after it. -/
def dropLinePrefix (t : Text) : Text :=
  match t with
  | 'L' :: 'i' :: 'n' :: 'e' :: ' ' :: rest =>
    let ds := rest.takeWhile isDigit
    match rest.drop ds.length with
    | ':' :: tail => if ds.isEmpty then t else tail.dropWhile isBlank
    | _ => t
  | _ => t

end ScriptDiagnosis.SyntaxCheck
