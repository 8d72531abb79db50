/-
  ScriptDiagnosis/Text/Template.lean
  ==================================
  Templates: fixed text with fields.  A field is a name in braces, and a brace of the text
  itself is written twice.  Filling a template goes over it once, from left to right, and
  puts the value of each field in its place.  It does not go over the values, so whatever
  braces are in them stay as they are.  The names are plain ones; nothing is said of how a
  value is to be laid out.
-/
import ScriptDiagnosis.Text.Quoted

namespace ScriptDiagnosis.Text

/-- Why a template cannot be filled. -/
inductive TemplateFault
  /-- A brace of the text that is not written twice. -/
  | single (brace : Char)
  /-- A field that does not end. -/
  | unclosed
  /-- A field that there is no value for. -/
  | missing (name : Text)
  deriving DecidableEq, Repr

def TemplateFault.text : TemplateFault → Text
  | .single brace => "Single '".toList ++ brace :: "' encountered in format string".toList
  | .unclosed => "expected '\x7d' before end of string".toList
  | .missing name => quoted name

def openingBrace : Char := '\x7b'
def closingBrace : Char := '\x7d'

def isBrace (c : Char) : Bool := c = openingBrace || c = closingBrace

/-- What the rest of a template comes to, with a value for each name.  Inside of a field the
    part of its name that has been read goes along. -/
def fillFrom (values : List (Text × Text)) : Option Text → Text → Except TemplateFault Text
  | none, [] => .ok []
  | some _, [] => .error .unclosed
  | some name, c :: rest =>
    if c = closingBrace then
      match values.lookup name with
      | some value => (fillFrom values none rest).map (value ++ ·)
      | none => .error (.missing name)
    else fillFrom values (some (name ++ [c])) rest
  | none, [c] => if isBrace c then .error (.single c) else .ok [c]
  | none, c :: d :: rest =>
    if c = openingBrace then
      if d = openingBrace then (fillFrom values none rest).map (c :: ·)
      else fillFrom values (some []) (d :: rest)
    else if c = closingBrace then
      if d = closingBrace then (fillFrom values none rest).map (c :: ·)
      else .error (.single c)
    else (fillFrom values none (d :: rest)).map (c :: ·)

def fill (template : Text) (values : List (Text × Text)) : Except TemplateFault Text :=
  fillFrom values none template

end ScriptDiagnosis.Text
