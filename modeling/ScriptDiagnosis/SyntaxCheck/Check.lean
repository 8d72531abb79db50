/-
  ScriptDiagnosis/SyntaxCheck/Check.lean
  ======================================
  Does a snippet parse?  It is checked as the body of a function, so that it may return,
  or as a script of its own.  As a body it is put between a head and a tail, and what the
  parser says about the whole is carried back to the snippet: one line up, and never
  outside it.

  The parser is a parameter.  All that is known of it is what it answers: where the
  statements of a program end, a fault with the place it has, or a failure of the parser
  itself.
-/
import ScriptDiagnosis.Failure.Wording
import ScriptDiagnosis.SyntaxCheck.LineReference

namespace ScriptDiagnosis.SyntaxCheck
open Text

/-- The verdict on a snippet.  A column without a line does not place anything. -/
structure SyntaxResult where
  isValid : Bool
  message : Text
  line : Option Int := none
  column : Option Int := none
  deriving DecidableEq, Repr

/-- A place as the parser gives it: lines count from one, columns from zero. -/
structure Place where
  line : Int
  column : Int
  deriving DecidableEq, Repr

/-- What a parser answers to a source. -/
inductive ParserAnswer
  /-- A program, by where each of its statements ends. -/
  | program (ends : List Place)
  /-- A fault in the source. -/
  | fault (text : Text) (line column : Option Int)
  /-- A failure of the parser. -/
  | failed (f : Failure)
  deriving Repr

/-- How a snippet is read. -/
inductive Mode
  | functionBody
  | script
  deriving DecidableEq, Repr

def okMessage : Text := "Syntax check passed! No obvious errors found."
def unknownMessage : Text := "Unknown syntax error"

/-- What stands in front of a snippet that is a function's body: one line. -/
def wrapperHead : Text := "function anonymous() \x7b\n"
def wrapperTail : Text := "\n\x7d"

def sourceFor (mode : Mode) (snippet : Text) : Text :=
  match mode with
  | .functionBody => wrapperHead ++ snippet ++ wrapperTail
  | .script => snippet

def lineMessage (line : Int) (description : Text) : Text :=
  ("Line " : Text) ++ ofInt line ++ ": " ++ description

def IntegerFault.failure (f : IntegerFault) : Failure := ⟨.value, f.text, none⟩

/-- The place of a fault in a snippet of which so many lines are known, the last of them
    being so long.  Behind the snippet is its end; before it, its first line. -/
def relocate (lines lastLength : Nat) (line : Int) (column : Option Int) :
    Int × Option Int :=
  let line := line - 1
  if line > lines then (lines, some (lastLength + 1))
  else if line < 1 then (1, none)
  else (line, column)

/-- The verdict on a snippet in which the parser found a fault. -/
def faultResult (mode : Mode) (snippet text : Text) (line column : Option Int) :
    Except Failure SyntaxResult := do
  let rest := dropLinePrefix text
  let description := if rest.isEmpty then unknownMessage else rest
  let (line, column) := match mode, line with
    | .functionBody, some n =>
      let ls := lines snippet
      let (n, column) := relocate ls.length (ls.getLastD []).length n column
      (some n, column)
    | _, line => (line, column)
  let line ← match line with
    | some n => pure (some n)
    | none =>
      match findLine text with
      | .ok n => pure (n.map fun (n : Nat) => (n : Int))
      | .error f => .error (IntegerFault.failure f)
  match line with
  | none => pure ⟨false, description, none, column⟩
  | some n =>
    if writable n then pure ⟨false, lineMessage n description, some n, column⟩
    else .error .unwritable

/-- The verdict on a body that ends the function around it before its own end: at the
    brace where the first statement ends. -/
def earlyEnd (ends : List Place) : Except Failure SyntaxResult :=
  match ends with
  | [] => .error ⟨.index, "list index out of range", none⟩
  | p :: _ =>
    let line := max (p.line - 1) 1
    if writable line then
      .ok ⟨false, lineMessage line "Unexpected token \x7d", some line, some p.column⟩
    else .error .unwritable

/-- Failures of the parser that say no more than that it gave up. -/
def givesUp (k : FailureKind) : Bool := k.isA .recursion || k.isA .value || k.isA .index

/-- The verdict on a snippet, from what the parser answers to its source. -/
def verdict (mode : Mode) (snippet : Text) (answer : ParserAnswer) :
    Except Failure SyntaxResult :=
  match answer with
  | .fault text line column => faultResult mode snippet text line column
  | .failed f => if givesUp f.kind then .ok ⟨false, unknownMessage, none, none⟩ else .error f
  | .program ends =>
    if mode = .functionBody && ends.length ≠ 1 then earlyEnd ends
    else .ok ⟨true, okMessage, none, none⟩

def check (parse : Text → ParserAnswer) (mode : Mode) (snippet : Text) :
    Except Failure SyntaxResult :=
  verdict mode snippet (parse (sourceFor mode snippet))

end ScriptDiagnosis.SyntaxCheck
