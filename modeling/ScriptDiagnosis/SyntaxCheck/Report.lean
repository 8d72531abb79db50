/-
  ScriptDiagnosis/SyntaxCheck/Report.lean
  =======================================
  What is said about a syntax check: the line that shows its verdict to a person, the record
  that goes to the log, and the verdict as JSON.
-/
import ScriptDiagnosis.Json.Basic
import ScriptDiagnosis.Log.Record
import ScriptDiagnosis.SyntaxCheck.Check

namespace ScriptDiagnosis.SyntaxCheck
open Text

/-- The line that a fault is shown with; line zero is not shown. -/
def shownLine (line : Option Int) : Text :=
  match line with
  | some n => if n = 0 then [] else (" (line " : Text) ++ ofInt n ++ ")"
  | none => []

/-- The verdict, in one line. -/
def SyntaxResult.text (r : SyntaxResult) : Text :=
  if r.isValid then ("✅ " : Text) ++ r.message
  else ("❌ " : Text) ++ r.message ++ shownLine r.line

def SyntaxResult.json (r : SyntaxResult) : Json :=
  .object [("is_valid", .bool r.isValid), ("message", .string r.message),
    ("line", Json.ofInt? r.line), ("column", Json.ofInt? r.column)]

/-- What the log says of a verdict, given the answer that it rests on. -/
def verdictMessage (answer : ParserAnswer) (r : SyntaxResult) : Text :=
  match answer with
  | .failed f => ("Parser aborted: " : Text) ++ f.shown
  | _ => if r.isValid then "Syntax check passed" else ("Syntax check failed: " : Text) ++ r.message

def loggedVerdict (mode : Mode) (snippet : Text) (answer : ParserAnswer) :
    List Log.Record × Except Failure SyntaxResult :=
  match verdict mode snippet answer with
  | .ok r => ([⟨.debug, Log.checkLogger, verdictMessage answer r, false⟩], .ok r)
  | .error f => ([], .error f)

end ScriptDiagnosis.SyntaxCheck
