/-
  ScriptDiagnosis/Diagnosis/Run.lean
  ==================================
  The whole way from a snippet to its diagnosis: the syntax check, the review with the
  check's complaint for context, and the two merged.  The check may fail in a way that it
  does not recover from, and a review may be cancelled; then there is no diagnosis.
-/
import ScriptDiagnosis.Diagnosis.Merge
import ScriptDiagnosis.Review.Run
import ScriptDiagnosis.Review.Settle
import ScriptDiagnosis.SyntaxCheck.Report

namespace ScriptDiagnosis.Diagnosis
open Text SyntaxCheck Review

/-- What an observer sees of a diagnosis. -/
structure Trace where
  prompts : List Text
  delays : List Seconds
  logs : List Log.Record
  result : Except Failure Diagnosis
  deriving Repr

def info (message : Text) : Log.Record := ⟨.info, Log.diagnosisLogger, message, false⟩

def checkedRecords (s : SyntaxResult) : List Log.Record :=
  [info (("Stage 1 complete: syntax " : Text) ++
      (if s.isValid then ("valid" : Text) else "invalid")),
   info "Stage 2: Requesting semantic review..."]

def requestFor (snippet : Text) (s : SyntaxResult) : Request :=
  ⟨snippet, if s.isValid then none else some s.message⟩

def mergedRecord (d : Diagnosis) : Log.Record :=
  info (("Stage 3 complete: " : Text) ++ d.kind.name ++ " (" ++ d.severity.name ++ ")")

/-- The end of the way: from the result of the review to the diagnosis, with what is
    logged. -/
def conclude (s : SyntaxResult) (r : Except Failure Reply.Analysis) :
    List Log.Record × Except Failure Diagnosis :=
  match settle r with
  | (logs, .error f) => (logs, .error f)
  | (logs, .ok settled) =>
    let d := merge s settled
    (logs ++ [mergedRecord d], .ok d)

/-- Diagnose a snippet, given what the parser answers to its source. -/
def diagnose (mode : Mode) (answer : ParserAnswer) (c : Config) (reviewer : Reviewer)
    (snippet : Text) : Trace :=
  match loggedVerdict mode snippet answer with
  | (logs, .error f) => ⟨[], [], logs, .error f⟩
  | (logs, .ok s) =>
    let t := review c (requestFor snippet s) reviewer
    let (ending, result) := conclude s t.result
    ⟨t.prompts, t.delays, logs ++ checkedRecords s ++ t.logs ++ ending, result⟩

end ScriptDiagnosis.Diagnosis
