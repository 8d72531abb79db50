/-
  ScriptDiagnosis/Diagnosis/Merge.lean
  ====================================
  One diagnosis from a syntax check and a review.  A failed review comes first, whatever the
  check said; then an invalid snippet; then suspected bugs; and if there is nothing of the
  three, the message of the check is good news.
-/
import ScriptDiagnosis.Diagnosis.Basic
import ScriptDiagnosis.Reply.Analysis
import ScriptDiagnosis.SyntaxCheck.Check

namespace ScriptDiagnosis.Diagnosis
open Text Reply SyntaxCheck

def bugsMessage : Text := "Possible logical bugs detected."
def deniedMessage : Text :=
  "API access denied. Please ensure your environment is correctly configured for the AI reviewer."
def failedMessage : Text :=
  "An unexpected error occurred during AI analysis. Please try again."

/-- What is said of a failed review.  No detail of the failure is shown. -/
def failureMessage (f : Failure) : Text :=
  if f.kind = .accessDenied || occurs "403" f.text then deniedMessage else failedMessage

/-- A text, if it is not empty. -/
def nonEmpty? (t : Text) : Option Text := if t.isEmpty then none else some t

def ofFailure (f : Failure) : Diagnosis :=
  { isValid := false, message := failureMessage f, kind := .runtime, severity := .error }

def ofAnalysis (s : SyntaxResult) (a : Analysis) : Diagnosis :=
  let base (isValid : Bool) (message : Text) (kind : DiagnosisKind) (severity : Severity) :
      Diagnosis :=
    ⟨isValid, message, kind, severity, s.line, s.column, nonEmpty? a.suggestionText,
      nonEmpty? a.fixedCode, nonEmpty? a.explanation, a.performanceTips.bind nonEmpty?⟩
  if !s.isValid then base false s.message .syntactic .error
  else if a.isPotentiallyBuggy then base true bugsMessage .logical .warning
  else base true s.message .clean .success

def merge (s : SyntaxResult) (review : Except Failure Analysis) : Diagnosis :=
  match review with
  | .error f => ofFailure f
  | .ok a => ofAnalysis s a

end ScriptDiagnosis.Diagnosis
