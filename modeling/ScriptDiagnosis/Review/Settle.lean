/-
  ScriptDiagnosis/Review/Settle.lean
  ==================================
  The failures of a review, settled.  One that the review knows is kept.  Any other that can
  be handled is wrapped as unexpected, with its text and its kind as the cause.  What cannot
  be handled goes on to the caller.
-/
import ScriptDiagnosis.Log.Record
import ScriptDiagnosis.Reply.Analysis

namespace ScriptDiagnosis.Review
open Text Reply

def failedRecord (f : Failure) : Log.Record :=
  ⟨.warning, Log.diagnosisLogger,
    ("Semantic review failed (" : Text) ++ f.kind.label ++ "): " ++ f.text, false⟩

def unexpectedRecord (f : Failure) : Log.Record :=
  ⟨.error, Log.diagnosisLogger,
    ("Semantic review raised an unexpected error: " : Text) ++ f.text, true⟩

/-- A failure, wrapped as unexpected. -/
def unexpected (f : Failure) : Failure := ⟨.unexpected, f.text, some f.kind⟩

/-- The result of a review, settled, with what is logged.  The outer error is a failure that
    nobody handles. -/
def settle (r : Except Failure Analysis) :
    List Log.Record × Except Failure (Except Failure Analysis) :=
  match r with
  | .ok a => ([], .ok (.ok a))
  | .error f =>
    if f.kind.ofReview then ([failedRecord f], .ok (.error f))
    else if f.kind.handled then ([unexpectedRecord f], .ok (.error (unexpected f)))
    else ([], .error f)

end ScriptDiagnosis.Review
