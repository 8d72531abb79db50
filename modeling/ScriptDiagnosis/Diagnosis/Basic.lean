/-
  ScriptDiagnosis/Diagnosis/Basic.lean
  ====================================
  The diagnosis of a snippet: what kind of problem it reports, how severe it is, where, and
  what the reviewer says about it.  A kind may carry one severity only, and a diagnosis that
  the review failed never calls the snippet valid.
-/
import ScriptDiagnosis.Failure
import ScriptDiagnosis.Suggestion.Blocks
import ScriptDiagnosis.Text.Quoted

namespace ScriptDiagnosis
open Text

/-- What a diagnosis reports. -/
inductive DiagnosisKind
  /-- The snippet does not parse. -/
  | syntactic
  /-- It parses, but the reviewer suspects bugs. -/
  | logical
  /-- The review itself failed. -/
  | runtime
  /-- Nothing was found. -/
  | clean
  deriving DecidableEq, Repr

inductive Severity
  | error
  | warning
  | success
  deriving DecidableEq, Repr

namespace Severity

def all : List Severity := [error, warning, success]

def name : Severity → Text
  | error => "error"
  | warning => "warning"
  | success => "success"

def ofName? (t : Text) : Option Severity := all.find? fun s => s.name = t

end Severity

namespace DiagnosisKind

def all : List DiagnosisKind := [syntactic, logical, runtime, clean]

def name : DiagnosisKind → Text
  | syntactic => "syntax"
  | logical => "logical"
  | runtime => "runtime"
  | clean => "none"

def ofName? (t : Text) : Option DiagnosisKind := all.find? fun k => k.name = t

/-- The only severity that a diagnosis of the kind may carry. -/
def severity : DiagnosisKind → Severity
  | syntactic | runtime => .error
  | logical => .warning
  | clean => .success

end DiagnosisKind

structure Diagnosis where
  isValid : Bool
  message : Text
  kind : DiagnosisKind
  severity : Severity
  line : Option Int := none
  column : Option Int := none
  suggestionText : Option Text := none
  fixedCode : Option Text := none
  explanation : Option Text := none
  performanceTips : Option Text := none
  deriving DecidableEq, Repr

namespace Diagnosis

/-- Why a diagnosis is refused. -/
inductive Fault
  | unknownKind (name : Text)
  | unknownSeverity (name : Text)
  | severityMismatch (kind : DiagnosisKind) (severity : Severity)
  | validRuntime
  deriving DecidableEq, Repr

def Fault.text : Fault → Text
  | unknownKind name => quoted name ++ " is not a valid DiagnosisKind"
  | unknownSeverity name => quoted name ++ " is not a valid Severity"
  | severityMismatch kind severity =>
    kind.name ++ " diagnosis must have severity " ++ kind.severity.name ++ ", got " ++
      severity.name
  | validRuntime => "runtime diagnosis cannot be valid"

def Fault.failure (f : Fault) : Failure := ⟨.value, f.text, none⟩

/-- The first thing that is wrong with a diagnosis. -/
def fault? (d : Diagnosis) : Option Fault :=
  if d.severity ≠ d.kind.severity then some (.severityMismatch d.kind d.severity)
  else if d.kind = .runtime ∧ d.isValid = true then some .validRuntime
  else none

/-- The diagnosis, unless something is wrong with it. -/
def checked (d : Diagnosis) : Except Fault Diagnosis :=
  match d.fault? with
  | some f => .error f
  | none => .ok d

/-- A kind and a severity, by their names; the kind is looked up first. -/
def kindAndSeverity (kind severity : Text) : Except Fault (DiagnosisKind × Severity) :=
  match DiagnosisKind.ofName? kind, Severity.ofName? severity with
  | none, _ => .error (.unknownKind kind)
  | some _, none => .error (.unknownSeverity severity)
  | some k, some s => .ok (k, s)

/-- The lines of the corrected code; there are none if there is no code. -/
def fixedLines (d : Diagnosis) : List Text :=
  match d.fixedCode with
  | none => []
  | some t => if t.isEmpty then [] else lines t

/-- The suggestion, in blocks. -/
def annotations (d : Diagnosis) : List Suggestion.Block :=
  Suggestion.blocks (d.suggestionText.getD [])

/-- Was nothing found? -/
def isSuccess (d : Diagnosis) : Bool := d.severity = .success

end Diagnosis
end ScriptDiagnosis
