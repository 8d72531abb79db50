/-
  ScriptDiagnosis/Config.lean
  ===========================
  The settings of a review: the credential and the model, how many attempts are made, and
  how long the first pause between two of them is.  There is at least one attempt, and no
  pause is negative.  Settings come from a caller or from the environment.
-/
import ScriptDiagnosis.Decimal.Seconds
import ScriptDiagnosis.Failure
import ScriptDiagnosis.Text.Integer

namespace ScriptDiagnosis
open Text

def defaultModel : Text := "claude-sonnet-4-5"

structure Config where
  apiKey : Option Text := none
  model : Text := defaultModel
  /-- Where the provider's command is; it is looked for when this is absent. -/
  cliPath : Option Text := none
  maxTurns : Int := 1
  maxAttempts : Int := 1
  /-- The first pause. -/
  backoff : Seconds := .float .half
  attempts_pos : 1 ≤ maxAttempts := by decide
  backoff_nonneg : backoff.isBelowZero = false := by decide
  deriving DecidableEq, Repr

namespace Config

/-- The credential, if there is one: an empty one is none. -/
def credential? (c : Config) : Option Text :=
  match c.apiKey with
  | some k => if k.isEmpty then none else some k
  | none => none

/-- Why settings are refused. -/
inductive Fault
  | tooFewAttempts
  | negativeBackoff
  | attempts (f : IntegerFault)
  deriving DecidableEq, Repr

def Fault.text : Fault → Text
  | tooFewAttempts => "max_attempts must be at least 1"
  | negativeBackoff => "retry_backoff_seconds must not be negative"
  | attempts f => f.text

def Fault.failure (f : Fault) : Failure := ⟨.value, f.text, none⟩

/-- The settings with the given values, if they are admitted. -/
def make (apiKey : Option Text) (model : Text) (cliPath : Option Text) (maxTurns : Int)
    (maxAttempts : Int) (backoff : Seconds) : Except Fault Config :=
  if h : 1 ≤ maxAttempts then
    if hb : backoff.isBelowZero = false then
      .ok ⟨apiKey, model, cliPath, maxTurns, maxAttempts, backoff, h, hb⟩
    else .error .negativeBackoff
  else .error .tooFewAttempts

/-! ### The environment -/

/-- The values of variables; a variable may have none. -/
abbrev Environment := Text → Option Text

def keyVariable : Text := "ANTHROPIC_API_KEY"
def modelVariable : Text := "SNIPPET_REVIEW_MODEL"
def cliPathVariable : Text := "SNIPPET_REVIEW_CLI_PATH"
def attemptsVariable : Text := "SNIPPET_REVIEW_MAX_ATTEMPTS"

def ofEnvironment (env : Environment) : Except Fault Config :=
  match readInteger ((env attemptsVariable).getD "1") with
  | .error f => .error (.attempts f)
  | .ok n =>
    make (env keyVariable) ((env modelVariable).getD defaultModel) (env cliPathVariable) 1 n
      (.float .half)

end Config
end ScriptDiagnosis
