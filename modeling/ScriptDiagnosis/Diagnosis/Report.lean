/-
  ScriptDiagnosis/Diagnosis/Report.lean
  =====================================
  A diagnosis for readers: a summary in Markdown for people, and JSON for programs.  The
  summary has a headline with an icon, the message, and a part for each thing that is
  there; line zero is not shown.
-/
import ScriptDiagnosis.Diagnosis.Basic
import ScriptDiagnosis.Json.Basic

namespace ScriptDiagnosis.Diagnosis
open Text

/-! ### The summary -/

def icon : Severity → Text
  | .error => "❌"
  | .warning => "⚠️"
  | .success => "✅"

/-- The headline; a failed review has its own. -/
def headline (d : Diagnosis) : Text :=
  if d.kind = .runtime then "AI Analysis Unavailable"
  else match d.severity with
    | .error => "Syntax Violation Detected"
    | .warning => "Logical Optimization Found"
    | .success => "Standard Validation Clear"

def blockLine (b : Suggestion.Block) : Text :=
  if b.label.isEmpty then ("- " : Text) ++ b.content
  else ("- **" : Text) ++ b.label ++ "**: " ++ b.content

/-- The lines of a part, unless its text is absent or empty. -/
def partLines (title : Text) (body : Text → List Text) : Option Text → List Text
  | none => []
  | some t => if t.isEmpty then [] else [] :: title :: body t

/-- The lines that show where the problem is. -/
def placeLines (line : Option Int) : List Text :=
  match line with
  | none => []
  | some n =>
    if n = 0 then [] else [[], ("Line " : Text) ++ ofInt n ++ " - Likely error location"]

def suggestionLines (blocks : List Suggestion.Block) : List Text :=
  if blocks.isEmpty then [] else [] :: ("### Suggestions" : Text) :: blocks.map blockLine

def summaryLines (d : Diagnosis) : List Text :=
  [("## " : Text) ++ icon d.severity ++ " " ++ headline d, [], d.message] ++
    placeLines d.line ++
    partLines "### Explanation" (fun t => [t]) d.explanation ++
    suggestionLines d.annotations ++
    partLines "### Proposed Solution" (fun t => ["```javascript", t, "```"]) d.fixedCode ++
    partLines "### Performance Tips" (fun t => [t]) d.performanceTips

def summary (d : Diagnosis) : Text := join ['\n'] (summaryLines d)

/-! ### JSON -/

def blockJson (b : Suggestion.Block) : Json :=
  .object [("label", .string b.label), ("content", .string b.content)]

def json (d : Diagnosis) : Json :=
  .object [("is_valid", .bool d.isValid), ("message", .string d.message),
    ("kind", .string d.kind.name), ("severity", .string d.severity.name),
    ("line", Json.ofInt? d.line), ("column", Json.ofInt? d.column),
    ("suggestion_text", Json.ofText? d.suggestionText),
    ("fixed_code", Json.ofText? d.fixedCode), ("explanation", Json.ofText? d.explanation),
    ("performance_tips", Json.ofText? d.performanceTips),
    ("annotations", .array (d.annotations.map blockJson))]

end ScriptDiagnosis.Diagnosis
