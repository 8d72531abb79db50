/-
  ScriptDiagnosis/Review/Prompt.lean
  ==================================
  What the reviewer is asked.  The snippet stands unchanged in a fixed text, and if it has a
  syntax error, a note with the error's message stands before it.  Both texts are templates;
  the note is filled first and is then the value of a field itself.
-/
import ScriptDiagnosis.Failure.Wording
import ScriptDiagnosis.Text.Template

namespace ScriptDiagnosis.Review
open Text

/-- What is asked for: a snippet, and the message of its syntax error if it has one. -/
structure Request where
  code : Text
  complaint : Option Text := none
  deriving DecidableEq, Repr

/-- How the reviewer is introduced to its task. -/
def systemPrompt : Text :=
  ("You are an expert JavaScript code reviewer. You find syntax errors,\n" : Text) ++
    "logical bugs and performance problems, and you always answer with the exact JSON\n" ++
    "object you are asked for."

/-! ### The templates

Each is named piece by piece: the fixed text between two fields, or between two braces. -/

def promptHead : Text :=
  "\nAnalyze the following JavaScript code for any bugs, logical errors, or performance issues.\n"

def promptBeforeCode : Text := "\n## Code to Analyze\n```javascript\n"

def promptRequirements : Text :=
  ("\n```\n\n## Requirements for Your Response\n" : Text) ++
  "1. For the 'aiSuggestion' field: List every error or issue. " ++
  "START each issue with \"Line X:\" on a NEW LINE.\n" ++
  "2. For the 'fixedCode' field: Provide the complete, corrected version of the code.\n" ++
  "3. For 'logicalErrorExplanation': Provide a high-level overview.\n" ++
  "4. For 'performanceTips': Provide optimization advice.\n\n" ++
  "## Output Format\nReply with a single JSON object and nothing else:\n"

def promptAnswerFields : Text :=
  ("\n  \"isPotentiallyBuggy\": true | false,\n" : Text) ++
  "  \"aiSuggestion\": \"Detailed list of fixes, each starting with 'Line X:'\",\n" ++
  "  \"fixedCode\": \"The full corrected JavaScript code snippet.\",\n" ++
  "  \"logicalErrorExplanation\": \"A summary of the logical flaws found.\",\n" ++
  "  \"performanceTips\": \"Optional tips for better performance.\"\n"

def promptTemplate : Text :=
  promptHead ++ "\x7bsyntax_error_note\x7d" ++ promptBeforeCode ++ "\x7bcode\x7d" ++
  promptRequirements ++ "\x7b\x7b" ++ promptAnswerFields ++ "\x7d\x7d\n"

def noteHead : Text := "A syntax error was reported by the parser: \""
def noteTail : Text := "\". Please prioritize explaining and fixing this error."

def noteTemplate : Text := noteHead ++ "\x7bmessage\x7d" ++ noteTail ++ "\n"

/-! ### Filling them -/

/-- The note on a syntax error; an empty message counts as none. -/
def fillNote (complaint : Option Text) : Except TemplateFault Text :=
  match complaint with
  | some m => if m.isEmpty then .ok [] else fill noteTemplate [("message", m)]
  | none => .ok []

def fillPrompt (r : Request) : Except TemplateFault Text := do
  let note ← fillNote r.complaint
  fill promptTemplate [("syntax_error_note", note), ("code", r.code)]

def templateFailure : TemplateFault → Failure
  | .missing name => Failure.missingKey name
  | f => ⟨.value, f.text, none⟩

/-- What is asked, if the templates can be filled. -/
def renderPrompt (r : Request) : Except Failure Text := (fillPrompt r).mapError templateFailure

/-- What is asked.  The templates can be filled whatever the request is. -/
def prompt (r : Request) : Text := (renderPrompt r).toOption.getD []

end ScriptDiagnosis.Review
