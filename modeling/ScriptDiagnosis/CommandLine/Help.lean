/-
  ScriptDiagnosis/CommandLine/Help.lean
  =====================================
  The help texts, and what is printed when a command line is refused.
-/
import ScriptDiagnosis.CommandLine.Arguments

namespace ScriptDiagnosis.CommandLine
open Text

def Topic.name : Topic → Text
  | program => "snippet-review"
  | check => "snippet-review check"

def Topic.usage : Topic → Text
  | program => "usage: snippet-review [-h] \x7bcheck\x7d ...\n"
  | check =>
    ("usage: snippet-review check [-h] [--syntax-only] [--script] [--json]\n" : Text) ++
    "                            [--model MODEL] [--debug]\n" ++
    "                            [file]\n"

def Topic.details : Topic → Text
  | program =>
    ("\nSnippet Review Agent - syntax check plus AI bug review for JavaScript snippets\n" : Text) ++
    "\npositional arguments:\n" ++
    "  \x7bcheck\x7d     Available commands\n" ++
    "    check     Diagnose a JavaScript snippet\n" ++
    "\noptions:\n" ++
    "  -h, --help  show this help message and exit\n" ++
    "\nExamples:\n" ++
    "  # Diagnose a file\n" ++
    "  snippet-review check app.js\n" ++
    "\n  # Read from stdin, print JSON\n" ++
    "  cat app.js | snippet-review check --json\n" ++
    "\n  # Local syntax check only, no AI call\n" ++
    "  snippet-review check app.js --syntax-only\n"
  | check =>
    ("\npositional arguments:\n" : Text) ++
    "  file           Snippet file (default: read stdin)\n" ++
    "\noptions:\n" ++
    "  -h, --help     show this help message and exit\n" ++
    "  --syntax-only  Only run the local syntax check\n" ++
    "  --script       Parse as a plain script instead of a function body\n" ++
    "  --json         Print the diagnosis as JSON\n" ++
    "  --model MODEL  Claude model for the semantic review\n" ++
    "  --debug        Enable debug logging\n"

def Topic.help (t : Topic) : Text := t.usage ++ t.details

/-- What is printed when a command line is refused. -/
def refusal (t : Topic) (f : Fault) : Text :=
  t.usage ++ t.name ++ ": error: " ++ f.text ++ ['\n']

end ScriptDiagnosis.CommandLine
