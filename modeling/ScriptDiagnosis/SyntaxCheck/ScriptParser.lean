/-
  ScriptDiagnosis/SyntaxCheck/ScriptParser.lean
  =============================================
  The reader of scripts, as the parser of a syntax check.  A source that nests too deeply
  is a failure of the parser, and so is a template with an empty substitution: neither
  says that the source is wrong, or where.
-/
import ScriptDiagnosis.Script.Program
import ScriptDiagnosis.SyntaxCheck.Check

namespace ScriptDiagnosis.SyntaxCheck
open Script Text

/-- A fault, worded with its line. -/
def faultAnswer (f : Fault) : ParserAnswer :=
  .fault (lineMessage f.line f.complaint.text) (some f.line) (some f.column)

def parseScript (source : Text) : ParserAnswer :=
  match readScript source with
  | .ok ends => .program (ends.map fun m => ⟨m.line, m.column⟩)
  | .error (.fault f) => faultAnswer f
  | .error .tooDeep => .failed ⟨.recursion, "maximum recursion depth exceeded", none⟩
  | .error .headlessTemplate =>
    .failed ⟨.assertion, "Template literal must start with a template head", none⟩

end ScriptDiagnosis.SyntaxCheck
