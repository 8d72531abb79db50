/-
  ScriptDiagnosis/Script/Program.lean
  ===================================
  Reading a whole script.  The rules of the grammar call each other one level further
  down; here the levels are counted.  Scripts that people write stay far above the last
  one, and a script that goes beyond it is given up without a verdict on it.
-/
import ScriptDiagnosis.Script.Grammar.Statement

namespace ScriptDiagnosis.Script
open Parse

def rules : Nat → Rules
  | 0 =>
    { assignment := stop .tooDeep, unary := stop .tooDeep, power := stop .tooDeep
      expression := stop .tooDeep, callee := stop .tooDeep, chain := stop .tooDeep
      statement := stop .tooDeep, item := stop .tooDeep, functionBody := stop .tooDeep
      pattern := fun _ => stop .tooDeep }
  | n + 1 =>
    let r := rules n
    { assignment := assignmentRule r, unary := unaryRule r, power := powerRule r
      expression := expressionRule r, callee := calleeRule r, chain := chainRule r
      statement := statementRule r, item := itemRule r, functionBody := functionBodyRule r
      pattern := patternRule r }

/-- The levels that a script may use. -/
def maxDepth : Nat := 600

/-- The reader in front of a source, with its first token ahead. -/
def firstState (src : Source) : Except Stop State := do
  let c := Cursor.first src
  let start : State :=
    { cursor := c
      lookahead := { kind := .endOfSource, value := "", line := c.line, start := 0, stop := 0 }
      startMark := ⟨0, c.line, 0⟩
      lastMark := ⟨0, c.line, 0⟩ }
  let (_, st) ← (nextToken.run src).run start
  return { st with lastMark := st.cursor.mark }

/-- The statements of a script, by where they end. -/
def program : Parse (List Mark) := do
  let r := rules maxDepth
  let opening ← directives r
  loop opening.reverse fun ends => do
    if ← atEnd then return .inr ends.reverse
    r.item
    return .inl ((← lastMark) :: ends)

/-- Read a script: where its statements end, or why there is no program in it. -/
def readScript (text : Text) : Except Stop (List Mark) := do
  let src : Source := text.toArray
  let (ends, _) ← (program.run src).run (← firstState src)
  return ends

end ScriptDiagnosis.Script
