/-
  ScriptDiagnosis/Script/Grammar/Statement.lean
  =============================================
  Statements and declarations.  Nothing is remembered of them but what a later one may
  ask for: the labels around it, and whether a loop, a switch or a function is open.
-/
import ScriptDiagnosis.Script.Grammar.Expression

namespace ScriptDiagnosis.Script
open Parse

/-! ### Declarations -/

/-- A variable that has been declared, as far as a `for` asks. -/
structure Declarator where
  target : Expr
  initialised : Bool

/-- Strict code binds neither `eval` nor `arguments`. -/
def checkVariable (target : Expr) : Parse Unit := do
  match target with
  | .name n => if (← isStrict) && restrictedNames.contains n then failHere .strictVariableName
  | _ => pure ()

/-- `= value` -/
def initialiser (r : Rules) : Parse Unit := do
  expect "="
  let _ ← isolate r.assignment

/-- A variable of `let` or `const`. -/
def lexicalBinding (r : Rules) (constant inFor : Bool) : Parse Declarator := do
  let (target, _) ← r.pattern .lexical
  checkVariable target
  if constant then
    if (← nextIsWord "in") || (← nextIsName "of") then return ⟨target, false⟩
    else if ← nextIs "=" then
      initialiser r
      return ⟨target, true⟩
    else failLast .missingInitialiser
  else if (!inFor && !target.isName) || (← nextIs "=") then
    initialiser r
    return ⟨target, true⟩
  else return ⟨target, false⟩

/-- A variable of `var`. -/
def varBinding (r : Rules) (inFor : Bool) : Parse Declarator := do
  let (target, _) ← r.pattern .var
  checkVariable target
  if ← nextIs "=" then
    initialiser r
    return ⟨target, true⟩
  else if !target.isName && !inFor then
    expect "="
    return ⟨target, false⟩
  else return ⟨target, false⟩

def declarators (one : Parse Declarator) : Parse (List Declarator) := do
  let first ← one
  loop [first] fun ds => do
    if ← nextIs "," then
      skip
      return .inl ((← one) :: ds)
    else return .inr ds.reverse

def lexicalDeclaration (r : Rules) : Parse Unit := do
  let kind ← nextToken
  let _ ← declarators (lexicalBinding r (kind.value = "const") false)
  semicolon

def variableStatement (r : Rules) : Parse Unit := do
  expectWord "var"
  let _ ← declarators (varBinding r false)
  semicolon

/-! ### Simple statements -/

def block (r : Rules) : Parse Unit := do
  expect "\x7b"
  loop () fun _ => do
    if ← nextIs "\x7d" then return .inr ()
    r.item
    return .inl ()
  expect "\x7d"

def expressionStatement (r : Rules) : Parse Unit := do
  let _ ← r.expression
  semicolon

/-- An expression in parentheses, as loops and branches have it. -/
def condition (r : Rules) : Parse Unit := do
  expect "("
  let _ ← r.expression
  expect ")"

/-- A branch of `if`. -/
def branch (r : Rules) : Parse Unit := do
  if (← isStrict) && (← nextIsWord "function") then failHere .strictFunctionPlace
  r.statement

def ifStatement (r : Rules) : Parse Unit := do
  expectWord "if"
  condition r
  branch r
  if ← nextIsWord "else" then
    skip
    branch r

def debuggerStatement : Parse Unit := do
  expectWord "debugger"
  semicolon

/-- `continue` and `break`, with the label they may have. -/
def jump (word : String) (allowed : Setting → Bool) (stray : Complaint) : Parse Unit := do
  expectWord word
  let t ← lookahead
  if t.kind = .identifier && !(← lineBreak) then
    let name ← bindingName .plain
    if !(← setting).labels.contains name then failLast (.labelUnknown name)
    semicolon
  else
    semicolon
    if !allowed (← setting) then failLast stray

def continueStatement : Parse Unit := jump "continue" (·.inLoop) .strayContinue

def breakStatement : Parse Unit := jump "break" (fun s => s.inLoop || s.inSwitch) .strayBreak

/-- `return`.  A string or template is its value even when it ends on a later line. -/
def returnStatement (r : Rules) : Parse Unit := do
  if !(← setting).inFunction then failHere .strayReturn
  expectWord "return"
  let t ← lookahead
  let sameLine := !(← nextIs ";") && !(← nextIs "\x7d") && !(← lineBreak) && !(← atEnd)
  if sameLine || t.kind = .string || t.kind = .template then
    let _ ← r.expression
  semicolon

def throwStatement (r : Rules) : Parse Unit := do
  expectWord "throw"
  if ← lineBreak then failLast .throwLineBreak
  let _ ← r.expression
  semicolon

def withStatement (r : Rules) : Parse Unit := do
  if ← isStrict then failHere .strictWith
  expectWord "with"
  condition r
  r.statement

/-- An expression statement, or a label and what it labels. -/
def labelledStatement (r : Rules) : Parse Unit := do
  let e ← r.expression
  match e with
  | .name label =>
    if ← nextIs ":" then
      skip
      if (← setting).labels.contains label then failLast (.labelTwice label)
      setSetting fun s => { s with labels := label :: s.labels }
      if ← nextIsWord "class" then unexpected (← lookahead)
      else if ← nextIsWord "function" then
        let t ← lookahead
        let isGenerator ← functionDeclaration r
        if ← isStrict then failAt t .strictFunctionPlace
        if isGenerator then failAt t .generatorLabelled
      else r.statement
      setSetting fun s => { s with labels := s.labels.erase label }
    else semicolon
  | _ => semicolon

/-! ### Loops -/

def doStatement (r : Rules) : Parse Unit := do
  expectWord "do"
  inLoop r.statement
  expectWord "while"
  condition r
  if ← nextIs ";" then skip

def whileStatement (r : Rules) : Parse Unit := do
  expectWord "while"
  condition r
  inLoop r.statement

/-- What the head of a `for` has turned out to be after its first part. -/
inductive ForHead
  | each         -- over the keys or values of something
  | counting     -- a test and an update are still to come

/-- The head of a `for` that declares with `var`. -/
def forVar (r : Rules) : Parse ForHead := do
  skip
  let ds ← withIn false (declarators (varBinding r true))
  match ds with
  | [d] =>
    if ← nextIsWord "in" then
      if d.initialised && (!d.target.isName || (← isStrict)) then failHere .forInInitialised
      skip
      let _ ← r.expression
      return .each
    else if !d.initialised && (← nextIsName "of") then
      skip
      let _ ← r.assignment
      return .each
    else
      expect ";"
      return .counting
  | _ =>
    expect ";"
    return .counting

/-- The head of a `for` that declares with `let` or `const`; before `in`, in code that is
    not strict, the word itself is the variable. -/
def forLexical (r : Rules) : Parse ForHead := do
  let kind ← nextToken
  if !(← isStrict) && (← lookahead).value = "in" then
    skip
    let _ ← r.expression
    return .each
  else
    let ds ← withIn false (declarators (lexicalBinding r (kind.value = "const") true))
    match ds with
    | [⟨_, false⟩] =>
      if ← nextIsWord "in" then
        skip
        let _ ← r.expression
        return .each
      else if ← nextIsName "of" then
        skip
        let _ ← r.assignment
        return .each
      else
        semicolon
        return .counting
    | _ =>
      semicolon
      return .counting

/-- The head of a `for` that begins with an expression. -/
def forExpression (r : Rules) : Parse ForHead := do
  let e ← withIn false (inherit r.assignment)
  let isTarget : Parse Bool := do
    match e with
    | .assign _ _ => return false
    | _ => return (← cover).assignable
  if ← nextIsWord "in" then
    if !(← isTarget) then failHere .badForInTarget
    skip
    let _ ← r.expression
    return .each
  else if ← nextIsName "of" then
    if !(← isTarget) then failHere .badForOfTarget
    skip
    let _ ← r.assignment
    return .each
  else
    loop () fun _ => do
      if ← nextIs "," then
        skip
        let _ ← isolate r.assignment
        return .inl ()
      else return .inr ()
    expect ";"
    return .counting

def forStatement (r : Rules) : Parse Unit := do
  expectWord "for"
  expect "("
  let head ←
    if ← nextIs ";" then
      skip
      pure .counting
    else if ← nextIsWord "var" then forVar r
    else if (← nextIsWord "const") || (← nextIsWord "let") then forLexical r
    else forExpression r
  match head with
  | .each => pure ()
  | .counting =>
    if !(← nextIs ";") then
      let _ ← r.expression
    expect ";"
    if !(← nextIs ")") then
      let _ ← r.expression
  expect ")"
  inLoop (isolate r.statement)

/-! ### Switches and exceptions -/

/-- One clause of a switch; tell whether it is the default. -/
def switchClause (r : Rules) : Parse Bool := do
  let isDefault ← nextIsWord "default"
  if isDefault then skip
  else
    expectWord "case"
    let _ ← r.expression
  expect ":"
  loop () fun _ => do
    if (← nextIs "\x7d") || (← nextIsWord "default") || (← nextIsWord "case") then
      return .inr ()
    r.item
    return .inl ()
  pure isDefault

def switchStatement (r : Rules) : Parse Unit := do
  expectWord "switch"
  condition r
  let before := (← setting).inSwitch
  setSetting fun s => { s with inSwitch := true }
  expect "\x7b"
  loop false fun hasDefault => do
    if ← nextIs "\x7d" then return .inr ()
    let isDefault ← switchClause r
    if isDefault && hasDefault then failLast .defaultTwice
    return .inl (hasDefault || isDefault)
  expect "\x7d"
  setSetting fun s => { s with inSwitch := before }

/-- The names that a catch clause binds are all different. -/
def checkCaught : List Token → List String → Parse Unit
  | [], _ => pure ()
  | t :: ts, seen => do
    if seen.contains t.value then failHere (.bindingTwice t.value)
    checkCaught ts (t.value :: seen)

def catchClause (r : Rules) : Parse Unit := do
  expectWord "catch"
  expect "("
  if ← nextIs ")" then unexpected (← lookahead)
  let (target, tokens) ← r.pattern .plain
  checkCaught tokens []
  match target with
  | .name n => if (← isStrict) && restrictedNames.contains n then failHere .strictCatchName
  | _ => pure ()
  expect ")"
  block r

def tryStatement (r : Rules) : Parse Unit := do
  expectWord "try"
  block r
  let caught ← nextIsWord "catch"
  if caught then catchClause r
  let finished ← nextIsWord "finally"
  if finished then
    skip
    block r
  if !caught && !finished then failLast .tryAlone

/-! ### Any statement -/

def statementRule (r : Rules) : Parse Unit := do
  let t ← lookahead
  match t.kind with
  | .punctuator =>
    if t.value = "\x7b" then block r
    else if t.value = ";" then skip
    else expressionStatement r
  | .identifier =>
    if ← nextIsAsyncFunction then
      let _ ← functionDeclaration r
    else labelledStatement r
  | .keyword =>
    match t.value with
    | "break" => breakStatement
    | "continue" => continueStatement
    | "debugger" => debuggerStatement
    | "do" => doStatement r
    | "for" => forStatement r
    | "function" =>
      let _ ← functionDeclaration r
    | "if" => ifStatement r
    | "return" => returnStatement r
    | "switch" => switchStatement r
    | "throw" => throwStatement r
    | "try" => tryStatement r
    | "var" => variableStatement r
    | "while" => whileStatement r
    | "with" => withStatement r
    | _ => expressionStatement r
  | .endOfSource => unexpected t
  | _ => expressionStatement r

/-- Does `let` begin a declaration here? -/
def letDeclares : Parse Bool := do
  let (next, _) ← peek
  return next.kind = .identifier ||
    (next.kind = .punctuator && (next.value = "[" || next.value = "\x7b")) ||
    (next.kind = .keyword && (next.value = "let" || next.value = "yield"))

def itemRule (r : Rules) : Parse Unit := do
  setCover fun c => { c with assignable := true, bindable := true }
  let t ← lookahead
  if t.kind ≠ .keyword then r.statement
  else match t.value with
    | "export" => failAt t .unexpectedNothing
    | "import" =>
      if ← nextIsImportCall then expressionStatement r else failAt t .unexpectedNothing
    | "const" => lexicalDeclaration r
    | "function" =>
      let _ ← functionDeclaration r
    | "class" => classRule r true
    | "let" => if ← letDeclares then lexicalDeclaration r else r.statement
    | _ => r.statement

end ScriptDiagnosis.Script
