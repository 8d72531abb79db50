/-
  ScriptDiagnosis/Script/Grammar/Function.lean
  ============================================
  Functions, methods and classes.  A body may begin with directives, strings that stand
  alone; `use strict` among them makes the whole function strict, and what came before it
  (its name, its parameters, an octal escape in an earlier directive) is then held to that.
  The code of a class is always strict.
-/
import ScriptDiagnosis.Script.Grammar.Binding

namespace ScriptDiagnosis.Script
open Parse

/-! ### Bodies -/

/-- The directives at the beginning of a body, and the string that may end them by being
    no directive; give where each of these statements ends. -/
def directives (r : Rules) : Parse (List Mark) :=
  loop ((none, []) : Option Token × List Mark) fun (octal, ends) => do
    let t ← lookahead
    if t.kind ≠ .string then return .inr ends.reverse
    let e ← r.expression
    let raw := (← read).slice (t.start + 1) (t.stop - 1)
    semicolon
    let ends := (← lastMark) :: ends
    match e with
    | .literal _ =>
      if raw = "" then return .inr ends.reverse
      else if raw = "use strict" then
        setSetting fun s => { s with strict := true }
        match octal with
        | some o => failAt o .strictOctal
        | none =>
          if !(← setting).directiveAllowed then failAt t .directiveAfterPatterns
          else return .inl (octal, ends)
      else return .inl (if octal.isNone && t.octal then some t else octal, ends)
    | _ => return .inr ends.reverse

/-- The body of a function, in braces.  Labels, loops and switches around it do not reach
    into it. -/
def functionBodyRule (r : Rules) : Parse Unit := do
  expect "\x7b"
  let _ ← directives r
  let before ← setting
  setSetting fun s =>
    { s with labels := [], inLoop := false, inSwitch := false, inFunction := true }
  loop () fun _ => do
    if (← atEnd) || (← nextIs "\x7d") then return .inr ()
    r.item
    return .inl ()
  expect "\x7d"
  setSetting fun s =>
    { s with labels := before.labels, inLoop := before.inLoop, inSwitch := before.inSwitch,
             inFunction := before.inFunction }

/-- Read a body whose function has the given parameters, and hold them to strict code if
    it turns out strict. -/
def bodyFor (ps : Parameters) (body : Parse Unit) : Parse Unit := do
  let before ← setting
  setSetting fun s => { s with directiveAllowed := ps.simple }
  body
  if ← isStrict then ps.check
  setSetting fun s =>
    { s with strict := before.strict, directiveAllowed := before.directiveAllowed }

/-! ### Functions -/

/-- Is `async function` next, on one line? -/
def nextIsAsyncFunction : Parse Bool := do
  if ← nextIsName "async" then
    let (next, line) ← peek
    return next.line = line && next.kind = .keyword && next.value = "function"
  else return false

/-- `function`, `async function` or `function *`; tell which. -/
def functionHead : Parse (Bool × Bool) := do
  let isAsync ← nextIsName "async"
  if isAsync then skip
  expectWord "function"
  let isGenerator ← if isAsync then pure false else nextIs "*"
  if isGenerator then skip
  pure (isAsync, isGenerator)

/-- What strict code would say about a function's name. -/
def noteFunctionName (t : Token) : Parse Parameters := do
  if ← isStrict then
    if restrictedNames.contains t.value then failAt t .strictFunctionName
    else pure {}
  else if restrictedNames.contains t.value then
    pure { restricted := some (.token t), complaint := some .strictFunctionName }
  else if strictWords.contains t.value then
    pure { restricted := some (.token t), complaint := some .strictReserved }
  else pure {}

def functionRest (r : Rules) (named : Parameters) : Parse Unit := do
  let ps ← parameters r named
  bodyFor ps r.functionBody

/-- A function declaration; tell whether it is a generator. -/
def functionDeclaration (r : Rules) : Parse Bool := do
  let (isAsync, isGenerator) ← functionHead
  let t ← lookahead
  let _ ← bindingName .plain
  let named ← noteFunctionName t
  let before ← setting
  setSetting fun s => { s with awaits := isAsync, yieldIsName := !isGenerator }
  functionRest r named
  setSetting fun s =>
    { s with awaits := before.awaits, yieldIsName := before.yieldIsName }
  pure isGenerator

def functionExpression (r : Rules) : Parse Unit := do
  let (isAsync, isGenerator) ← functionHead
  let before ← setting
  setSetting fun s => { s with awaits := isAsync, yieldIsName := !isGenerator }
  let named ←
    if ← nextIs "(" then pure {}
    else
      let t ← lookahead
      if !(← isStrict) && !isGenerator && (← nextIsWord "yield") then
        let _ ← anyWord
      else
        let _ ← bindingName .plain
      noteFunctionName t
  functionRest r named
  setSetting fun s =>
    { s with awaits := before.awaits, yieldIsName := before.yieldIsName }

/-! ### Methods -/

def methodBody (r : Rules) (ps : Parameters) : Parse Unit := do
  notCover
  bodyFor ps (isolate r.functionBody)

def method (r : Rules) : Parse Unit := withYieldName true do
  methodBody r (← parameters r {})

def asyncMethod (r : Rules) : Parse Unit := do
  let before := (← setting).awaits
  withYieldName false do
    setSetting fun s => { s with awaits := true }
    methodBody r (← parameters r {})
  setSetting fun s => { s with awaits := before }

def generatorMethod (r : Rules) : Parse Unit := withYieldName true do
  let ps ← parameters r {}
  setSetting fun s => { s with yieldIsName := false }
  methodBody r ps

/-- A getter.  What follows it in the function around it reads `yield` as an operator. -/
def getter (r : Rules) : Parse Unit := do
  setSetting fun s => { s with yieldIsName := false }
  withYieldName true do
    let ps ← parameters r {}
    if !ps.params.isEmpty then failHere .getterParameters
    else methodBody r ps

def setter (r : Rules) : Parse Unit := withYieldName true do
  let ps ← parameters r {}
  match ps.params with
  | [.rest _] => failHere .setterRest
  | [_] => methodBody r ps
  | _ => failHere .setterParameters

/-- Can the token be the key of a property? -/
def Token.isKey (t : Token) : Bool :=
  match t.kind with
  | .identifier | .string | .boolean | .null | .number | .keyword => true
  | .punctuator => t.value = "["
  | _ => false

/-! ### Classes -/

/-- What a class holds under a key. -/
inductive ElementKind
  | accessor
  | generator
  | method
  deriving DecidableEq

/-- One element of a class; `hasConstructor` says whether an earlier one is its
    constructor, and the answer whether one is now. -/
def classElement (r : Rules) (hasConstructor : Bool) : Parse Bool := do
  let first ← lookahead
  let mut token := first
  let mut key : Option PropertyKey := none
  let mut isStatic := false
  let mut isAsync := false
  if ← nextIs "*" then skip
  else
    let k ← propertyKey r
    key := some k
    if k = .word "static" then
      let t ← lookahead
      if t.isKey || (← nextIs "*") then
        token := t
        isStatic := true
        if ← nextIs "*" then skip
        else key := some (← propertyKey r)
    if token.kind = .identifier && !(← lineBreak) && token.value = "async" then
      let t ← lookahead
      if t.value ≠ ":" && t.value ≠ "(" && t.value ≠ "*" then
        isAsync := true
        token := t
        -- the brackets of a key behind `async` do not set it apart
        key := some (← propertyKey r).bare
        if t.kind = .identifier && t.value = "constructor" then failAt t .constructorAsync
  let keyFollows := (← lookahead).isKey
  let mut kind : Option ElementKind := none
  if token.kind = .identifier then
    if token.value = "get" && keyFollows then
      key := some (← propertyKey r)
      getter r
      kind := some .accessor
    else if token.value = "set" && keyFollows then
      key := some (← propertyKey r)
      setter r
      kind := some .accessor
  else if token.kind = .punctuator && token.value = "*" && keyFollows then
    key := some (← propertyKey r)
    generatorMethod r
    kind := some .generator
  if kind.isNone && key.isSome && (← nextIs "(") then
    if isAsync then asyncMethod r else method r
    kind := some .method
  match kind, key with
  | some what, some name =>
    if isStatic then
      if name.is "prototype" then failAt token .staticPrototype
      else pure hasConstructor
    else if name.is "constructor" then
      if what ≠ .method then failAt token .constructorSpecial
      else if hasConstructor then failAt token .constructorTwice
      else pure true
    else pure hasConstructor
  | _, _ => unexpected (← lookahead)

/-- The elements of a class, in braces. -/
def classBody (r : Rules) : Parse Unit := do
  expect "\x7b"
  loop false fun hasConstructor => do
    if ← nextIs "\x7d" then return .inr ()
    else if ← nextIs ";" then
      skip
      return .inl hasConstructor
    else return .inl (← classElement r hasConstructor)
  expect "\x7d"

/-- A class; one that is declared has a name. -/
def classRule (r : Rules) (declared : Bool) : Parse Unit := do
  let before ← isStrict
  setSetting fun s => { s with strict := true }
  expectWord "class"
  if declared || (← lookahead).kind = .identifier then
    let _ ← bindingName .plain
  if ← nextIsWord "extends" then
    skip
    let _ ← isolate r.chain
  classBody r
  setSetting fun s => { s with strict := before }

end ScriptDiagnosis.Script
