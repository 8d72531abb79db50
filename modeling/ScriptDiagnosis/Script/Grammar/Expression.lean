/-
  ScriptDiagnosis/Script/Grammar/Expression.lean
  ==============================================
  Expressions, from operands up to assignments.  Parentheses, brackets and braces may
  turn out to hold parameters or a pattern once an arrow or an assignment follows; until
  then they are read as expressions, with a note of what they could still become.
-/
import ScriptDiagnosis.Script.Grammar.Function

namespace ScriptDiagnosis.Script
open Parse

/-! ### Operands -/

/-- The pieces of a template and the expressions between them.  Inside a substitution
    that holds nothing, what is asked for as an expression is no template's opening. -/
def template (r : Rules) : Parse Unit := do
  if !(← lookahead).opensTemplate then stop .headlessTemplate
  let t ← nextToken
  loop t.closesTemplate fun closed => do
    if closed then return .inr ()
    let _ ← r.expression
    if (← lookahead).kind ≠ .template then failLast .illegal
    let t ← nextToken
    return .inl t.closesTemplate

/-- `...a` among values. -/
def spread (r : Rules) : Parse Expr := do
  expect "..."
  return .spread (← inherit r.assignment)

def arrayRule (r : Rules) : Parse Expr := do
  expect "["
  let items ← loop ([] : List (Option Expr)) fun items => do
    if ← nextIs "]" then return .inr items
    else if ← nextIs "," then
      skip
      return .inl (none :: items)
    else if ← nextIs "..." then
      let e ← spread r
      if !(← nextIs "]") then
        notCover
        expect ","
      return .inl (some e :: items)
    else
      let e ← inherit r.assignment
      if !(← nextIs "]") then expect ","
      return .inl (some e :: items)
  expect "]"
  return .array items.reverse

/-- One property of an object; `hasProto` says whether an earlier one sets the prototype,
    and the answer whether one does now. -/
def property (r : Rules) (hasProto : Bool) : Parse (Expr × Bool) := do
  let token ← lookahead
  let named := token.kind = .identifier
  let mut key : Option PropertyKey := none
  let mut isAsync := false
  if named then
    skip
    isAsync := !(← lineBreak) && token.value = "async" && !(← nextIs ":") &&
      !(← nextIs "(") && !(← nextIs "*") && !(← nextIs ",")
    key := some (← if isAsync then propertyKey r else pure (.word token.value))
  else if ← nextIs "*" then skip
  else key := some (← propertyKey r)
  let keyFollows := (← lookahead).isKey
  if named && !isAsync && token.value = "get" && keyFollows then
    let _ ← propertyKey r
    getter r
    return (.other, hasProto)
  else if named && !isAsync && token.value = "set" && keyFollows then
    let _ ← propertyKey r
    setter r
    return (.other, hasProto)
  else if token.kind = .punctuator && token.value = "*" && keyFollows then
    let _ ← propertyKey r
    generatorMethod r
    return (.other, hasProto)
  match key with
  | none => unexpected (← lookahead)
  | some name =>
    if !isAsync && (← nextIs ":") then
      let isProto := name.is "__proto__"
      if isProto && hasProto then failHere .protoTwice
      else
        skip
        return (← inherit r.assignment, hasProto || isProto)
    else if ← nextIs "(" then
      if isAsync then asyncMethod r else method r
      return (.other, hasProto)
    else if named then
      if ← nextIs "=" then
        let t ← lookahead
        setCover fun c => { c with initialiser := some t }
        skip
        let value ← isolate r.assignment
        return (.withDefault (.name token.value) value, hasProto)
      else return (.name token.value, hasProto)
    else unexpected (← nextToken)

def objectRule (r : Rules) : Parse Expr := do
  expect "\x7b"
  let values ← loop (([], false) : List Expr × Bool) fun (values, hasProto) => do
    if ← nextIs "\x7d" then return .inr values
    else
      let (value, hasProto) ←
        if ← nextIs "..." then pure (← spread r, hasProto) else property r hasProto
      if !(← nextIs "\x7d") then expect ","
      return .inl (value :: values, hasProto)
  expect "\x7d"
  return .object values.reverse

def expectArrow : Parse Unit := do
  if !(← nextIs "=>") then expect "=>"

/-- How the items behind the first comma in parentheses end. -/
inductive GroupEnd
  | arrow (ps : List Expr)
  | values (items : List Expr)

/-- The rest of a parenthesis behind its first item: values, or parameters if a comma or
    a rest element ends them. -/
def groupItems (r : Rules) (first : Expr) : Parse GroupEnd :=
  loop [first] fun items => do
    if (← atEnd) || !(← nextIs ",") then return .inr (.values items.reverse)
    skip
    if ← nextIs ")" then
      skip
      return .inr (.arrow (items.reverse.map Expr.asPattern))
    else if ← nextIs "..." then
      if !(← cover).bindable then unexpected (← lookahead)
      let (rest, _) ← restParameter r
      expect ")"
      expectArrow
      setCover fun c => { c with bindable := false }
      return .inr (.arrow ((rest :: items).reverse.map Expr.asPattern))
    else
      let e ← inherit r.assignment
      return .inl (e :: items)

/-- The end of a parenthesis that holds values.  If an arrow follows they have to be
    parameters. -/
def closeGroup (e : Expr) : Parse Expr := do
  expect ")"
  let result ←
    if ← nextIs "=>" then
      match e with
      | .name "yield" => pure (.parameters [e] false)
      | _ =>
        if !(← cover).bindable then unexpected (← lookahead)
        else match e with
          | .sequence es => pure (.parameters (es.map Expr.asPattern) false)
          | e => pure (.parameters [e.asPattern] false)
    else pure e
  setCover fun c => { c with bindable := false }
  pure result

def groupRule (r : Rules) : Parse Expr := do
  expect "("
  if ← nextIs ")" then
    skip
    expectArrow
    return .parameters [] false
  else if ← nextIs "..." then
    let (rest, _) ← restParameter r
    expect ")"
    expectArrow
    return .parameters [rest] false
  else
    setCover fun c => { c with bindable := true }
    let first ← inherit r.assignment
    if ← nextIs "," then
      setCover fun c => { c with assignable := false }
      match ← groupItems r first with
      | .arrow ps => return .parameters ps false
      | .values items => closeGroup (.sequence items)
    else closeGroup first

/-- Is `import(` next? -/
def nextIsImportCall : Parse Bool := do
  if ← nextIsWord "import" then
    let (next, _) ← peek
    return next.kind = .punctuator && next.value = "("
  else return false

def operand (r : Rules) : Parse Expr := do
  let t ← lookahead
  match t.kind with
  | .identifier =>
    if (← setting).awaits && t.value = "await" then unexpected t
    else if ← nextIsAsyncFunction then
      functionExpression r
      return .other
    else
      skip
      return .name t.value
  | .number | .string =>
    if (← isStrict) && t.octal then failAt t .strictOctal
    else
      notCover
      skip
      return .literal t.value
  | .boolean | .null =>
    notCover
    skip
    return .literal t.value
  | .template =>
    template r
    return .other
  | .punctuator =>
    if t.value = "(" then
      setCover fun c => { c with bindable := false }
      inherit (groupRule r)
    else if t.value = "[" then inherit (arrayRule r)
    else if t.value = "\x7b" then inherit (objectRule r)
    else if t.value = "/" || t.value = "/=" then
      notCover
      nextPattern
      return .literal ""
    else unexpected (← nextToken)
  | .keyword =>
    let s ← setting
    if !s.strict && s.yieldIsName && t.value = "yield" then
      return .name (← anyWord)
    else if !s.strict && t.value = "let" then
      skip
      return .name "let"
    else
      notCover
      if t.value = "function" then
        functionExpression r
        return .other
      else if t.value = "this" then
        skip
        return .other
      else if t.value = "class" then
        classRule r false
        return .other
      else if ← nextIsImportCall then
        expectWord "import"
        return .importing
      else unexpected (← nextToken)
  | .pattern | .endOfSource => unexpected (← nextToken)

/-! ### Members and calls -/

/-- The arguments of a call.  Those of what may be an async arrow keep quiet about an
    initialiser, which is right in a parameter. -/
def arguments (r : Rules) (forgiving : Bool) : Parse (List Expr) := do
  expect "("
  let args ←
    if ← nextIs ")" then pure []
    else loop ([] : List Expr) fun args => do
      let e ←
        if ← nextIs "..." then spread r
        else isolate do
          let e ← r.assignment
          if forgiving then setCover fun c => { c with initialiser := none }
          pure e
      if ← nextIs ")" then return .inr (e :: args).reverse
      expect ","
      if ← nextIs ")" then return .inr (e :: args).reverse
      return .inl (e :: args)
  expect ")"
  pure args

/-- What is behind `new`: `.target` inside a function, or a callee and its arguments. -/
def newRule (r : Rules) : Parse Expr := do
  let _ ← anyWord
  if ← nextIs "." then
    skip
    let t ← lookahead
    if t.kind = .identifier && (← setting).inFunction && t.value = "target" then
      skip
      return .other
    else unexpected t
  else if ← nextIsWord "import" then unexpected (← lookahead)
  else
    let _ ← isolate r.callee
    if ← nextIs "(" then
      let _ ← arguments r false
    notCover
    return .other

/-- A member becomes a target, whatever it is a member of. -/
def memberCover : Parse Unit := setCover fun c => { c with bindable := false, assignable := true }

def bracketMember (r : Rules) : Parse Unit := do
  memberCover
  expect "["
  let _ ← isolate r.expression
  expect "]"

def dotMember : Parse Unit := do
  memberCover
  expect "."
  let _ ← anyWord

def nextIsTemplateHead : Parse Bool := do
  let t ← lookahead
  return t.kind = .template && t.opensTemplate

/-- `super` in a function; what may follow it depends on where it stands. -/
def superRule (followers : List String) : Parse Expr := do
  skip
  let t ← lookahead
  if t.kind = .punctuator && followers.contains t.value then return .other
  else unexpected t

/-- Is `super` next, where it may stand? -/
def nextIsSuper : Parse Bool := do
  return (← nextIsWord "super") && (← setting).inFunction

def baseOperand (r : Rules) : Parse Expr := do
  inherit (if ← nextIsWord "new" then newRule r else operand r)

/-- A callee of `new`: an operand and its members. -/
def calleeRule (r : Rules) : Parse Expr := do
  let base ← if ← nextIsSuper then superRule ["[", "."] else baseOperand r
  loop base fun e => do
    if ← nextIs "[" then
      bracketMember r
      return .inl .member
    else if ← nextIs "." then
      dotMember
      return .inl .member
    else if ← nextIsTemplateHead then
      template r
      return .inl .other
    else return .inr e

/-- An operand with its members, calls and templates.  A call of something that began with
    `async`, on its line, may be the parameters of an async arrow. -/
def chainRule (r : Rules) : Parse Expr := do
  let start ← lookahead
  let maybeAsync ← nextIsName "async"
  withIn true do
    let base ← if ← nextIsSuper then superRule ["(", ".", "["] else baseOperand r
    loop base fun e => do
      if ← nextIs "." then
        dotMember
        return .inl .member
      else if ← nextIs "(" then
        let asyncArrow := maybeAsync && start.line = (← lookahead).line
        notCover
        let args ← arguments r asyncArrow
        match e with
        | .importing => if args.length ≠ 1 then failHere .importArguments
        | _ => pure ()
        if asyncArrow && (← nextIs "=>") then
          return .inl (.parameters (args.map Expr.asPattern) true)
        else return .inl .other
      else if ← nextIs "[" then
        bracketMember r
        return .inl .member
      else if ← nextIsTemplateHead then
        template r
        return .inl .other
      else return .inr e

/-! ### Operators -/

/-- Complain about the operand of an increment or decrement. -/
def checkOperand (e : Expr) (restricted : Complaint) : Parse Unit := do
  match e with
  | .name n => if (← isStrict) && restrictedNames.contains n then failHere restricted
  | _ => pure ()
  if !(← cover).assignable then failHere .badTarget

def nextIsStep : Parse Bool := return (← nextIs "++") || (← nextIs "--")

def updateRule (r : Rules) : Parse Expr := do
  if ← nextIsStep then
    skip
    let e ← inherit r.unary
    checkOperand e .strictPrefixOperand
    notCover
    return .other
  else
    let e ← inherit (chainRule r)
    if !(← lineBreak) && (← nextIsStep) then
      checkOperand e .strictPostfixOperand
      notCover
      skip
      return .other
    else return e

def nextIsUnary : Parse Bool := do
  let t ← lookahead
  return (t.kind = .punctuator && ["+", "-", "~", "!"].contains t.value) ||
    (t.kind = .keyword && ["delete", "void", "typeof"].contains t.value)

def unaryRule (r : Rules) : Parse Expr := do
  if ← nextIsUnary then
    let op ← nextToken
    let e ← inherit r.unary
    if (← isStrict) && op.value = "delete" && e.isName then failHere .strictDelete
    notCover
    return .unary
  else if (← setting).awaits && (← nextIsName "await") then
    skip
    let _ ← r.unary
    return .other
  else updateRule r

def powerRule (r : Rules) : Parse Expr := do
  let e ← inherit (unaryRule r)
  match e with
  | .unary => return e
  | _ =>
    if ← nextIs "**" then
      skip
      notCover
      let _ ← isolate r.power
      return .other
    else return e

/-- The operators between two operands.  Which binds more tightly does not matter to what
    is accepted. -/
def binaryOperators : List String :=
  ["||", "&&", "|", "^", "&", "==", "!=", "===", "!==", "<", ">", "<=", ">=", "<<", ">>",
   ">>>", "+", "-", "*", "/", "%"]

def nextIsBinary : Parse Bool := do
  let t ← lookahead
  return (t.kind = .punctuator && binaryOperators.contains t.value) ||
    (t.kind = .keyword &&
      (t.value = "instanceof" || ((← setting).inAllowed && t.value = "in")))

def binaryRule (r : Rules) : Parse Expr := do
  let first ← inherit (powerRule r)
  if ← nextIsBinary then
    notCover
    loop () fun _ => do
      if ← nextIsBinary then
        skip
        let _ ← isolate (powerRule r)
        return .inl ()
      else return .inr .other
  else return first

def conditionalRule (r : Rules) : Parse Expr := do
  let e ← inherit (binaryRule r)
  if ← nextIs "?" then
    skip
    let _ ← withIn true (isolate r.assignment)
    expect ":"
    let _ ← isolate r.assignment
    notCover
    return .other
  else return e

/-- Can the lookahead begin the argument of `yield`? -/
def nextStartsArgument : Parse Bool := do
  let t ← lookahead
  match t.kind with
  | .punctuator =>
    return ["[", "(", "\x7b", "+", "-", "!", "~", "++", "--", "/", "/="].contains t.value
  | .keyword =>
    return ["class", "delete", "function", "let", "new", "super", "this", "typeof", "void",
      "yield"].contains t.value
  | _ => return true

def yieldRule (r : Rules) : Parse Expr := do
  expectWord "yield"
  if ← lineBreak then return .yielding false
  withYieldName false do
    if ← nextIs "*" then
      skip
      let _ ← r.assignment
      return .yielding true
    else if ← nextStartsArgument then
      let _ ← r.assignment
      return .yielding true
    else return .yielding false

/-! ### Arrows and assignments -/

def notePattern (strict : Bool) : Expr → Parameters → Parameters
  | .name n, ps => ps.note strict .last n
  | .rest e, ps => notePattern strict e ps
  | .withDefault t _, ps => notePattern strict t ps
  | .arrayPattern es, ps => noteItems es ps
  | .objectPattern es, ps => noteValues es ps
  | _, ps => ps
where
  noteItems : List (Option Expr) → Parameters → Parameters
    | [], ps => ps
    | none :: es, ps => noteItems es ps
    | some e :: es, ps => noteItems es (notePattern strict e ps)
  noteValues : List Expr → Parameters → Parameters
    | [], ps => ps
    | e :: es, ps => noteValues es (notePattern strict e ps)

/-- What stands before an arrow, as parameters; none if it cannot be any. -/
def arrowParameters (e : Expr) : Parse (Option Parameters) := do
  let (params, isAsync) ← match e with
    | .name _ => pure (some [e], false)
    | .parameters ps isAsync => pure (some ps, isAsync)
    | _ => pure (none, false)
  match params with
  | none => return none
  | some params =>
    let s ← setting
    let mut ps : Parameters := {}
    for p in params do
      match p with
      | .withDefault _ (.yielding true) => unexpected (← lookahead)
      | .name "await" => if isAsync then unexpected (← lookahead)
      | _ => pure ()
      ps := notePattern s.strict p ps
      ps := { ps with simple := ps.simple && p.isName }
    if s.strict || !s.yieldIsName then
      for p in params do
        match p with
        | .yielding _ => unexpected (← lookahead)
        | _ => pure ()
    if ps.complaint = some .strictParameterTwice then failLast .strictParameterTwice
    return some { ps with params }

/-- The arrow and body of a function whose parameters have been read. -/
def arrowRest (r : Rules) (ps : Parameters) (isAsync : Bool) : Parse Expr := do
  if ← lineBreak then unexpected (← lookahead)
  setCover fun c => { c with initialiser := none }
  let before ← setting
  setSetting fun s =>
    { s with directiveAllowed := ps.simple, yieldIsName := true, awaits := isAsync }
  expect "=>"
  if ← nextIs "\x7b" then withIn true r.functionBody
  else
    let _ ← isolate r.assignment
  if ← isStrict then ps.check
  setSetting fun s =>
    { s with strict := before.strict, directiveAllowed := before.directiveAllowed,
             yieldIsName := before.yieldIsName, awaits := before.awaits }
  return .other

/-- The operator and value of an assignment whose target has been read; `start` is the
    target's first token. -/
def assignmentRest (r : Rules) (start : Token) (target : Expr) : Parse Expr := do
  if !(← cover).assignable then failHere .badTarget
  match target with
  | .name n =>
    if ← isStrict then
      if restrictedNames.contains n then failAt start .strictAssignment
      if strictWords.contains n then failAt start .strictReserved
  | _ => pure ()
  let plain ← nextIs "="
  if !plain then notCover
  skip
  let value ← isolate r.assignment
  setCover fun c => { c with initialiser := none }
  return .assign (if plain then target.asPattern else target) value

def assignmentRule (r : Rules) : Parse Expr := do
  if !(← setting).yieldIsName && (← nextIsWord "yield") then yieldRule r
  else
    let start ← lookahead
    let e ← conditionalRule r
    let next ← lookahead
    let e ←
      if start.kind = .identifier && start.line = next.line && start.value = "async" &&
          (next.kind = .identifier || (← nextIsWord "yield")) then
        pure (Expr.parameters [(← operand r).asPattern] true)
      else pure e
    let isAsync := match e with
      | .parameters _ b => some b
      | _ => none
    if isAsync.isSome || (← nextIs "=>") then
      notCover
      match ← arrowParameters e with
      | some ps => arrowRest r ps (isAsync.getD false)
      | none => return e
    else if ← nextAssigns then assignmentRest r start e
    else return e

def expressionRule (r : Rules) : Parse Expr := do
  let e ← isolate r.assignment
  if ← nextIs "," then
    loop () fun _ => do
      if ← nextIs "," then
        skip
        let _ ← isolate r.assignment
        return .inl ()
      else return .inr .other
  else return e

end ScriptDiagnosis.Script
