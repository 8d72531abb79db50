/-
  ScriptDiagnosis/Script/Grammar/Binding.lean
  ===========================================
  What values are bound to: names, patterns and parameters.  A binding gives the tokens
  of the names it binds, in order, because two rules look back at them: parameters of
  strict code are all different, and so are the names a catch clause binds.

  A function may turn out to be strict only in its body.  What its parameters would be
  refused for then is remembered with them.
-/
import ScriptDiagnosis.Script.Grammar.Basic

namespace ScriptDiagnosis.Script
open Parse

/-- Read a word that may be any name, keyword or word literal. -/
def anyWord : Parse String := do
  let t ← nextToken
  match t.kind with
  | .identifier | .keyword | .boolean | .null => pure t.value
  | _ => unexpected t

def bindingName (how : Declared) : Parse String := do
  let t ← nextToken
  let s ← setting
  if t.kind = .keyword && t.value = "yield" then
    if s.strict then failAt t .strictReserved
    else if !s.yieldIsName then unexpected t
  else if t.kind ≠ .identifier then
    if s.strict && t.kind = .keyword && strictWords.contains t.value then
      failAt t .strictReserved
    else if s.strict || t.value ≠ "let" || how ≠ .var then unexpected t
  else if s.awaits && t.value = "await" then unexpected t
  pure t.value

/-! ### Patterns -/

abbrev Bound := Expr × List Token

/-- A pattern and the value it takes when it is given none. -/
def patternWithDefault (r : Rules) (how : Declared) : Parse Bound := do
  let (target, tokens) ← r.pattern how
  if ← nextIs "=" then
    skip
    let value ← withYieldName true (isolate r.assignment)
    pure (.withDefault target value, tokens)
  else pure (target, tokens)

/-- `[a, , b = 1, ...c]` -/
def arrayPattern (r : Rules) (how : Declared) : Parse Bound := do
  expect "["
  let (items, tokens) ← loop (([], []) : List (Option Expr) × List Token) fun (items, tokens) => do
    if ← nextIs "]" then return .inr (items, tokens)
    else if ← nextIs "," then
      skip
      return .inl (none :: items, tokens)
    else if ← nextIs "..." then
      expect "..."
      let (target, more) ← r.pattern how
      return .inr (some (.rest target) :: items, tokens ++ more)
    else
      let (target, more) ← patternWithDefault r how
      if !(← nextIs "]") then expect ","
      return .inl (some target :: items, tokens ++ more)
  expect "]"
  pure (.arrayPattern items.reverse, tokens)

/-- The key of a property: a word, a literal, or an expression in brackets. -/
inductive PropertyKey
  | word (w : String)
  | literal (value : String)
  /-- Brackets; what they hold is kept if it is a lone name or literal. -/
  | computed (held : Option String)
  deriving DecidableEq

/-- Is it the given name, written as a word or as a string? -/
def PropertyKey.is (k : PropertyKey) (w : String) : Bool :=
  k = .word w || k = .literal w

/-- The key as it would be without its brackets, where that makes sense. -/
def PropertyKey.bare : PropertyKey → PropertyKey
  | .computed (some held) => .literal held
  | k => k

def propertyKey (r : Rules) : Parse PropertyKey := do
  let t ← nextToken
  match t.kind with
  | .string | .number =>
    if (← isStrict) && t.octal then failAt t .strictOctal
    else pure (.literal t.value)
  | .identifier | .boolean | .null | .keyword => pure (.word t.value)
  | .punctuator =>
    if t.value = "[" then
      let e ← isolate r.assignment
      expect "]"
      pure (.computed e.held?)
    else unexpected t
  | _ => unexpected t

/-- One property of `{ a, b = 1, c: d, [e]: f }`. -/
def propertyPattern (r : Rules) (how : Declared) : Parse Bound := do
  let key ← lookahead
  if key.kind = .identifier then
    let name ← bindingName .plain
    if ← nextIs "=" then
      skip
      let value ← r.assignment
      pure (.withDefault (.name name) value, [key])
    else if ← nextIs ":" then
      expect ":"
      patternWithDefault r how
    else pure (.name name, [key])
  else
    let _ ← propertyKey r
    expect ":"
    patternWithDefault r how

/-- `...a`, which ends an object pattern. -/
def restProperty (r : Rules) : Parse Bound := do
  expect "..."
  let (target, tokens) ← r.pattern .plain
  if ← nextIs "=" then failLast .restInitialised
  else if !(← nextIs "\x7d") then failLast .restPropertyNotLast
  else pure (.rest target, tokens)

def objectPattern (r : Rules) (how : Declared) : Parse Bound := do
  expect "\x7b"
  let (values, tokens) ← loop (([], []) : List Expr × List Token) fun (values, tokens) => do
    if ← nextIs "\x7d" then return .inr (values, tokens)
    else
      let (value, more) ←
        if ← nextIs "..." then restProperty r else propertyPattern r how
      if !(← nextIs "\x7d") then expect ","
      return .inl (value :: values, tokens ++ more)
  expect "\x7d"
  pure (.objectPattern values.reverse, tokens)

/-- A name, or a pattern of names. -/
def patternRule (r : Rules) (how : Declared) : Parse Bound := do
  if ← nextIs "[" then arrayPattern r how
  else if ← nextIs "\x7b" then objectPattern r how
  else
    let t ← lookahead
    if how = .lexical && t.kind = .keyword && t.value = "let" then failAt t .letBinding
    else
      let name ← bindingName how
      pure (.name name, [t])

/-! ### Parameters -/

/-- What a complaint about a parameter points at: its token, or, when the parameters were
    first read as an expression, what has just been read. -/
inductive Blame
  | token (t : Token)
  | last

def Blame.fail {α : Type} (b : Blame) (what : Complaint) : Parse α :=
  match b with
  | .token t => failAt t what
  | .last => failLast what

/-- The parameters of a function, and what strict code would say about them. -/
structure Parameters where
  /-- Are they all plain names? -/
  simple : Bool := true
  params : List Expr := []
  /-- A parameter that strict code has refused, or that repeats an earlier one. -/
  stricted : Option Blame := none
  /-- The first that strict code would refuse by its name. -/
  restricted : Option Blame := none
  complaint : Option Complaint := none
  names : List String := []

def Parameters.note (ps : Parameters) (strict : Bool) (b : Blame) (name : String) :
    Parameters :=
  let twice := ps.names.contains name
  let named :=
    if strict then
      let ps := if restrictedNames.contains name then
        { ps with stricted := some b, complaint := some .strictParameterName } else ps
      if twice then
        { ps with stricted := some b, complaint := some .strictParameterTwice } else ps
    else if ps.restricted.isSome then ps
    else if restrictedNames.contains name then
      { ps with restricted := some b, complaint := some .strictParameterName }
    else if strictWords.contains name then
      { ps with restricted := some b, complaint := some .strictReserved }
    else if twice then
      { ps with stricted := some b, complaint := some .strictParameterTwice }
    else ps
  { named with names := name :: ps.names }

/-- Complain about what was noted, in a function that has turned out strict. -/
def Parameters.check (ps : Parameters) : Parse Unit := do
  let what := ps.complaint.getD .strictParameterName
  match ps.restricted with
  | some b => b.fail what
  | none =>
    match ps.stricted with
    | some b => b.fail what
    | none => pure ()

/-- `...a`, which ends a list of parameters. -/
def restParameter (r : Rules) : Parse Bound := do
  expect "..."
  let (target, tokens) ← r.pattern .plain
  if ← nextIs "=" then failLast .restInitialised
  else if !(← nextIs ")") then failLast .restNotLast
  else pure (.rest target, tokens)

def parameter (r : Rules) (ps : Parameters) : Parse Parameters := do
  let (param, tokens) ←
    if ← nextIs "..." then restParameter r else patternWithDefault r .plain
  let strict ← isStrict
  let ps := tokens.foldl (fun ps t => ps.note strict (.token t) t.value) ps
  pure { ps with simple := ps.simple && param.isName, params := ps.params ++ [param] }

/-- A list of parameters; `ps` holds what is known from the function's name. -/
def parameters (r : Rules) (ps : Parameters) : Parse Parameters := do
  expect "("
  let ps ←
    if ← nextIs ")" then pure ps
    else loop ps fun ps => do
      if ← atEnd then return .inr ps
      let ps ← parameter r ps
      if ← nextIs ")" then return .inr ps
      expect ","
      if ← nextIs ")" then return .inr ps
      return .inl ps
  expect ")"
  pure ps

end ScriptDiagnosis.Script
