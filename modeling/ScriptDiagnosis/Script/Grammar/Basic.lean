/-
  ScriptDiagnosis/Script/Grammar/Basic.lean
  =========================================
  What the grammar of scripts is written in: a reader that sees one token ahead, the
  setting in which it reads (strict code or not, inside a loop or not, …), and the ways
  in which it complains.

  The rules of the grammar refer to each other in a circle.  They are therefore written
  over a record of the rules they call one level further down, `Rules`; the circle is
  closed by recursion on the number of levels (`Grammar/Program.lean`), and a source that
  nests deeper than that is given up.
-/
import ScriptDiagnosis.Script.Lexer

namespace ScriptDiagnosis.Script

/-! ### Values of the grammar

Only what later rules ask about an expression is kept of it. -/

inductive Expr
  | name (n : String)
  | literal (value : String)
  | array (items : List (Option Expr))
  | object (values : List Expr)
  | assign (target value : Expr)
  | spread (argument : Expr)
  | member
  | unary
  | sequence (items : List Expr)
  | yielding (hasArgument : Bool)
  | importing
  /-- Parameters in front of an arrow. -/
  | parameters (ps : List Expr) (isAsync : Bool)
  | withDefault (target value : Expr)
  | arrayPattern (items : List (Option Expr))
  | objectPattern (values : List Expr)
  | rest (argument : Expr)
  | other

/-- An expression read once more as something that values are bound to.  What cannot be
    bound to stays as it is: who reads has seen to it beforehand. -/
def Expr.asPattern : Expr → Expr
  | .spread e => .rest e.asPattern
  | .array es => .arrayPattern (items es)
  | .object es => .objectPattern (values es)
  | .assign t v => .withDefault t.asPattern v
  | e => e
where
  items : List (Option Expr) → List (Option Expr)
    | [] => []
    | none :: es => none :: items es
    | some e :: es => some e.asPattern :: items es
  values : List Expr → List Expr
    | [] => []
    | e :: es => e.asPattern :: values es

def Expr.isName : Expr → Bool
  | .name _ => true
  | _ => false

def Expr.held? : Expr → Option String
  | .name n => some n
  | .literal v => some v
  | _ => none

/-! ### The reader -/

/-- A place in the source, by line and column. -/
structure Mark where
  index : Nat
  line : Nat
  column : Nat
  deriving DecidableEq, Repr

def Cursor.mark (c : Cursor) : Mark := ⟨c.index, c.line, c.index - c.lineStart⟩

/-- What holds for the code being read. -/
structure Setting where
  strict : Bool := false
  /-- May a directive make the function strict? -/
  directiveAllowed : Bool := true
  /-- Is `in` an operator here? -/
  inAllowed : Bool := true
  /-- Is `yield` a name here? -/
  yieldIsName : Bool := true
  /-- Does `await` wait here? -/
  awaits : Bool := false
  inFunction : Bool := false
  inLoop : Bool := false
  inSwitch : Bool := false
  labels : List String := []

/-- What the expression being read could turn out to be. -/
structure Cover where
  /-- Can it be assigned to? -/
  assignable : Bool := false
  /-- Can it be a list of parameters? -/
  bindable : Bool := false
  /-- The `=` of a `{ name = value }`, which only a pattern may hold. -/
  initialiser : Option Token := none

structure State where
  cursor : Cursor
  lookahead : Token
  /-- Where the lookahead begins. -/
  startMark : Mark
  /-- Where the token before it ends. -/
  lastMark : Mark
  /-- Does a line end between the two? -/
  lineBreak : Bool := false
  setting : Setting := {}
  cover : Cover := {}

abbrev Parse := ReaderT Source (StateT State (Except Stop))

namespace Parse

def stop {α : Type} (s : Stop) : Parse α := fun _ _ => .error s

def scan {α : Type} (m : Source → Scan α) : Parse α := fun src st =>
  match m src st.cursor with
  | .ok (a, c) => .ok (a, { st with cursor := c })
  | .error e => .error e

def lookahead : Parse Token := return (← get).lookahead

def lastMark : Parse Mark := return (← get).lastMark

def lineBreak : Parse Bool := return (← get).lineBreak

def setting : Parse Setting := return (← get).setting

def isStrict : Parse Bool := return (← get).setting.strict

def cover : Parse Cover := return (← get).cover

def setSetting (f : Setting → Setting) : Parse Unit :=
  modify fun st => { st with setting := f st.setting }

def setCover (f : Cover → Cover) : Parse Unit :=
  modify fun st => { st with cover := f st.cover }

/-- What has just been read is neither a target nor a list of parameters. -/
def notCover : Parse Unit := setCover fun c => { c with assignable := false, bindable := false }

/-- Make the next token the lookahead, and give the one that was. -/
def nextToken : Parse Token := do
  let token ← lookahead
  modify fun st => { st with lastMark := st.cursor.mark }
  scan skipBlanks
  modify fun st =>
    if st.cursor.index = st.startMark.index then st
    else { st with startMark := st.cursor.mark }
  let next ← scan scanToken
  let next :=
    if (← isStrict) && next.kind = .identifier && strictWords.contains next.value then
      { next with kind := .keyword }
    else next
  modify fun st => { st with lookahead := next, lineBreak := token.line ≠ next.line }
  pure token

/-- Read the regular expression that begins where the lookahead does. -/
def nextPattern : Parse Unit := do
  modify fun st => { st with cursor := { st.cursor with index := st.startMark.index } }
  scan skipBlanks
  let token ← scan scanPattern
  modify fun st => { st with lookahead := token }
  let _ ← nextToken

/-- Look at the token behind the lookahead, and at the line the lookahead ends on, without
    moving; braces that the token opens or closes stay so. -/
def peek : Parse (Token × Nat) := do
  let c := (← get).cursor
  scan skipBlanks
  let next ← scan scanToken
  modify fun st => { st with cursor := { c with braces := st.cursor.braces } }
  pure (next, c.line)

/-! ### Complaints -/

def failLast {α : Type} (what : Complaint) : Parse α := do
  let m ← lastMark
  stop (.fault ⟨what, m.line, (m.column : Int) + 1⟩)

/-- Complain about what has just been read, on the line of the lookahead. -/
def failHere {α : Type} (what : Complaint) : Parse α := do
  let m ← lastMark
  stop (.fault ⟨what, (← get).cursor.line, (m.column : Int) + 1⟩)

/-- Complain about a token.  Columns are counted on the line of what has just been read. -/
def failAt {α : Type} (t : Token) (what : Complaint) : Parse α := do
  let m ← lastMark
  stop (.fault ⟨what, t.line, (t.start : Int) - ((m.index : Int) - m.column) + 1⟩)

/-- What there is to say about a token that does not belong where it stands. -/
def unexpectedText (strict : Bool) (t : Token) : Complaint :=
  match t.kind with
  | .endOfSource => .unexpectedEnd
  | .identifier => .unexpectedIdentifier
  | .number => .unexpectedNumber
  | .string => .unexpectedString
  | .template => .unexpectedTemplate t.value
  | .keyword =>
    if reservedWords.contains t.value then .unexpectedReserved
    else if strict && strictWords.contains t.value then .strictReserved
    else .unexpectedToken t.value
  | _ => .unexpectedToken t.value

/-- Complain that a token does not belong where it stands. -/
def unexpected {α : Type} (t : Token) : Parse α := do
  failAt t (unexpectedText (← isStrict) t)

/-! ### Words -/

def nextIs (p : String) : Parse Bool := do
  let t ← lookahead
  return t.kind = .punctuator && t.value = p

def nextIsWord (w : String) : Parse Bool := do
  let t ← lookahead
  return t.kind = .keyword && t.value = w

/-- Is a name next that means something in this place alone, such as `of`? -/
def nextIsName (w : String) : Parse Bool := do
  let t ← lookahead
  return t.kind = .identifier && t.value = w

def atEnd : Parse Bool := return (← lookahead).kind = .endOfSource

def expect (p : String) : Parse Unit := do
  let t ← nextToken
  if t.kind ≠ .punctuator || t.value ≠ p then unexpected t

def expectWord (w : String) : Parse Unit := do
  let t ← nextToken
  if t.kind ≠ .keyword || t.value ≠ w then unexpected t

def skip : Parse Unit := do
  let _ ← nextToken

def assignmentOperators : List String :=
  ["=", "*=", "**=", "/=", "%=", "+=", "-=", "<<=", ">>=", ">>>=", "&=", "^=", "|="]

def nextAssigns : Parse Bool := do
  let t ← lookahead
  return t.kind = .punctuator && assignmentOperators.contains t.value

/-- Is the next token on the line and one that ends a statement, or may one be supplied? -/
def semicolon : Parse Unit := do
  if ← nextIs ";" then skip
  else if !(← lineBreak) then
    if !(← atEnd) && !(← nextIs "\x7d") then unexpected (← lookahead)
    modify fun st => { st with lastMark := st.startMark }

/-! ### Settings and covers -/

/-- Read where `in` is an operator, or is not. -/
def withIn {α : Type} (allowed : Bool) (p : Parse α) : Parse α := do
  let before := (← setting).inAllowed
  setSetting fun s => { s with inAllowed := allowed }
  let a ← p
  setSetting fun s => { s with inAllowed := before }
  pure a

/-- Read where `yield` is a name, or is not. -/
def withYieldName {α : Type} (isName : Bool) (p : Parse α) : Parse α := do
  let before := (← setting).yieldIsName
  setSetting fun s => { s with yieldIsName := isName }
  let a ← p
  setSetting fun s => { s with yieldIsName := before }
  pure a

def inLoop {α : Type} (p : Parse α) : Parse α := do
  let before := (← setting).inLoop
  setSetting fun s => { s with inLoop := true }
  let a ← p
  setSetting fun s => { s with inLoop := before }
  pure a

/-- Read an expression that stands alone: what it could have been does not matter to the
    one around it, and a leftover initialiser is a fault. -/
def isolate {α : Type} (p : Parse α) : Parse α := do
  let before ← cover
  setCover fun _ => ⟨true, true, none⟩
  let a ← p
  match (← cover).initialiser with
  | some t => unexpected t
  | none =>
    setCover fun _ => before
    pure a

/-- Read a part of an expression: the whole can be what both it and the part can be. -/
def inherit {α : Type} (p : Parse α) : Parse α := do
  let before ← cover
  setCover fun _ => ⟨true, true, none⟩
  let a ← p
  setCover fun now => ⟨now.assignable && before.assignable, now.bindable && before.bindable,
    before.initialiser <|> now.initialiser⟩
  pure a

/-- Repeat a step that either goes on with a state or ends with a value.  A step reads at
    least one token, so there are no more steps than characters. -/
def iterate {σ α : Type} (step : σ → Parse (σ ⊕ α)) : Nat → σ → Parse α
  | 0, _ => stop .tooDeep
  | fuel + 1, s => do
    match ← step s with
    | .inl s' => iterate step fuel s'
    | .inr a => pure a

/-- Repeat a step until it gives a value. -/
def loop {σ α : Type} (s : σ) (step : σ → Parse (σ ⊕ α)) : Parse α := do
  let src ← read
  iterate step (src.size + 2) s

end Parse

/-! ### Rules -/

/-- The name that a binding declares, by how it is declared. -/
inductive Declared
  | var
  | lexical      -- let or const
  | plain        -- a parameter or a catch variable
  deriving DecidableEq

/-- The rules that refer to themselves through others. -/
structure Rules where
  assignment : Parse Expr
  unary : Parse Expr
  power : Parse Expr
  expression : Parse Expr
  /-- The callee of `new`. -/
  callee : Parse Expr
  /-- An operand with its members, calls and templates. -/
  chain : Parse Expr
  statement : Parse Unit
  /-- A statement or declaration. -/
  item : Parse Unit
  functionBody : Parse Unit
  /-- What values are bound to, with the tokens of the names bound. -/
  pattern : Declared → Parse (Expr × List Token)

end ScriptDiagnosis.Script
