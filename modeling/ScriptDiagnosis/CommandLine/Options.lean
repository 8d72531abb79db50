/-
  ScriptDiagnosis/CommandLine/Options.lean
  ========================================
  Which arguments of a command line are options.  An option is written in full, or as the
  beginning of just one long name; its value may follow an equals sign.  Behind the letter of
  a short option may stand the letters of others.  What looks like a negative number, or holds
  a space, is no option unless it is a known one.  Everything behind `--` is plain.
-/
import ScriptDiagnosis.Text.DecimalDigit
import ScriptDiagnosis.Text.Quoted

namespace ScriptDiagnosis.CommandLine
open Text

/-! ### The options there are -/

/-- What an option asks for. -/
inductive Switch
  | help
  | syntaxOnly
  | script
  | json
  | model
  | debug
  deriving DecidableEq, Repr

/-- Does the option take a value? -/
def Switch.takesValue (s : Switch) : Bool := s = .model

def Switch.label : Switch → Text
  | help => "-h/--help"
  | syntaxOnly => "--syntax-only"
  | script => "--script"
  | json => "--json"
  | model => "--model"
  | debug => "--debug"

/-- The names of options, in order. -/
abbrev Table := List (Text × Switch)

def topTable : Table := [("-h", .help), ("--help", .help)]

/-- The options of the command `check`. -/
def checkTable : Table :=
  [("-h", .help), ("--help", .help), ("--syntax-only", .syntaxOnly), ("--script", .script),
   ("--json", .json), ("--model", .model), ("--debug", .debug)]

def Table.find? (t : Table) (name : Text) : Option Switch :=
  (List.find? (fun e => e.1 = name) t).map Prod.snd

/-! ### What can be wrong -/

inductive Fault
  | ambiguous (argument : Text) (candidates : List Text)
  | expectedValue (s : Switch)
  | ignoredValue (s : Switch) (value : Text)
  | unknownCommand (name : Text)
  | unrecognized (arguments : List Text)
  deriving DecidableEq, Repr

def Fault.text : Fault → Text
  | ambiguous argument candidates =>
    ("ambiguous option: " : Text) ++ argument ++ " could match " ++ join (", " : Text) candidates
  | expectedValue s => ("argument " : Text) ++ s.label ++ ": expected one argument"
  | ignoredValue s value =>
    ("argument " : Text) ++ s.label ++ ": ignored explicit argument " ++ quoted value
  | unknownCommand name =>
    ("argument command: invalid choice: " : Text) ++ quoted name ++ " (choose from 'check')"
  | unrecognized arguments =>
    ("unrecognized arguments: " : Text) ++ join [' '] arguments

/-! ### Arguments -/

/-- An argument, as far as it can be told without the others. -/
inductive Item
  | plain (t : Text)
  /-- The argument `--`. -/
  | separator
  /-- A known option, and the value behind its equals sign. -/
  | option (s : Switch) (value : Option Text)
  /-- A known short option, and what stands directly behind it. -/
  | letters (s : Switch) (more : Text)
  /-- What looks like an option and is none. -/
  | unknown (t : Text)
  deriving DecidableEq, Repr

/-- A text up to its first equals sign, and what follows the sign. -/
def splitEquals (t : Text) : Text × Option Text :=
  match t.dropWhile (· ≠ '=') with
  | [] => (t, none)
  | _ :: value => (t.takeWhile (· ≠ '='), some value)

/-- What an argument may be short for, by the names of the options meant. -/
def candidates (table : Table) (t : Text) : List (Text × Item) :=
  match t with
  | '-' :: '-' :: _ =>
    let (start, value) := splitEquals t
    (table.filter fun e => start.isPrefixOf e.1).map fun e => (e.1, .option e.2 value)
  | _ =>
    table.filterMap fun e =>
      if e.1 = t.take 2 then some (e.1, .letters e.2 (t.drop 2))
      else if t.isPrefixOf e.1 then some (e.1, .option e.2 none)
      else none

/-- The text without a line feed at its end. -/
def dropFinalLineFeed (t : Text) : Text :=
  if t.getLast? = some '\n' then t.dropLast else t

/-- Does an argument look like a negative number? -/
def looksNegative (t : Text) : Bool :=
  match dropFinalLineFeed t with
  | '-' :: body =>
    match body.dropWhile isDigit with
    | [] => !body.isEmpty
    | '.' :: fraction => !fraction.isEmpty && fraction.all isDigit
    | _ => false
  | _ => false

/-- An argument that begins with a dash, is longer, and is no name of an option. -/
def classifyDashed (table : Table) (t : Text) : Except Fault Item :=
  match candidates table t with
  | [(_, item)] => .ok item
  | [] =>
    if looksNegative t || t.contains ' ' then .ok (.plain t) else .ok (.unknown t)
  | several => .error (.ambiguous t (several.map Prod.fst))

/-- What an argument is that is not `--`. -/
def classify (table : Table) (t : Text) : Except Fault Item :=
  if t.head? ≠ some '-' then .ok (.plain t)
  else match table.find? t with
    | some s => .ok (.option s none)
    | none =>
      if t.length = 1 then .ok (.plain t)
      else
        let (name, value) := splitEquals t
        match value, table.find? name with
        | some v, some s => .ok (.option s (some v))
        | _, _ => classifyDashed table t

def classifyAll (table : Table) : List Text → Except Fault (List Item)
  | [] => .ok []
  | t :: rest =>
    if t = ['-', '-'] then .ok (.separator :: rest.map .plain)
    else do
      let item ← classify table t
      let items ← classifyAll table rest
      pure (item :: items)

/-- The options that a short one and the letters behind it ask for.  A letter that is no
    option ends them; a dash cannot stand among them, nor a value behind the last. -/
def bundled (table : Table) (s : Switch) : Text → Except Fault (List Switch)
  | [] => .ok [s]
  | '-' :: rest => .error (.ignoredValue s ('-' :: rest))
  | c :: rest =>
    match table.find? ['-', c], rest with
    | none, _ => .ok [s]
    | some s', '=' :: value => .error (.ignoredValue s' value)
    | some s', rest => (bundled table s' rest).map (s :: ·)

end ScriptDiagnosis.CommandLine
