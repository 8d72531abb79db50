/-
  ScriptDiagnosis/CommandLine/Arguments.lean
  ==========================================
  What a command line asks for.  Options and the file of a check come in any order; the
  first plain argument is the file, and what is left over is complained about at the end.
  A request for help, or a complaint about one argument, stops the reading where it stands;
  an ambiguous option stops it before anything else is looked at.
-/
import ScriptDiagnosis.CommandLine.Options

namespace ScriptDiagnosis.CommandLine
open Text

/-- The options of a check. -/
structure CheckOptions where
  file : Option Text := none
  syntaxOnly : Bool := false
  script : Bool := false
  json : Bool := false
  model : Option Text := none
  debug : Bool := false
  deriving DecidableEq, Repr

/-- What a help text or a complaint is about. -/
inductive Topic
  | program
  | check
  deriving DecidableEq, Repr

/-- What a command line asks for. -/
inductive Request
  | help (topic : Topic)
  | refused (topic : Topic) (fault : Fault)
  | check (o : CheckOptions)
  deriving DecidableEq, Repr

/-- Why the reading stops before the end. -/
inductive Stop
  | help
  | fault (f : Fault)
  deriving DecidableEq, Repr

def CheckOptions.turnOn (o : CheckOptions) : Switch → Except Stop CheckOptions
  | .help => .error .help
  | .syntaxOnly => .ok { o with syntaxOnly := true }
  | .script => .ok { o with script := true }
  | .json => .ok { o with json := true }
  | .debug => .ok { o with debug := true }
  | .model => .error (.fault (.expectedValue .model))

/-- What is known in the middle of reading a check. -/
structure Reading where
  options : CheckOptions := {}
  /-- Was the last argument the file?  Then a separator behind it belongs to it. -/
  atFile : Bool := false
  /-- The arguments that nothing is known about. -/
  extras : List Text := []
  deriving Repr

def Reading.turnOn (r : Reading) (s : Switch) : Except Stop Reading :=
  (r.options.turnOn s).map fun o => { r with options := o, atFile := false }

/-- Read an option that comes with its value, or without one. -/
def Reading.readOption (r : Reading) (s : Switch) : Option Text → Except Stop Reading
  | none => r.turnOn s
  | some v =>
    if s.takesValue then
      .ok { r with options := { r.options with model := some v }, atFile := false }
    else .error (.fault (.ignoredValue s v))

def Reading.readLetters (r : Reading) (s : Switch) (more : Text) : Except Stop Reading :=
  match bundled checkTable s more with
  | .ok switches => switches.foldlM Reading.turnOn r
  | .error f => .error (.fault f)

def Reading.read (r : Reading) : List Item → Except Stop Reading
  | [] => .ok r
  | .plain t :: rest =>
    if r.options.file.isNone then
      Reading.read { r with options := { r.options with file := some t }, atFile := true } rest
    else Reading.read { r with extras := r.extras ++ [t], atFile := false } rest
  | .separator :: rest =>
    if r.options.file.isNone || r.atFile then Reading.read { r with atFile := false } rest
    else Reading.read { r with extras := r.extras ++ [['-', '-']] } rest
  | .unknown t :: rest => Reading.read { r with extras := r.extras ++ [t], atFile := false } rest
  | .option .model none :: .plain v :: rest =>
    Reading.read
      { r with options := { r.options with model := some v }, atFile := false } rest
  | .option s value :: rest =>
    match r.readOption s value with
    | .ok r => Reading.read r rest
    | .error e => .error e
  | .letters s more :: rest =>
    match r.readLetters s more with
    | .ok r => Reading.read r rest
    | .error e => .error e

/-- The options of a check, and the arguments that nothing is known about. -/
def readCheck (args : List Text) : Except Stop (CheckOptions × List Text) :=
  match classifyAll checkTable args with
  | .error f => .error (.fault f)
  | .ok items => (Reading.read {} items).map fun r => (r.options, r.extras)

/-- A check, unless arguments are left over. -/
def checkRequest (o : CheckOptions) (extras : List Text) : Request :=
  if extras.isEmpty then .check o else .refused .program (.unrecognized extras)

/-- What the arguments from the command on ask for, after some that nothing is known
    about. -/
def readCommand (extras : List Text) (command : Text) (args : List Text) : Request :=
  if command = "check" then
    match readCheck args with
    | .ok (o, more) => checkRequest o (extras ++ more)
    | .error .help => .help .check
    | .error (.fault f) => .refused .check f
  else .refused .program (.unknownCommand command)

/-- What the arguments ask for, after some that nothing is known about. -/
def readProgram (extras : List Text) : List (Text × Item) → Request
  | [] => if extras.isEmpty then .help .program else .refused .program (.unrecognized extras)
  | (command, .plain _) :: rest => readCommand extras command (rest.map Prod.fst)
  | (t, .separator) :: rest =>
    if rest.isEmpty then .refused .program (.unrecognized (extras ++ [t]))
    else .refused .program (.unknownCommand t)
  | (t, .unknown _) :: rest => readProgram (extras ++ [t]) rest
  | (_, .option _ none) :: _ => .help .program
  | (_, .option s (some v)) :: _ => .refused .program (.ignoredValue s v)
  | (_, .letters s more) :: _ =>
    match bundled topTable s more with
    | .ok _ => .help .program
    | .error f => .refused .program f

def readArguments (args : List Text) : Request :=
  match classifyAll topTable args with
  | .error f => .refused .program f
  | .ok items => readProgram [] (args.zip items)

end ScriptDiagnosis.CommandLine
