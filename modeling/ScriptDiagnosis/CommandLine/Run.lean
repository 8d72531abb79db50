/-
  ScriptDiagnosis/CommandLine/Run.lean
  ====================================
  A run of the program, as a function of all that it can see: its arguments, standard input,
  the files, the environment, and what the provider's client does.  It answers with how the
  run ends and with all that an observer sees of it.

  The status is 0 for a clean snippet, 1 for findings, and 2 where there is nothing to check.
  A few failures are not handled and end the run.  One of them comes last: a diagnosis with
  half of a surrogate pair in a text of it cannot be printed.
-/
import ScriptDiagnosis.CommandLine.Help
import ScriptDiagnosis.Diagnosis.Report
import ScriptDiagnosis.Diagnosis.Run
import ScriptDiagnosis.Json.Printer
import ScriptDiagnosis.Log.Routing
import ScriptDiagnosis.Provider.Contact
import ScriptDiagnosis.Review.Halves
import ScriptDiagnosis.Text.Utf8

namespace ScriptDiagnosis.CommandLine
open Text SyntaxCheck Provider

/-! ### What a run sees, and what is seen of it -/

/-- What a run can see besides its arguments. -/
structure World where
  /-- The bytes on standard input. -/
  stdin : List UInt8
  /-- The bytes of the file at a path. -/
  read : Text → Except Failure (List UInt8)
  environment : Config.Environment
  /-- What each client of the provider does, by the attempt that it is made for. -/
  client : Nat → Client

/-- How a run ends. -/
inductive Ending
  | exit (status : Nat)
  /-- By a failure that is not handled. -/
  | raised (f : Failure)
  /-- By standard output's refusal of what is printed on it. -/
  | unprinted
  deriving DecidableEq, Repr

structure Outcome where
  ending : Ending
  /-- The failure of printing, where there is one. -/
  refusal : Option Failure := none
  stdout : Text := []
  /-- The records that are written to standard error. -/
  logs : List Log.Record := []
  /-- What else is written to standard error. -/
  notice : Text := []
  delays : List Seconds := []
  /-- The options of the clients that were made. -/
  clients : List Options := []
  /-- The prompts that were sent. -/
  queries : List Text := []
  deriving Repr

/-- The failure that leaves a run, where there is one. -/
def Outcome.failure? (r : Outcome) : Option Failure :=
  match r.ending with
  | .exit _ => none
  | .raised f => some f
  | .unprinted => r.refusal

/-! ### The snippet -/

/-- The text of some bytes, with its line ends unified. -/
def textOfBytes (bytes : List UInt8) : Except Failure Text :=
  match decodeUtf8 bytes with
  | .ok t => .ok (unifyLineEnds t)
  | .error f => .error f.failure

/-- A path with a character that no path can have. -/
def nulInPath : Failure := ⟨.value, "embedded null byte", none⟩

/-- The file to read; without one, or with a dash for it, it is standard input. -/
def fileOf (o : CheckOptions) : Option Text :=
  match o.file with
  | none => none
  | some p => if p.isEmpty || p = "-" then none else some p

def readSnippet (w : World) (o : CheckOptions) : Except Failure Text :=
  match fileOf o with
  | none => textOfBytes w.stdin
  | some p => if p.contains '\x00' then .error nulInPath else w.read p >>= textOfBytes

/-! ### The check -/

def statusOk : Nat := 0
def statusFindings : Nat := 1
def statusUsage : Nat := 2

def emptyMessage : Text := "Please enter some code to analyze."

/-- The style of a printed verdict: escaped. -/
def verdictStyle : Json.Style := ⟨true, true⟩
/-- The style of a printed diagnosis: characters as they are. -/
def diagnosisStyle : Json.Style := ⟨false, true⟩

/-- The routing of records, when the log is set up for a run first. -/
def routed (o : CheckOptions) (records : List Log.Record) : Log.Routing :=
  records.foldl (fun r record => r.log record) (Log.Routing.initial.setUp o.debug none)

/-- The records of a run that are written to standard error. -/
def written (o : CheckOptions) (records : List Log.Record) : List Log.Record :=
  (routed o records).recordsOf .standardError

def modeOf (o : CheckOptions) : Mode := if o.script then .script else .functionBody

/-- A verdict, as it is printed. -/
def verdictText (o : CheckOptions) (r : SyntaxResult) : Text :=
  (if o.json then Json.encode verdictStyle r.json else r.text) ++ ['\n']

/-- A diagnosis, as it is printed. -/
def diagnosisText (o : CheckOptions) (d : Diagnosis) : Text :=
  (if o.json then Json.encode diagnosisStyle d.json else d.summary) ++ ['\n']

/-- Standard output's failure on a text that has halves of surrogate pairs: they are where the
    other text has their marks. -/
def printFailure (shown marked : Text) : Failure :=
  let (before, rest) := (shown.zip marked).span fun p => p.1 = p.2
  let halves := rest.takeWhile fun p => p.1 ≠ p.2
  let code := match halves with
    | [] => 0
    | (_, mark) :: _ => mark.toNat - Review.markDistance
  unencodable before.length (before.length + halves.length - 1) code

/-- Printing a diagnosis, given what it is with marks for halves.  The texts of a failed review
    are the program's own and have none. -/
def printed (o : CheckOptions) (d : Diagnosis) (marked : Except Failure Diagnosis) :
    Except Failure Text :=
  match marked with
  | .error _ => .ok (diagnosisText o d)
  | .ok m =>
    if d.kind ≠ .runtime ∧ m ≠ d then
      .error (printFailure (diagnosisText o d) (diagnosisText o m))
    else .ok (diagnosisText o d)

/-- The status that tells of a diagnosis. -/
def exitStatus (d : Diagnosis) : Nat := if d.isSuccess then statusOk else statusFindings

def runSyntaxOnly (parse : Text → ParserAnswer) (o : CheckOptions) (snippet : Text) : Outcome :=
  let mode := modeOf o
  match loggedVerdict mode snippet (parse (sourceFor mode snippet)) with
  | (logs, .error f) => { ending := .raised f, logs := written o logs }
  | (logs, .ok r) =>
    { ending := .exit (if r.isValid then statusOk else statusFindings)
      stdout := verdictText o r
      logs := written o logs }

/-- The settings of a run: those of the environment, with the model of the command line if
    it names one. -/
def configOf (w : World) (o : CheckOptions) : Except Config.Fault Config :=
  (Config.ofEnvironment w.environment).map fun c =>
    match o.model with
    | none => c
    | some m => if m.isEmpty then c else { c with model := m }

/-- What is seen of a diagnosis that was asked of this contact, where it has the given result with
    marks for halves. -/
def reported (o : CheckOptions) (contact : Contact) (client : Nat → Client) (t : Diagnosis.Trace)
    (marked : Except Failure Diagnosis) : Outcome :=
  let seen : Outcome :=
    { ending := .unprinted
      logs := written o t.logs
      delays := t.delays
      clients := t.prompts.flatMap fun _ => contact.clients
      queries := (t.prompts.zipIdx 1).flatMap fun (prompt, attempt) =>
        (contact.complete (client attempt) prompt).queries }
  match t.result with
  | .error f => { seen with ending := .raised f }
  | .ok d =>
    match printed o d marked with
    | .error f => { seen with refusal := some f }
    | .ok text => { seen with ending := .exit (exitStatus d), stdout := text }

def runReviewed (parse : Text → ParserAnswer) (w : World) (o : CheckOptions) (snippet : Text) :
    Outcome :=
  match configOf w o with
  | .error f => { ending := .raised f.failure }
  | .ok c =>
    let contact := Contact.ofConfig c
    let mode := modeOf o
    let answer := parse (sourceFor mode snippet)
    let reviewer := contact.reviewer w.client
    reported o contact w.client (Diagnosis.diagnose mode answer c reviewer snippet)
      (Diagnosis.diagnose mode answer c (Review.Reviewer.marked reviewer) snippet).result

def unreadableRecord (o : CheckOptions) (f : Failure) : Log.Record :=
  ⟨.error, Log.rootLogger,
    ("Could not read " : Text) ++ o.file.getD [] ++ ": " ++ f.text, false⟩

def runCheck (parse : Text → ParserAnswer) (w : World) (o : CheckOptions) : Outcome :=
  match readSnippet w o with
  | .error f =>
    if f.kind.isA .system then
      { ending := .exit statusUsage, logs := written o [unreadableRecord o f] }
    else { ending := .raised f }
  | .ok snippet =>
    if isBlankText snippet then
      { ending := .exit statusUsage, notice := emptyMessage ++ ['\n'] }
    else if o.syntaxOnly then runSyntaxOnly parse o snippet
    else runReviewed parse w o snippet

def run (parse : Text → ParserAnswer) (w : World) (args : List Text) : Outcome :=
  match readArguments args with
  | .help topic => { ending := .exit statusOk, stdout := topic.help }
  | .refused topic fault => { ending := .exit statusUsage, notice := refusal topic fault }
  | .check o => runCheck parse w o

/-- The text of standard error, with the text of a record's time and of a trace. -/
def Outcome.stderr (r : Outcome) (time trace : Text) : Text :=
  r.logs.flatMap (Log.Record.lines time trace) ++ r.notice

end ScriptDiagnosis.CommandLine
