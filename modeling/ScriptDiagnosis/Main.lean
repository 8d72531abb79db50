/-
  ScriptDiagnosis/Main.lean
  =========================
  The program.  It gathers what a run can see, computes the run, and writes what is to be
  seen of it.  Nothing here connects to a provider: its client reports that the provider's
  command is not there.
-/
import ScriptDiagnosis.CommandLine.Run
import ScriptDiagnosis.Failure.Wording
import ScriptDiagnosis.SyntaxCheck.ScriptParser
import Std.Time.Format

namespace ScriptDiagnosis.CommandLine

/-- A number that may be kept as a negative one in 32 bits. -/
def magnitude (code : UInt32) : Nat :=
  if code.toNat < Nat.pow 2 31 then code.toNat else Nat.pow 2 32 - code.toNat

/-- The operating system's number of a failure. -/
def errorNumber : IO.Error → Nat
  | .alreadyExists _ code _ | .otherError code _ | .resourceBusy code _
  | .resourceVanished code _ | .unsupportedOperation code _ | .hardwareFault code _
  | .unsatisfiedConstraints code _ | .illegalOperation code _ | .protocolError code _
  | .timeExpired code _ | .interrupted _ code _ | .noFileOrDirectory _ code _
  | .invalidArgument _ code _ | .permissionDenied _ code _ | .resourceExhausted _ code _
  | .inappropriateType _ code _ | .noSuchThing _ code _ => magnitude code
  | .unexpectedEof | .userError _ => 5

def readFile (path : Text) : IO (Except Failure (List UInt8)) := do
  try
    let bytes ← IO.FS.readBinFile (String.ofList path)
    pure (.ok bytes.toList)
  catch e => pure (.error (Failure.ofPath (errorNumber e) path))

/-- All that is left on standard input. -/
partial def readAll (input : IO.FS.Stream) (soFar : ByteArray) : IO ByteArray := do
  let chunk ← input.read 65536
  if chunk.isEmpty then pure soFar else readAll input (soFar ++ chunk)

/-- The variables of the environment that a run looks at. -/
def readEnvironment : IO Config.Environment := do
  let names := [Config.keyVariable, Config.modelVariable, Config.cliPathVariable,
    Config.attemptsVariable]
  let values ← names.mapM fun n => do
    pure (n, (← IO.getEnv (String.ofList n)).map String.toList)
  pure fun name => ((values.find? fun v => v.1 = name).map Prod.snd).join

/-- A client whose command is not there. -/
def absentClient : Provider.Client :=
  { entering := some (Failure.noCommand "Claude Code not found" none) }

/-- What a run of the given arguments can see.  Standard input is read only if it is the
    snippet. -/
def gather (args : List Text) : IO World := do
  let environment ← readEnvironment
  match readArguments args with
  | .check o =>
    match fileOf o with
    | some p =>
      let bytes ← if p.contains '\x00' then pure (.ok []) else readFile p
      pure ⟨[], fun _ => bytes, environment, fun _ => absentClient⟩
    | none =>
      let bytes ← readAll (← IO.getStdin) ByteArray.empty
      pure ⟨bytes.toList, fun _ => .ok [], environment, fun _ => absentClient⟩
  | _ => pure ⟨[], fun _ => .ok [], environment, fun _ => absentClient⟩

/-- A pause in whole milliseconds. -/
def milliseconds : Seconds → Nat
  | .float (.finite _ mantissa exponent) =>
    let (num, den) := Binary64.fraction mantissa exponent
    num * 1000 / den
  | .float _ => 0
  | .whole n => n.toNat * 1000

end ScriptDiagnosis.CommandLine

open ScriptDiagnosis CommandLine in
def main (args : List String) : IO UInt32 := do
  let args := args.map String.toList
  let world ← gather args
  let outcome := run SyntaxCheck.parseScript world args
  for d in outcome.delays do
    IO.sleep (UInt32.ofNat (min (milliseconds d) 4294967295))
  let time := (← Std.Time.PlainDateTime.now).format "uuuu-MM-dd HH:mm:ss,SSS"
  (← IO.getStdout).putStr (String.ofList outcome.stdout)
  let errors ← IO.getStderr
  errors.putStr (String.ofList (outcome.stderr time.toList "no trace is kept".toList))
  outcome.failure?.forM fun f =>
    errors.putStr (String.ofList (f.kind.name ++ ':' :: ' ' :: f.text ++ ['\n']))
  match outcome.ending with
  | .exit status => pure (UInt32.ofNat status)
  | .raised _ | .unprinted => pure 1
