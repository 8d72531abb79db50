/-
  ScriptDiagnosis/Log/Routing.lean
  ================================
  Where log records go.  A setup gives the root of this library's loggers one handler, for
  the stream that it names, and a level; it takes away the handlers that were there, and
  lets nothing pass on to the loggers above.  It also sets the provider's own logger back to
  warnings.  A record that is heeded and meets no handler is shown bare, if it is a warning
  or more.
-/
import ScriptDiagnosis.Log.Loggers

namespace ScriptDiagnosis.Log

/-- The loggers, and every record that was written with the stream it went to. -/
structure Routing where
  loggers : Loggers := {}
  written : List (Stream × Record) := []
  /-- Records that met no handler. -/
  bare : List Record := []

/-- The provider's own logger. -/
def sdkLogger : Text := "claude_agent_sdk"

/-- Loggers that are kept at warnings. -/
def quietLoggers : List Text := [sdkLogger]

namespace Routing

/-- Before the first setup. -/
def initial : Routing := {}

def threshold (debug : Bool) : Level := if debug then .debug else .warning

/-- Without a stream, records go to standard error. -/
def target (stream : Option Stream) : Stream := stream.getD .standardError

/-- The root of this library's loggers, set up. -/
def setRoot (debug : Bool) (stream : Stream) (_ : Logger) : Logger :=
  { level := threshold debug, handlers := [stream], propagates := false }

def quieten (ls : Loggers) : Loggers :=
  quietLoggers.foldl (fun ls name => ls.change name fun l => { l with level := .warning }) ls

def setUp (debug : Bool) (stream : Option Stream) (r : Routing) : Routing :=
  { r with loggers := quieten (r.loggers.change rootLogger (setRoot debug (target stream))) }

def setProviderLevel (level : Level) (r : Routing) : Routing :=
  { r with loggers := r.loggers.change sdkLogger fun l => { l with level } }

def log (record : Record) (r : Routing) : Routing :=
  let r := { r with loggers := r.loggers.ensure record.logger }
  if r.loggers.heeds record.logger record.level then
    match r.loggers.streams record.logger with
    | [] =>
      if Level.warning.rank ≤ record.level.rank then { r with bare := r.bare ++ [record] } else r
    | streams => { r with written := r.written ++ streams.map fun s => (s, record) }
  else r

def recordsOf (stream : Stream) (r : Routing) : List Record :=
  (r.written.filter fun w => w.1 = stream).map Prod.snd

def streamText (time trace : Text) (stream : Stream) (r : Routing) : Text :=
  (r.recordsOf stream).flatMap (Record.lines time trace)

end Routing

/-- What can happen to a routing. -/
inductive Action
  | setUp (debug : Bool) (stream : Option Stream)
  | setProviderLevel (level : Level)
  | log (record : Record)
  deriving Repr

namespace Routing

def act (r : Routing) : Action → Routing
  | .setUp debug stream => r.setUp debug stream
  | .setProviderLevel level => r.setProviderLevel level
  | .log record => r.log record

def run (r : Routing) (history : List Action) : Routing := history.foldl act r

end Routing
end ScriptDiagnosis.Log
