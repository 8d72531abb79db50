/-
  ScriptDiagnosis/Log/Record.lean
  ===============================
  Log records.  A record has a level, the name of the logger it was given to and a message;
  the record of an unexpected failure also carries a trace.  The loggers of this library
  stand under one root.
-/
import ScriptDiagnosis.Text.Basic

namespace ScriptDiagnosis.Log
open Text

/-- A level, by its rank.  Rank zero is that of a logger without a level of its own. -/
structure Level where
  rank : Int
  deriving DecidableEq, Repr

namespace Level

def notSet : Level := ⟨0⟩
def debug : Level := ⟨10⟩
def info : Level := ⟨20⟩
def warning : Level := ⟨30⟩
def error : Level := ⟨40⟩
def critical : Level := ⟨50⟩

/-- The levels that have a name of their own. -/
def named : List (Text × Level) :=
  [("NOTSET", notSet), ("DEBUG", debug), ("INFO", info), ("WARNING", warning), ("ERROR", error),
   ("CRITICAL", critical)]

def name (l : Level) : Text :=
  match named.find? fun e => e.2 = l with
  | some e => e.1
  | none => ("Level " : Text) ++ ofInt l.rank

def ofName? (t : Text) : Option Level := (named.find? fun e => e.1 = t).map Prod.snd

end Level

structure Record where
  level : Level
  logger : Text
  message : Text
  /-- Does the trace of a failure follow the message? -/
  traced : Bool := false
  deriving DecidableEq, Repr

/-! ### The loggers of this library -/

/-- The root of the tree, which is also the logger of the command line. -/
def rootLogger : Text := "snippet_review"
def checkLogger : Text := "snippet_review.pipeline.stage1_syntax"
def reviewLogger : Text := "snippet_review.pipeline.stage2_semantic"
def diagnosisLogger : Text := "snippet_review.pipeline.runner"
def providerLogger : Text := "snippet_review.tools.reviewer_tool"

/-- The lines of a record, with the text of its time and of its trace. -/
def Record.lines (time trace : Text) (r : Record) : Text :=
  ("[" : Text) ++ time ++ "] " ++ r.level.name ++ " " ++ r.logger ++ " - " ++ r.message ++ "\n" ++
    if r.traced then trace ++ ['\n'] else []

end ScriptDiagnosis.Log
