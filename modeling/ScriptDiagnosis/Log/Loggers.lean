/-
  ScriptDiagnosis/Log/Loggers.lean
  ================================
  Loggers and the tree that they form.  A logger stands below another if its name goes on
  behind a dot where the other's ends, and every logger stands below one that has no name.
  A logger is there from the first time that it is asked for, and then it has neither a
  level nor a handler.

  From a logger upwards, the first level that is set is the one that a record has to have;
  and a record passes every logger on its way up, whose handlers write it, until one of them
  does not pass it on.
-/
import ScriptDiagnosis.Log.Record

namespace ScriptDiagnosis.Log

/-- What records can be written to. -/
inductive Stream
  | standardOutput
  | standardError
  /-- Any other stream, by a number. -/
  | other (n : Nat)
  deriving DecidableEq, Repr

structure Logger where
  level : Level := .notSet
  /-- The streams that its handlers write to. -/
  handlers : List Stream := []
  /-- Are records passed on to the logger above it? -/
  propagates : Bool := true
  deriving DecidableEq, Repr

/-! ### Names -/

/-- The names of the loggers above a name that is given backwards, from below.  Of two dots
    in a row the first counts only if there is a logger for what stands before the second. -/
def namesAbove (known : List Text) : Text → List Text
  | '.' :: c :: rest =>
    if (c :: rest).reverse ∈ known then (c :: rest).reverse :: namesAbove known (c :: rest)
    else namesAbove known rest
  | _ :: rest => namesAbove known rest
  | [] => []

/-- Does a name stand for the logger without one? -/
def namesTop (name : Text) : Bool := name.isEmpty || name = "root"

/-! ### The tree -/

structure Loggers where
  /-- The logger without a name. -/
  top : Logger := { level := .warning }
  /-- The names of the other loggers. -/
  known : List Text := []
  /-- The loggers by their names; a name that is not known has the logger that it would get. -/
  named : Text → Logger := fun _ => {}

namespace Loggers

/-- Make sure that there is a logger of this name. -/
def ensure (name : Text) (ls : Loggers) : Loggers :=
  if namesTop name || name ∈ ls.known then ls else { ls with known := name :: ls.known }

/-- Change the logger of this name. -/
def change (name : Text) (f : Logger → Logger) (ls : Loggers) : Loggers :=
  let ls := ls.ensure name
  { ls with named := fun n => if n = name then f (ls.named n) else ls.named n }

/-- A logger by its name, or the one without. -/
def logger (ls : Loggers) : Option Text → Logger
  | some name => ls.named name
  | none => ls.top

/-- The logger of a name and all above it, from below. -/
def lineage (ls : Loggers) (name : Text) : List (Option Text) :=
  if namesTop name then [none]
  else (name :: namesAbove ls.known name.reverse).map some ++ [none]

/-- The level that a record of this logger has to have. -/
def leastLevel (ls : Loggers) (name : Text) : Level :=
  (((ls.lineage name).map fun n => (ls.logger n).level).find? (· ≠ .notSet)).getD .notSet

/-- Is a record of this level heeded?  One of no rank never is. -/
def heeds (ls : Loggers) (name : Text) (level : Level) : Bool :=
  0 < level.rank && (ls.leastLevel name).rank ≤ level.rank

/-- A list up to the first element of this kind. -/
def upTo {α : Type} (stops : α → Bool) : List α → List α
  | [] => []
  | a :: rest => if stops a then [a] else a :: upTo stops rest

/-- The loggers that a record of this logger passes. -/
def passed (ls : Loggers) (name : Text) : List (Option Text) :=
  upTo (fun n => !(ls.logger n).propagates) (ls.lineage name)

/-- The streams that a record of this logger is written to. -/
def streams (ls : Loggers) (name : Text) : List Stream :=
  (ls.passed name).flatMap fun n => (ls.logger n).handlers

end Loggers
end ScriptDiagnosis.Log
