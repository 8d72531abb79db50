/-
  ScriptDiagnosis/Failure/Wording.lean
  ====================================
  How failures of the world outside are worded.  A missing key shows the key in quotes, a
  failure of the operating system shows its number, and the failures of the provider's
  client add the path, the exit code or the output that came with them.  Writing fails where
  a number is too long, and where a text has half of a pair of code points.
-/
import ScriptDiagnosis.Failure
import ScriptDiagnosis.Text.Quoted

namespace ScriptDiagnosis.Failure
open Text

/-- A failure, shown as a value: its kind, and its text in quotes if there is one. -/
def shown (f : Failure) : Text :=
  f.kind.name ++ '(' :: (if f.text.isEmpty then [] else quoted f.text) ++ [')']

/-- The failure of writing out a number that is too long. -/
def unwritable : Failure :=
  ⟨.value,
    ("Exceeds the limit (4300 digits) for integer string conversion; " : Text) ++
      "use sys.set_int_max_str_digits() to increase the limit", none⟩

/-- A key that is not there. -/
def missingKey (key : Text) : Failure := ⟨.key, quoted key, none⟩

/-- The kind that the operating system's number narrows a failure of its own to. -/
def systemKind (number : Int) : FailureKind :=
  if number = 1 ∨ number = 13 then .permission
  else if number = 2 then .fileNotFound
  else if number = 20 then .notDirectory
  else if number = 21 then .isDirectory
  else if number = 104 then .socketReset
  else if number = 110 then .timeout
  else .system

def systemText (number : Int) (text : Text) : Text :=
  ("[Errno " : Text) ++ ofInt number ++ "] " ++ text

/-- A failure of the operating system.  A kind that is already narrow stays. -/
def ofSystem (kind : FailureKind) (number : Int) (text : Text) : Failure :=
  ⟨if kind = .system then systemKind number else kind, systemText number text, none⟩

/-- What the operating system says to some of its numbers. -/
def systemPhrase (number : Int) : Text :=
  if number = 2 then "No such file or directory"
  else if number = 13 then "Permission denied"
  else if number = 20 then "Not a directory"
  else if number = 21 then "Is a directory"
  else if number = 36 then "File name too long"
  else "Input/output error"

def ofPath (number : Int) (path : Text) : Failure :=
  ofSystem .system number (systemPhrase number ++ ": " ++ quoted path)

/-- The provider's command is not there; a path that was given is shown. -/
def noCommand (text : Text) (path : Option Text) : Failure :=
  match path with
  | some p => ⟨.commandNotFound, if p.isEmpty then text else text ++ ": " ++ p, none⟩
  | none => ⟨.commandNotFound, text, none⟩

/-- The provider's process failed. -/
def ofProcess (text : Text) (exitCode : Option Int) (errorOutput : Option Text) : Failure :=
  let code := match exitCode with
    | some n => (" (exit code: " : Text) ++ ofInt n ++ ")"
    | none => []
  let output := match errorOutput with
    | some t => if t.isEmpty then [] else ("\nError output: " : Text) ++ t
    | none => []
  ⟨.process, text ++ code ++ output, none⟩

/-- The most characters of a line that its failure shows. -/
def shownOfLine : Nat := 100

/-- The provider's process wrote a line that cannot be decoded. -/
def ofUndecodableLine (line : Text) : Failure :=
  ⟨.undecodableLine, ("Failed to decode JSON: " : Text) ++ line.take shownOfLine ++ "...", none⟩

end ScriptDiagnosis.Failure
