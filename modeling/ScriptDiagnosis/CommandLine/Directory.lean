/-
  ScriptDiagnosis/CommandLine/Directory.lean
  ==========================================
  A directory of files, seen through paths.  A path is followed part by part from the
  directory: an empty part or a dot stays, two dots lead up, a name leads to a file of the
  directory.  Nothing is known of the directories above except that they are there.
-/
import ScriptDiagnosis.Failure.Wording

namespace ScriptDiagnosis.CommandLine
open Text

/-- The files of a directory, by their names. -/
abbrev Directory := List (Text × List UInt8)

namespace Directory

/-- Where a path has led so far. -/
inductive Place
  | here
  | above
  | file (bytes : List UInt8)

/-- The most bytes of a name. -/
def longestName : Nat := 255

/-- The bytes that a path may not reach. -/
def pathLimit : Nat := 4096

def byteCount (t : Text) : Nat := t.foldl (fun n c => n + c.utf8Size) 0

def parts : Text → List Text
  | [] => [[]]
  | c :: rest =>
    if c = '/' then [] :: parts rest
    else match parts rest with
      | [] => [[c]]
      | p :: ps => (c :: p) :: ps

/-- Follow one part of a path.  A failure is the operating system's number. -/
def enter (d : Directory) (p : Place) (part : Text) : Except Int Place :=
  match p with
  | .file _ => .error 20
  | .above => if part.isEmpty || part = "." || part = ".." then .ok .above else .error 2
  | .here =>
    if part.isEmpty || part = "." then .ok .here
    else if part = ".." then .ok .above
    else if longestName < byteCount part then .error 36
    else match List.find? (fun f => f.1 = part) d with
      | some f => .ok (.file f.2)
      | none => .error 2

def follow (d : Directory) (path : Text) : Except Int Place :=
  if pathLimit ≤ byteCount path then .error 36
  else (parts path).foldlM d.enter (if path.head? = some '/' then .above else .here)

def read (d : Directory) (path : Text) : Except Failure (List UInt8) :=
  match d.follow path with
  | .ok (.file bytes) => .ok bytes
  | .ok _ => .error (Failure.ofPath 21 path)
  | .error n => .error (Failure.ofPath n path)

end Directory
end ScriptDiagnosis.CommandLine
