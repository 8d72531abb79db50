/-
  ScriptDiagnosis/Json/Basic.lean
  ===============================
  JSON values.  A number with a fraction or an exponent keeps the text it was written in:
  nothing here computes with it.  An object keeps its members in order, repetitions
  included; asking for a member gives the last of its name.
-/
import ScriptDiagnosis.Text.Basic

namespace ScriptDiagnosis

inductive Json
  | null
  | bool (b : Bool)
  | integer (n : Int)
  | decimal (written : Text)
  | string (t : Text)
  | array (items : List Json)
  | object (members : List (Text × Json))
  deriving Repr

namespace Json

instance : Inhabited Json := ⟨null⟩

/-- The name of a value's type, as complaints about a reply give it. -/
def typeName : Json → Text
  | null => "NoneType"
  | bool _ => "bool"
  | integer _ => "int"
  | decimal _ => "float"
  | string _ => "str"
  | array _ => "list"
  | object _ => "dict"

/-- The last member of a name. -/
def lastOf (name : Text) (members : List (Text × Json)) : Option Json :=
  members.foldl (fun found m => if m.1 = name then some m.2 else found) none

/-- The last member of a name, if the value is an object that has one. -/
def member? (v : Json) (name : Text) : Option Json :=
  match v with
  | object members => lastOf name members
  | _ => none

/-- A text, or null where there is none. -/
def ofText? : Option Text → Json
  | none => null
  | some t => string t

/-- An integer, or null where there is none. -/
def ofInt? : Option Int → Json
  | none => null
  | some n => integer n

end Json
end ScriptDiagnosis
