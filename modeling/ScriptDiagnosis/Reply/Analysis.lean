/-
  ScriptDiagnosis/Reply/Analysis.lean
  ===================================
  What a reviewer found, and how it is read from the reply.  A reply is blank, which says
  nothing, or a JSON object, fenced or not.  The object has four members of a fixed type;
  a fifth may be absent or null.  The first violation is reported, in this order: the text
  is no JSON, the value is no object, then member by member what is missing before what
  has the wrong type.  Other members are ignored.
-/
import ScriptDiagnosis.Failure
import ScriptDiagnosis.Json.Decoder
import ScriptDiagnosis.Reply.CodeFence

namespace ScriptDiagnosis.Reply
open Text

/-- What a reviewer found in a snippet. -/
structure Analysis where
  isPotentiallyBuggy : Bool
  suggestionText : Text
  fixedCode : Text
  explanation : Text
  performanceTips : Option Text
  deriving DecidableEq, Repr

def Analysis.empty : Analysis := ⟨false, [], [], [], none⟩

/-! ### What can be wrong with a reply -/

inductive ReplyFault
  /-- The body is no JSON; the complaint says what, and where. -/
  | notJson (complaint : Text)
  /-- A number in the body has too many digits. -/
  | tooManyDigits (count : Nat)
  /-- The body nests too deeply, in the end in an array or in an object. -/
  | tooDeep (inArray : Bool)
  /-- The value is of another type than an object. -/
  | notObject (type : Text)
  | missing (member : Text)
  | wrongType (member expected actual : Text)
  deriving DecidableEq, Repr

/-- The failure that a fault is reported as.  The limits of the decoder are failures of
    their own, not of the reply. -/
def ReplyFault.failure : ReplyFault → Failure
  | notJson complaint =>
    ⟨.malformedReply, ("Reviewer reply is not valid JSON: " : Text) ++ complaint,
      some .undecodableReply⟩
  | tooManyDigits count => ⟨.value, tooLongText count, none⟩
  | tooDeep inArray =>
    ⟨.recursion, ("maximum recursion depth exceeded while decoding a JSON " : Text) ++
      (if inArray then ("array" : Text) else "object") ++ " from a unicode string", none⟩
  | notObject type =>
    ⟨.malformedReply, ("Reviewer reply must be a JSON object, got " : Text) ++ type, none⟩
  | missing member =>
    ⟨.malformedReply, ("Reviewer reply is missing '" : Text) ++ member ++ "'", none⟩
  | wrongType member expected actual =>
    ⟨.malformedReply, ("Reviewer field '" : Text) ++ member ++ "' must be " ++ expected ++
      ", got " ++ actual, none⟩

/-! ### The members of a reply -/

def buggyName : Text := "isPotentiallyBuggy"
def suggestionName : Text := "aiSuggestion"
def codeName : Text := "fixedCode"
def explanationName : Text := "logicalErrorExplanation"
def tipsName : Text := "performanceTips"

def asBool (name : Text) : Json → Except ReplyFault Bool
  | .bool b => .ok b
  | v => .error (.wrongType name "bool" v.typeName)

def asText (name : Text) : Json → Except ReplyFault Text
  | .string t => .ok t
  | v => .error (.wrongType name "str" v.typeName)

/-- A member that has to be there. -/
def required {α : Type} (members : List (Text × Json)) (name : Text)
    (read : Text → Json → Except ReplyFault α) : Except ReplyFault α :=
  match Json.lastOf name members with
  | none => .error (.missing name)
  | some v => read name v

/-- A member that may be absent or null. -/
def optional {α : Type} (members : List (Text × Json)) (name : Text)
    (read : Text → Json → Except ReplyFault α) : Except ReplyFault (Option α) :=
  match Json.lastOf name members with
  | none | some .null => .ok none
  | some v => (read name v).map some

def ofMembers (members : List (Text × Json)) : Except ReplyFault Analysis := do
  let buggy ← required members buggyName asBool
  let suggestion ← required members suggestionName asText
  let code ← required members codeName asText
  let explanation ← required members explanationName asText
  let tips ← optional members tipsName asText
  pure ⟨buggy, suggestion, unfence code, explanation, tips⟩

def ofJson : Json → Except ReplyFault Analysis
  | .object members => ofMembers members
  | v => .error (.notObject v.typeName)

def decodeBody (body : Text) : Except ReplyFault Json :=
  match Json.decode body with
  | .ok v => .ok v
  | .error (.malformed what left) =>
    .error (.notJson (Json.complaintText body what (body.length - left)))
  | .error (.tooManyDigits count) => .error (.tooManyDigits count)
  | .error (.tooDeep inArray) => .error (.tooDeep inArray)

/-- The analysis that a reply gives.  A reply that is absent or blank says nothing. -/
def readReply (reply : Option Text) : Except ReplyFault Analysis :=
  match reply with
  | none => .ok .empty
  | some t => if isBlankText t then .ok .empty else decodeBody (unfence t) >>= ofJson

end ScriptDiagnosis.Reply
