/-
  ScriptDiagnosis/Proofs/Reply/Fault.lean
  =======================================
  What can be wrong with a reply that is refused, and what that is reported as.  There are two
  sorts of faults.  One is about the reply: its body is no JSON, or its value does not meet the
  schema, and all of these are reported as a malformed reply.  The other is a limit of the
  decoder, on the digits of an integer or on nesting; these are reported as failures that the
  review does not know (`readReply_error_kind`).
-/
import ScriptDiagnosis.Proofs.Reply.Schema

namespace ScriptDiagnosis.Reply
open Text

/-! ### Faults against the schema -/

def memberNames : List Text := [buggyName, suggestionName, codeName, explanationName, tipsName]

def typeNames : List Text := ["bool", "str", "NoneType", "int", "float", "list", "dict"]

theorem typeName_mem (v : Json) : v.typeName ∈ typeNames := by
  cases v with
  | bool _ => exact .head _
  | string _ => exact .tail _ (.head _)
  | null => exact .tail _ (.tail _ (.head _))
  | integer _ => exact .tail _ (.tail _ (.tail _ (.head _)))
  | decimal _ => exact .tail _ (.tail _ (.tail _ (.tail _ (.head _))))
  | array _ => exact .tail _ (.tail _ (.tail _ (.tail _ (.tail _ (.head _)))))
  | object _ => exact .tail _ (.tail _ (.tail _ (.tail _ (.tail _ (.tail _ (.head _))))))

/-- A fault of a decoded value.  All texts in it are names of members and of types. -/
inductive SchemaFault : ReplyFault → Prop
  | notObject {type : Text} (htype : type ∈ typeNames) : SchemaFault (.notObject type)
  | missing {name : Text} (hname : name ∈ memberNames) : SchemaFault (.missing name)
  | wrongType {name expected type : Text} (hname : name ∈ memberNames)
      (hexpected : expected ∈ typeNames) (htype : type ∈ typeNames) :
      SchemaFault (.wrongType name expected type)

theorem schemaFault_of_asBool {name : Text} {v : Json} {f : ReplyFault}
    (hname : name ∈ memberNames) (h : asBool name v = .error f) : SchemaFault f := by
  cases v <;> cases h <;> exact .wrongType hname (.head _) (typeName_mem _)

theorem schemaFault_of_asText {name : Text} {v : Json} {f : ReplyFault}
    (hname : name ∈ memberNames) (h : asText name v = .error f) : SchemaFault f := by
  cases v <;> cases h <;> exact .wrongType hname (.tail _ (.head _)) (typeName_mem _)

theorem schemaFault_of_required {α : Type} {members : List (Text × Json)} {name : Text}
    {read : Text → Json → Except ReplyFault α} {f : ReplyFault} (hname : name ∈ memberNames)
    (hread : ∀ v, read name v = .error f → SchemaFault f)
    (h : required members name read = .error f) : SchemaFault f := by
  unfold required at h
  split at h
  · cases h
    exact .missing hname
  · exact hread _ h

/-- An optional member that is refused breaks the schema: it is there, not null, and no text. -/
theorem schemaFault_of_optional {members : List (Text × Json)} {name : Text} {f : ReplyFault}
    (hname : name ∈ memberNames) (h : optional members name asText = .error f) :
    SchemaFault f := by
  unfold optional at h
  split at h
  · cases h
  · cases h
  · next v _ _ =>
    cases hv : asText name v with
    | ok t => rw [hv] at h; cases h
    | error e =>
      rw [hv] at h
      cases h
      exact schemaFault_of_asText hname hv

theorem schemaFault_of_ofMembers {members : List (Text × Json)} {f : ReplyFault}
    (h : ofMembers members = .error f) : SchemaFault f := by
  simp only [ofMembers, bind_eq_error_iff] at h
  rcases h with h | ⟨_, _, h | ⟨_, _, h | ⟨_, _, h | ⟨_, _, h | ⟨_, _, h⟩⟩⟩⟩⟩
  · have hname : buggyName ∈ memberNames := by simp [memberNames]
    exact schemaFault_of_required hname (fun _ => schemaFault_of_asBool hname) h
  · have hname : suggestionName ∈ memberNames := by simp [memberNames]
    exact schemaFault_of_required hname (fun _ => schemaFault_of_asText hname) h
  · have hname : codeName ∈ memberNames := by simp [memberNames]
    exact schemaFault_of_required hname (fun _ => schemaFault_of_asText hname) h
  · have hname : explanationName ∈ memberNames := by simp [memberNames]
    exact schemaFault_of_required hname (fun _ => schemaFault_of_asText hname) h
  · exact schemaFault_of_optional (by simp [memberNames]) h
  · cases h

theorem schemaFault_of_ofJson {v : Json} {f : ReplyFault} (h : ofJson v = .error f) :
    SchemaFault f := by
  cases v with
  | object members => exact schemaFault_of_ofMembers h
  | null | bool _ | integer _ | decimal _ | string _ | array _ =>
    cases h
    exact .notObject (typeName_mem _)

/-! ### Faults of a reply -/

/-- The body has an integer of too many digits, or nests too deeply, and the decoder comes to
    that before anything else is wrong. -/
def BeyondLimits (body : Text) : Prop :=
  (∃ count, Json.decode body = .error (.tooManyDigits count)) ∨
    ∃ inArray, Json.decode body = .error (.tooDeep inArray)

inductive FaultOf (body : Text) : ReplyFault → Prop
  | notJson {what : Json.Complaint} {left : Nat}
      (h : Json.decode body = .error (.malformed what left)) :
      FaultOf body (.notJson (Json.complaintText body what (body.length - left)))
  | tooManyDigits {count : Nat} (h : Json.decode body = .error (.tooManyDigits count)) :
      FaultOf body (.tooManyDigits count)
  | tooDeep {inArray : Bool} (h : Json.decode body = .error (.tooDeep inArray)) :
      FaultOf body (.tooDeep inArray)
  | schema {v : Json} {f : ReplyFault} (h : Json.decode body = .ok v) (hf : SchemaFault f) :
      FaultOf body f

theorem faultOf_of_decodeBody {body : Text} {f : ReplyFault} (h : decodeBody body = .error f) :
    FaultOf body f := by
  unfold decodeBody at h
  split at h
  · cases h
  · next hdecode => cases h; exact .notJson hdecode
  · next hdecode => cases h; exact .tooManyDigits hdecode
  · next hdecode => cases h; exact .tooDeep hdecode

/-- A reply that is refused is not blank, and its body is at fault. -/
theorem faultOf_of_readReply {reply : Option Text} {f : ReplyFault}
    (h : readReply reply = .error f) :
    ∃ t, reply = some t ∧ isBlankText t = false ∧ FaultOf (unfence t) f := by
  rcases saysNothing_or_text reply with hnothing | ⟨t, rfl, hblank⟩
  · rw [readReply_of_saysNothing hnothing] at h
    cases h
  · rw [readReply_of_text hblank] at h
    refine ⟨t, rfl, hblank, ?_⟩
    rcases bind_eq_error_iff.mp h with hdecode | ⟨v, hdecode, hschema⟩
    · exact faultOf_of_decodeBody hdecode
    · exact .schema (decodeBody_eq_ok_iff.mp hdecode) (schemaFault_of_ofJson hschema)

/-! ### What they are reported as -/

theorem SchemaFault.failure_kind {f : ReplyFault} (h : SchemaFault f) :
    f.failure.kind = .malformedReply := by
  cases h <;> rfl

theorem FaultOf.failure_kind {body : Text} {f : ReplyFault} (h : FaultOf body f) :
    (f.failure.kind = .malformedReply ∧ ¬ BeyondLimits body) ∨
      ((f.failure.kind = .value ∨ f.failure.kind = .recursion) ∧ BeyondLimits body) := by
  cases h with
  | notJson h => exact .inl ⟨rfl, by simp [BeyondLimits, h]⟩
  | tooManyDigits h => exact .inr ⟨.inl rfl, .inl ⟨_, h⟩⟩
  | tooDeep h => exact .inr ⟨.inr rfl, .inr ⟨_, h⟩⟩
  | schema h hf => exact .inl ⟨hf.failure_kind, by simp [BeyondLimits, h]⟩

theorem exists_fault_of_beyondLimits {t : Text} (hblank : isBlankText t = false)
    (h : BeyondLimits (unfence t)) : ∃ f, readReply (some t) = .error f := by
  rw [readReply_of_text hblank]
  rcases h with ⟨count, h⟩ | ⟨inArray, h⟩
  · exact ⟨.tooManyDigits count, by simp [decodeBody, h, bind, Except.bind]⟩
  · exact ⟨.tooDeep inArray, by simp [decodeBody, h, bind, Except.bind]⟩

def ReplyBeyondLimits (reply : Option Text) : Prop :=
  ∃ t, reply = some t ∧ isBlankText t = false ∧ BeyondLimits (unfence t)

/-- A refused reply is reported as malformed, or else it meets a limit of the decoder. -/
theorem readReply_error_kind {reply : Option Text} {f : ReplyFault}
    (h : readReply reply = .error f) :
    (f.failure.kind = .malformedReply ∧ ¬ ReplyBeyondLimits reply) ∨
      ((f.failure.kind = .value ∨ f.failure.kind = .recursion) ∧ ReplyBeyondLimits reply) := by
  obtain ⟨t, rfl, hblank, hf⟩ := faultOf_of_readReply h
  rcases hf.failure_kind with ⟨hkind, hnot⟩ | ⟨hkind, hlimit⟩
  · refine .inl ⟨hkind, ?_⟩
    rintro ⟨_, ht, _, hlimit⟩
    cases ht
    exact hnot hlimit
  · exact .inr ⟨hkind, t, rfl, hblank, hlimit⟩

theorem exists_fault_of_replyBeyondLimits {reply : Option Text} (h : ReplyBeyondLimits reply) :
    ∃ f, readReply reply = .error f ∧
      (f.failure.kind = .value ∨ f.failure.kind = .recursion) := by
  obtain ⟨t, rfl, hblank, hlimit⟩ := h
  obtain ⟨f, hread⟩ := exists_fault_of_beyondLimits hblank hlimit
  rcases readReply_error_kind hread with ⟨_, hnot⟩ | ⟨hkind, _⟩
  · exact absurd ⟨t, rfl, hblank, hlimit⟩ hnot
  · exact ⟨f, hread, hkind⟩

end ScriptDiagnosis.Reply
