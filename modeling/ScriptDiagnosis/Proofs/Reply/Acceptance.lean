/-
  ScriptDiagnosis/Proofs/Reply/Acceptance.lean
  ============================================
  **What reading a reply comes to**, for every reply that the decoder has room for
  (`readReply_meets_schema`).

  A reply that says nothing gives the empty analysis.  Any other is accepted exactly when its body
  is spelled as one object by the grammar of JSON and the last members of the five names meet the
  schema, and it then gives exactly their values.  If it is not accepted, the failure names the
  first violation, and which one is first is said here by the order of the schema alone
  (`FirstViolation`), not by the order in which a reader goes about it.  Nothing else in the body
  has any influence: not its spelling, not members of other names, not members that a later one of
  their name replaces.
-/
import ScriptDiagnosis.Proofs.Json.Reading
import ScriptDiagnosis.Proofs.Reply.Fault

namespace ScriptDiagnosis.Reply
open Text Json

/-! ### The schema, field by field -/

/-- A field of the schema and the type of its value.  An optional one may be absent or null. -/
structure Field where
  name : Text
  type : Text
  optional : Bool

def schema : List Field :=
  [⟨buggyName, "bool", false⟩, ⟨suggestionName, "str", false⟩, ⟨codeName, "str", false⟩,
    ⟨explanationName, "str", false⟩, ⟨tipsName, "str", true⟩]

/-- What is wrong with the members at a field, in the words of the failure. -/
inductive Violates (members : List (Text × Json)) (field : Field) : Text → Prop
  | missing (hrequired : field.optional = false) (h : lastOf field.name members = none) :
      Violates members field (("Reviewer reply is missing '" : Text) ++ field.name ++ "'")
  | wrongType {v : Json} (h : lastOf field.name members = some v) (htype : v.typeName ≠ field.type)
      (hnull : field.optional = true → v ≠ .null) :
      Violates members field (("Reviewer field '" : Text) ++ field.name ++ "' must be " ++
        field.type ++ ", got " ++ v.typeName)

/-- What is wrong at the first of these fields at which anything is. -/
inductive FirstOf (members : List (Text × Json)) : List Field → Text → Prop
  | here {field : Field} {fields : List Field} {message : Text}
      (h : Violates members field message) : FirstOf members (field :: fields) message
  | later {field : Field} {fields : List Field} {message : Text}
      (h : ∀ other, ¬ Violates members field other) (hrest : FirstOf members fields message) :
      FirstOf members (field :: fields) message

/-- The first violation of a body: it is no JSON, or its value is no object, or else the first in
    the order of the fields. -/
inductive FirstViolation (body : Text) : Failure → Prop
  | notJson {what : Complaint} {left : Nat} (hnone : ∀ v, ¬ IsDocument body v)
      (hfault : decode body = .error (.malformed what left)) :
      FirstViolation body ⟨.malformedReply, ("Reviewer reply is not valid JSON: " : Text) ++
        complaintText body what (body.length - left), some .undecodableReply⟩
  | notObject {v : Json} (hdoc : IsDocument body v) (hobject : ∀ members, v ≠ .object members) :
      FirstViolation body
        ⟨.malformedReply, ("Reviewer reply must be a JSON object, got " : Text) ++ v.typeName, none⟩
  | field {members : List (Text × Json)} {message : Text}
      (hdoc : IsDocument body (.object members)) (h : FirstOf members schema message) :
      FirstViolation body ⟨.malformedReply, message, none⟩

theorem FirstViolation.kind {body : Text} {e : Failure} (h : FirstViolation body e) :
    e.kind = .malformedReply := by
  cases h <;> rfl

/-! ### Readers of one member and the fields they check -/

/-- The reading of a member finds what is wrong at its field, and nothing if it succeeds. -/
structure Checks {α : Type} (members : List (Text × Json)) (field : Field)
    (x : Except ReplyFault α) : Prop where
  ok : ∀ a, x = .ok a → ∀ message, ¬ Violates members field message
  error : ∀ f, x = .error f →
    ∃ message, Violates members field message ∧ f.failure = ⟨.malformedReply, message, none⟩

variable {members : List (Text × Json)} {name type : Text}

theorem not_violates_of_type {v : Json} {optional : Bool} (h : lastOf name members = some v)
    (htype : v.typeName = type) (message : Text) :
    ¬ Violates members ⟨name, type, optional⟩ message := by
  intro hviolates
  cases hviolates with
  | missing _ hnone =>
    rw [hnone] at h
    cases h
  | wrongType hother hne _ =>
    cases hother.symm.trans h
    exact hne htype

/-- A reader of values of one type. -/
def ReadsType {α : Type} (type : Text) (read : Text → Json → Except ReplyFault α) : Prop :=
  ∀ name v, (∃ a, read name v = .ok a ∧ v.typeName = type) ∨
    (read name v = .error (.wrongType name type v.typeName) ∧ v.typeName ≠ type)

theorem readsType_asBool : ReadsType "bool" asBool := by
  intro name v
  cases v with
  | bool b => exact .inl ⟨b, rfl, rfl⟩
  | null => exact .inr ⟨rfl, show ("NoneType" : Text) ≠ "bool" by decide⟩
  | integer _ => exact .inr ⟨rfl, show ("int" : Text) ≠ "bool" by decide⟩
  | decimal _ => exact .inr ⟨rfl, show ("float" : Text) ≠ "bool" by decide⟩
  | string _ => exact .inr ⟨rfl, show ("str" : Text) ≠ "bool" by decide⟩
  | array _ => exact .inr ⟨rfl, show ("list" : Text) ≠ "bool" by decide⟩
  | object _ => exact .inr ⟨rfl, show ("dict" : Text) ≠ "bool" by decide⟩

theorem readsType_asText : ReadsType "str" asText := by
  intro name v
  cases v with
  | string t => exact .inl ⟨t, rfl, rfl⟩
  | null => exact .inr ⟨rfl, show ("NoneType" : Text) ≠ "str" by decide⟩
  | bool _ => exact .inr ⟨rfl, show ("bool" : Text) ≠ "str" by decide⟩
  | integer _ => exact .inr ⟨rfl, show ("int" : Text) ≠ "str" by decide⟩
  | decimal _ => exact .inr ⟨rfl, show ("float" : Text) ≠ "str" by decide⟩
  | array _ => exact .inr ⟨rfl, show ("list" : Text) ≠ "str" by decide⟩
  | object _ => exact .inr ⟨rfl, show ("dict" : Text) ≠ "str" by decide⟩

/-- A reader that tells the type of a member checks its field. -/
theorem checks_of_read {α : Type} {read : Text → Json → Except ReplyFault α} {optional : Bool}
    (hread : ReadsType type read) {v : Json} (h : lastOf name members = some v)
    (hnull : optional = true → v ≠ .null) :
    Checks members ⟨name, type, optional⟩ (read name v) := by
  rcases hread name v with ⟨a, hok, htype⟩ | ⟨herror, htype⟩
  · constructor
    · intro _ _
      exact not_violates_of_type h htype
    · intro f hf
      rw [hok] at hf
      cases hf
  · constructor
    · intro a ha
      rw [herror] at ha
      cases ha
    · intro f hf
      rw [herror] at hf
      cases hf
      exact ⟨_, .wrongType h htype hnull, rfl⟩

theorem checks_required {α : Type} {read : Text → Json → Except ReplyFault α}
    (hread : ReadsType type read) :
    Checks members ⟨name, type, false⟩ (required members name read) := by
  unfold required
  cases h : lastOf name members with
  | none =>
    refine ⟨nofun, fun f hf => ?_⟩
    cases hf
    exact ⟨_, .missing rfl h, rfl⟩
  | some v => exact checks_of_read hread h nofun

theorem Checks.map {α β : Type} {field : Field} {x : Except ReplyFault α}
    (h : Checks members field x) (g : α → β) : Checks members field (x.map g) := by
  cases x with
  | ok a => exact ⟨fun _ _ => h.ok a rfl, nofun⟩
  | error f => exact ⟨nofun, fun e he => h.error e (by cases he; rfl)⟩

theorem checks_optional {α : Type} {read : Text → Json → Except ReplyFault α}
    (hread : ReadsType type read) :
    Checks members ⟨name, type, true⟩ (optional members name read) := by
  have hnone : ∀ message, lastOf name members = none ∨ lastOf name members = some .null →
      ¬ Violates members ⟨name, type, true⟩ message := by
    intro message h hviolates
    cases hviolates with
    | missing hrequired _ => cases hrequired
    | wrongType hv _ hnull =>
      rcases h with h | h
      · cases hv.symm.trans h
      · exact hnull rfl (Option.some.inj (hv.symm.trans h))
  unfold optional
  split
  · next h => exact ⟨fun _ _ message => hnone message (.inl h), nofun⟩
  · next h => exact ⟨fun _ _ message => hnone message (.inr h), nofun⟩
  · next v hnull h => exact (checks_of_read hread h fun _ => hnull).map some

/-- What a reading is at fault with is the first violation of these fields. -/
def Reports {α : Type} (members : List (Text × Json)) (fields : List Field)
    (x : Except ReplyFault α) : Prop :=
  ∀ f, x = .error f →
    ∃ message, FirstOf members fields message ∧ f.failure = ⟨.malformedReply, message, none⟩

theorem Checks.bind {α β : Type} {field : Field} {fields : List Field} {x : Except ReplyFault α}
    {g : α → Except ReplyFault β} (hx : Checks members field x)
    (hg : ∀ a, Reports members fields (g a)) : Reports members (field :: fields) (x >>= g) := by
  intro f h
  rcases bind_eq_error_iff.mp h with h | ⟨a, hok, h⟩
  · obtain ⟨message, hviolates, hfailure⟩ := hx.error f h
    exact ⟨message, .here hviolates, hfailure⟩
  · obtain ⟨message, hfirst, hfailure⟩ := hg a f h
    exact ⟨message, .later (hx.ok a hok) hfirst, hfailure⟩

/-- **The members are checked by the whole schema, in its order.** -/
theorem reports_ofMembers : Reports members schema (ofMembers members) := by
  refine (checks_required readsType_asBool).bind fun _ => ?_
  refine (checks_required readsType_asText).bind fun _ => ?_
  refine (checks_required readsType_asText).bind fun _ => ?_
  refine (checks_required readsType_asText).bind fun _ => ?_
  refine (checks_optional readsType_asText).bind fun _ => ?_
  exact nofun

/-! ### Bodies within the limits -/

variable {body : Text}

theorem beyondLimits_of_isLimit {f : Fault} (hf : f.IsLimit) (h : decode body = .error f) :
    BeyondLimits body := by
  cases f with
  | malformed _ _ => exact hf.elim
  | tooManyDigits count => exact .inl ⟨count, h⟩
  | tooDeep inArray => exact .inr ⟨inArray, h⟩

/-- Within the limits, decoding is the grammar. -/
theorem decode_eq_ok_iff_isDocument (hlimits : ¬ BeyondLimits body) {v : Json} :
    decode body = .ok v ↔ IsDocument body v := by
  rw [decode_eq_ok_iff]
  refine ⟨And.left, fun hdoc => ⟨hdoc, ?_⟩⟩
  refine Classical.byContradiction fun hnot => ?_
  obtain ⟨f, hf, hfault⟩ := (decodeWithin_of_isDocument maxDepth hdoc).2 hnot
  exact hlimits (beyondLimits_of_isLimit hf hfault)

/-- What fits is within the limits. -/
theorem not_replyBeyondLimits_of_fits {t : Text} {v : Json} (hdoc : IsDocument (unfence t) v)
    (hfits : Fits maxDepth v) : ¬ ReplyBeyondLimits (some t) := by
  have hdecode := decode_eq_ok_iff.mpr ⟨hdoc, hfits⟩
  rintro ⟨_, ht, _, hlimits⟩
  cases ht
  rcases hlimits with ⟨_, hfault⟩ | ⟨_, hfault⟩
  · rw [hdecode] at hfault; cases hfault
  · rw [hdecode] at hfault; cases hfault

/-- What is no document is reported as no document. -/
theorem firstViolation_of_decodeBody (hlimits : ¬ BeyondLimits body) {f : ReplyFault}
    (h : decodeBody body = .error f) : FirstViolation body f.failure := by
  unfold decodeBody at h
  split at h
  · cases h
  · next what left hfault =>
    cases h
    refine .notJson (fun v hdoc => ?_) hfault
    rw [(decode_eq_ok_iff_isDocument hlimits).mpr hdoc] at hfault
    cases hfault
  · next count hfault => exact absurd (.inl ⟨count, hfault⟩) hlimits
  · next inArray hfault => exact absurd (.inr ⟨inArray, hfault⟩) hlimits

theorem firstViolation_of_ofJson {v : Json} (hdoc : IsDocument body v) {f : ReplyFault}
    (h : ofJson v = .error f) : FirstViolation body f.failure := by
  cases v with
  | object members =>
    obtain ⟨message, hfirst, hfailure⟩ := reports_ofMembers f h
    rw [hfailure]
    exact .field hdoc hfirst
  | null | bool _ | integer _ | decimal _ | string _ | array _ =>
    cases h
    exact .notObject hdoc nofun

theorem ofMembers_congr {ms ns : List (Text × Json)}
    (h : ∀ name ∈ memberNames, lastOf name ms = lastOf name ns) : ofMembers ms = ofMembers ns := by
  have hbuggy := h buggyName (by simp [memberNames])
  have hsuggestion := h suggestionName (by simp [memberNames])
  have hcode := h codeName (by simp [memberNames])
  have hexplanation := h explanationName (by simp [memberNames])
  have htips := h tipsName (by simp [memberNames])
  simp only [ofMembers, required, optional, hbuggy, hsuggestion, hcode, hexplanation, htips]

/-! ### Blank replies have no body -/

theorem mem_of_mem_trim {t : Text} {c : Char} (h : c ∈ trim t) : c ∈ t := by
  obtain ⟨v, w, _, _, ht⟩ := exists_trim t
  rw [ht]
  exact List.mem_append_left _ (List.mem_append_right _ h)

/-- What is taken off at the front is a line at the front. -/
theorem suffix_dropOpening (t : Text) : dropOpening t <:+ t := by
  rw [dropOpening.eq_def]
  split
  · next rest =>
    split
    · next body heq =>
      have hrest : '\n' :: body <:+ rest := by
        rw [← heq]
        exact List.dropWhile_suffix isTagLetter
      have hbody : body <:+ rest := (List.suffix_cons '\n' body).trans hrest
      exact hbody.trans (List.suffix_append ("```" : Text) rest)
    · exact List.suffix_rfl
  · exact List.suffix_rfl

theorem prefix_dropClosing (t : Text) : dropClosing t <+: t := by
  rw [← List.reverse_suffix, dropClosing]
  split
  · next body heq =>
    rw [heq, List.reverse_reverse]
    exact List.suffix_append ['\x60', '\x60', '\x60', '\n'] body
  · next body heq =>
    rw [heq, List.reverse_reverse]
    exact List.suffix_append ['\n', '\x60', '\x60', '\x60', '\n'] body
  · exact List.suffix_rfl

theorem exists_braces_of_spells {t : Text} (h : Spells t (.value (.object members))) :
    ∃ inner, t = '\x7b' :: (inner ++ ['\x7d']) := by
  generalize hv : Json.object members = v at h
  cases h with
  | word hw =>
    simp only [words, List.mem_cons, List.not_mem_nil, or_false] at hw
    rcases hw with rfl | rfl | rfl | rfl | rfl | rfl <;> cases hv
  | number hnumber => cases hnumber <;> cases hv
  | string _ | emptyArray _ | array _ _ => cases hv
  | emptyObject _ => exact ⟨_, rfl⟩
  | @object sp t _ _ _ => exact ⟨sp ++ t, by rw [List.append_assoc]⟩

theorem isBlankText_of_object {t : Text} (hdoc : IsDocument (unfence t) (.object members)) :
    isBlankText t = false := by
  obtain ⟨sp, s, sp', _, hs, _, heq⟩ := hdoc
  obtain ⟨inner, rfl⟩ := exists_braces_of_spells hs
  have hmem : '\x7b' ∈ unfence t := by rw [heq]; simp
  have hmem := (suffix_dropOpening t).mem ((prefix_dropClosing _).mem (mem_of_mem_trim hmem))
  cases hblank : isBlankText t with
  | false => rfl
  | true => exact absurd (isBlankText_iff.mp hblank _ hmem) (by decide)

/-! ### Whole replies -/

theorem not_beyondLimits {t : Text} (hlimits : ¬ ReplyBeyondLimits (some t))
    (hblank : isBlankText t = false) : ¬ BeyondLimits (unfence t) :=
  fun h => hlimits ⟨t, rfl, hblank, h⟩

theorem readReply_of_object {t : Text} (hlimits : ¬ ReplyBeyondLimits (some t))
    (hdoc : IsDocument (unfence t) (.object members)) :
    readReply (some t) = ofMembers members := by
  have hblank := isBlankText_of_object hdoc
  have hdecode := (decode_eq_ok_iff_isDocument (not_beyondLimits hlimits hblank)).mpr hdoc
  rw [readReply_of_text hblank, decodeBody_eq_ok_iff.mpr hdecode]
  rfl

/-- A reply that the decoder has room for says nothing, or meets the schema and gives what is in
    it, or is refused for its first violation; and two bodies that agree on the members of the
    schema are read alike. -/
theorem readReply_meets_schema {reply : Option Text} (hlimits : ¬ ReplyBeyondLimits reply) :
    (SaysNothing reply → readReply reply = .ok .empty) ∧
    ∀ t, reply = some t → isBlankText t = false →
      (∀ a, readReply (some t) = .ok a ↔
        ∃ members, IsDocument (unfence t) (.object members) ∧ Gives members a) ∧
      ((¬ ∃ members a, IsDocument (unfence t) (.object members) ∧ Gives members a) →
        ∃ f, readReply (some t) = .error f ∧ f.failure.kind = .malformedReply ∧
          FirstViolation (unfence t) f.failure) ∧
      ∀ u ms ns, ¬ ReplyBeyondLimits (some u) →
        IsDocument (unfence t) (.object ms) → IsDocument (unfence u) (.object ns) →
        (∀ name ∈ memberNames, lastOf name ms = lastOf name ns) →
        readReply (some t) = readReply (some u) := by
  refine ⟨readReply_of_saysNothing, ?_⟩
  rintro t rfl hblank
  have hbody := not_beyondLimits hlimits hblank
  -- accepted: by the grammar and the schema, independent of the reader
  have haccepts : ∀ a, readReply (some t) = .ok a ↔
      ∃ members, IsDocument (unfence t) (.object members) ∧ Gives members a := by
    intro a
    rw [readReply_of_text hblank]
    simp only [bind_eq_ok_iff, decodeBody_eq_ok_iff, decode_eq_ok_iff_isDocument hbody,
      ofJson_eq_ok_iff]
    constructor
    · rintro ⟨_, hdoc, members, rfl, hgives⟩
      exact ⟨members, hdoc, hgives⟩
    · rintro ⟨members, hdoc, hgives⟩
      exact ⟨_, hdoc, members, rfl, hgives⟩
  refine ⟨haccepts, fun hnot => ?_, fun u ms ns hu ht hdoc hsame => ?_⟩
  · cases hread : readReply (some t) with
    | ok a =>
      obtain ⟨members, hdoc, hgives⟩ := (haccepts a).mp hread
      exact absurd ⟨members, a, hdoc, hgives⟩ hnot
    | error f =>
      refine ⟨f, rfl, ?_⟩
      -- refused: in decoding, or by a field
      have hfirst : FirstViolation (unfence t) f.failure := by
        rw [readReply_of_text hblank] at hread
        rcases bind_eq_error_iff.mp hread with h | ⟨v, hdecode, h⟩
        · exact firstViolation_of_decodeBody hbody h
        · have hdoc := (decode_eq_ok_iff_isDocument hbody).mp (decodeBody_eq_ok_iff.mp hdecode)
          exact firstViolation_of_ofJson hdoc h
      exact ⟨hfirst.kind, hfirst⟩
  · rw [readReply_of_object hlimits ht, readReply_of_object hu hdoc, ofMembers_congr hsame]

/-- A fenced object without members. -/
def bareReply : Text := "```json\n\x7b \x7d\n```"

theorem readReply_meets_schema_bare :
    ¬ ReplyBeyondLimits (some bareReply) ∧ isBlankText bareReply = false ∧
    ∃ f, readReply (some bareReply) = .error f ∧ f.failure.kind = .malformedReply ∧
      FirstViolation (unfence bareReply) f.failure := by
  have hbody : unfence bareReply = '\x7b' :: ([' '] ++ ['\x7d']) := by decide
  have hdoc : IsDocument (unfence bareReply) (.object []) := by
    have hsp : Spaces [' '] := by decide
    rw [hbody]
    exact ⟨[], _, [], spaces_nil, .emptyObject hsp, spaces_nil, rfl⟩
  have hlimits := not_replyBeyondLimits_of_fits hdoc trivial
  have hblank := isBlankText_of_object hdoc
  have hrefused : ¬ ∃ members a,
      IsDocument (unfence bareReply) (.object members) ∧ Gives members a := by
    rintro ⟨members, a, hother, hgives⟩
    have hiff := fun v => decode_eq_ok_iff_isDocument (v := v) (not_beyondLimits hlimits hblank)
    have hsame := ((hiff _).mpr hdoc).symm.trans ((hiff _).mpr hother)
    cases hsame
    cases hgives.buggy
  exact ⟨hlimits, hblank, ((readReply_meets_schema hlimits).2 _ rfl hblank).2.1 hrefused⟩

/-- The last member of a name counts, and a missing field comes before a wrong type behind it. -/
example : readReply (some "\x7b\"performanceTips\": 1, \"isPotentiallyBuggy\": 0,
    \"isPotentiallyBuggy\": true, \"aiSuggestion\": \"\"\x7d") = .error (.missing "fixedCode") := by
  decide +kernel

end ScriptDiagnosis.Reply
