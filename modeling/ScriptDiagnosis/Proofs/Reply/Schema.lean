/-
  ScriptDiagnosis/Proofs/Reply/Schema.lean
  ========================================
  What a reply has to be to be accepted.  The schema of the object is said once, as a relation
  between its members and the analysis that they give (`Gives`); a reply is accepted exactly
  when it says nothing or is, without its fence, one object that meets the schema
  (`readReply_eq_ok_iff`).  No order of the checks shows in this: it only decides which of
  several faults is reported.
-/
import ScriptDiagnosis.Proofs.Except
import ScriptDiagnosis.Proofs.Text.Runs
import ScriptDiagnosis.Reply.Analysis

namespace ScriptDiagnosis.Reply
open Text

/-! ### Readers of one member -/

theorem asBool_eq_ok_iff {name : Text} {v : Json} {b : Bool} :
    asBool name v = .ok b ↔ v = .bool b := by
  cases v <;> simp [asBool]

theorem asText_eq_ok_iff {name : Text} {v : Json} {t : Text} :
    asText name v = .ok t ↔ v = .string t := by
  cases v <;> simp [asText]

theorem required_eq_ok_iff {α : Type} {members : List (Text × Json)} {name : Text}
    {read : Text → Json → Except ReplyFault α} {a : α} :
    required members name read = .ok a ↔
      ∃ v, Json.lastOf name members = some v ∧ read name v = .ok a := by
  unfold required
  cases Json.lastOf name members with
  | none => simp
  | some v => simp

theorem optional_asText_eq_ok_iff {members : List (Text × Json)} {name : Text}
    {tips : Option Text} :
    optional members name asText = .ok tips ↔
      match tips with
      | none => Json.lastOf name members = none ∨ Json.lastOf name members = some .null
      | some t => Json.lastOf name members = some (.string t) := by
  unfold optional
  cases Json.lastOf name members with
  | none => cases tips <;> simp
  | some v => cases v <;> cases tips <;> simp [asText, Except.map]

/-! ### The schema -/

/-- The members of an object meet the schema, and this is the analysis that they give. -/
structure Gives (members : List (Text × Json)) (a : Analysis) : Prop where
  buggy : Json.lastOf buggyName members = some (.bool a.isPotentiallyBuggy)
  suggestion : Json.lastOf suggestionName members = some (.string a.suggestionText)
  code : ∃ t, Json.lastOf codeName members = some (.string t) ∧ a.fixedCode = unfence t
  explanation : Json.lastOf explanationName members = some (.string a.explanation)
  tips : match a.performanceTips with
    | none => Json.lastOf tipsName members = none ∨ Json.lastOf tipsName members = some .null
    | some t => Json.lastOf tipsName members = some (.string t)

/-- **Members are accepted if they give the fields of an analysis.** -/
theorem ofMembers_eq_ok_iff {members : List (Text × Json)} {a : Analysis} :
    ofMembers members = .ok a ↔ Gives members a := by
  simp only [ofMembers, bind_eq_ok_iff, required_eq_ok_iff, asBool_eq_ok_iff, asText_eq_ok_iff,
    optional_asText_eq_ok_iff]
  constructor
  · rintro ⟨buggy, ⟨_, hb, rfl⟩, suggestion, ⟨_, hs, rfl⟩, code, ⟨_, hc, rfl⟩, explanation,
      ⟨_, he, rfl⟩, tips, ht, ha⟩
    cases ha
    exact ⟨hb, hs, ⟨code, hc, rfl⟩, he, ht⟩
  · rintro ⟨hb, hs, ⟨code, hc, hcode⟩, he, ht⟩
    refine ⟨_, ⟨_, hb, rfl⟩, _, ⟨_, hs, rfl⟩, code, ⟨_, hc, rfl⟩, _, ⟨_, he, rfl⟩, _, ht, ?_⟩
    rw [← hcode]
    rfl

theorem ofJson_eq_ok_iff {v : Json} {a : Analysis} :
    ofJson v = .ok a ↔ ∃ members, v = .object members ∧ Gives members a := by
  cases v <;> simp [ofJson, ofMembers_eq_ok_iff]

/-! ### Replies without a fence -/

/-- A character that is neither white space nor part of a fence. -/
def IsPlain (c : Char) : Prop := isBlank c = false ∧ c ≠ '\x60'

/-- A text that begins and ends with neither white space nor a backtick stays as it is. -/
theorem unfence_of_plain {t : Text} {c d : Char} (hhead : t.head? = some c)
    (hlast : t.getLast? = some d) (hc : IsPlain c) (hd : IsPlain d) : unfence t = t := by
  obtain ⟨rest, rfl⟩ : ∃ rest, t = c :: rest := by
    cases t with
    | nil => cases hhead
    | cons x rest => cases hhead; exact ⟨rest, rfl⟩
  -- the end is looked at from behind, as the program does
  obtain ⟨back, hback⟩ : ∃ back, (c :: rest).reverse = d :: back := by
    rw [← List.head?_reverse] at hlast
    cases hreverse : (c :: rest).reverse with
    | nil => rw [hreverse] at hlast; cases hlast
    | cons x back => rw [hreverse] at hlast; cases hlast; exact ⟨back, rfl⟩
  have hopening : dropOpening (c :: rest) = c :: rest := by
    rw [dropOpening.eq_def]
    split
    · next heq => cases heq; exact absurd rfl hc.2
    · rfl
  have hclosing : dropClosing (c :: rest) = c :: rest := by
    rw [dropClosing, hback]
    split
    · next heq => cases heq; exact absurd rfl hd.2
    · next heq => cases heq; exact absurd hd.1 (by decide)
    · rfl
  rw [unfence, hopening, hclosing]
  refine trim_of_stops_reverse (stops_cons hc.1) ?_
  rw [hback]
  exact stops_cons hd.1

/-! ### Whole replies -/

/-- A reply that is absent or holds nothing but white space. -/
def SaysNothing (reply : Option Text) : Prop :=
  ∀ t, reply = some t → isBlankText t = true

theorem decodeBody_eq_ok_iff {body : Text} {v : Json} :
    decodeBody body = .ok v ↔ Json.decode body = .ok v := by
  unfold decodeBody
  split <;> simp_all

theorem readReply_of_saysNothing {reply : Option Text} (h : SaysNothing reply) :
    readReply reply = .ok .empty := by
  cases reply with
  | none => rfl
  | some t => simp only [readReply, h t rfl, if_true]

theorem readReply_of_text {t : Text} (h : isBlankText t = false) :
    readReply (some t) = decodeBody (unfence t) >>= ofJson := by
  simp only [readReply, h, Bool.false_eq_true, if_false]

theorem readReply_of_plain {t : Text} {c d : Char} (hhead : t.head? = some c)
    (hlast : t.getLast? = some d) (hc : IsPlain c) (hd : IsPlain d) :
    readReply (some t) = decodeBody t >>= ofJson := by
  have hblank : isBlankText t = false := by
    cases t with
    | nil => cases hhead
    | cons x rest => cases hhead; simp [isBlankText, hc.1]
  rw [readReply_of_text hblank, unfence_of_plain hhead hlast hc hd]

theorem saysNothing_or_text (reply : Option Text) :
    SaysNothing reply ∨ ∃ t, reply = some t ∧ isBlankText t = false := by
  cases reply with
  | none => exact .inl fun _ h => by cases h
  | some t =>
    cases h : isBlankText t with
    | true => exact .inl fun _ ht => by cases ht; exact h
    | false => exact .inr ⟨t, rfl, h⟩

theorem not_saysNothing {t : Text} (h : isBlankText t = false) : ¬ SaysNothing (some t) := by
  intro hnothing
  rw [hnothing t rfl] at h
  cases h

/-- A reply is accepted exactly when it says nothing or its body is an object of the schema. -/
theorem readReply_eq_ok_iff {reply : Option Text} {a : Analysis} :
    readReply reply = .ok a ↔
      (SaysNothing reply ∧ a = .empty) ∨
        ∃ t members, reply = some t ∧ isBlankText t = false ∧
          Json.decode (unfence t) = .ok (.object members) ∧ Gives members a := by
  rcases saysNothing_or_text reply with hnothing | ⟨t, rfl, hblank⟩
  · rw [readReply_of_saysNothing hnothing]
    constructor
    · intro h
      cases h
      exact .inl ⟨hnothing, rfl⟩
    · rintro (⟨_, rfl⟩ | ⟨t, _, rfl, hblank, _⟩)
      · rfl
      · exact absurd hnothing (not_saysNothing hblank)
  · rw [readReply_of_text hblank]
    simp only [bind_eq_ok_iff, decodeBody_eq_ok_iff, ofJson_eq_ok_iff]
    constructor
    · rintro ⟨_, hdecode, members, rfl, hgives⟩
      exact .inr ⟨t, members, rfl, hblank, hdecode, hgives⟩
    · rintro (⟨hnothing, _⟩ | ⟨_, members, ht, _, hdecode, hgives⟩)
      · exact absurd hnothing (not_saysNothing hblank)
      · cases ht
        exact ⟨_, hdecode, members, rfl, hgives⟩

end ScriptDiagnosis.Reply
