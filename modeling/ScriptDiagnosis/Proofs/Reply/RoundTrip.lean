/-
  ScriptDiagnosis/Proofs/Reply/RoundTrip.lean
  ===========================================
  **A written analysis is read back.**  Its fields may stand anywhere among fields of other names,
  tips that there are none of may be null or left out, the text may be written in any layout and
  come in a fence; what is read is the analysis, and only its code has lost a fence of its own
  (`readReply_writes`).  No character inside a text is touched on the way, whatever it is: the
  fence of the reply is taken off at its ends, where an object has its braces, and the strings
  are spelled.
-/
import ScriptDiagnosis.Proofs.Json.Members
import ScriptDiagnosis.Proofs.Json.Writing
import ScriptDiagnosis.Proofs.Reply.Acceptance
import Mathlib.Data.List.Nodup

namespace ScriptDiagnosis.Reply
open Text Json

/-! ### Fences -/

def isAsciiLetter (c : Char) : Bool := ('a' ≤ c && c ≤ 'z') || ('A' ≤ c && c ≤ 'Z')

/-- The text in a fence with this tag, or without a fence. -/
def fenced : Option Text → Text → Text
  | none, t => t
  | some tag, t => ("```" : Text) ++ tag ++ '\n' :: (t ++ "\n```")

theorem isTagLetter_of_isAsciiLetter {c : Char} (h : isAsciiLetter c = true) :
    isTagLetter c = true := by
  simp only [isAsciiLetter, Bool.or_eq_true] at h
  simp only [isTagLetter, Bool.or_eq_true]
  exact .inl (.inl (.inl (.inl h)))

theorem dropOpening_fence {tag : Text} (htag : ∀ c ∈ tag, isTagLetter c = true) (body : Text) :
    dropOpening (("```" : Text) ++ tag ++ '\n' :: body) = body := by
  have hdrop := dropWhile_append_of_stops (t := '\n' :: body) htag (stops_cons (by decide))
  show dropOpening ('\x60' :: '\x60' :: '\x60' :: (tag ++ '\n' :: body)) = body
  rw [dropOpening, hdrop]
  rfl

theorem dropClosing_fence (t : Text) : dropClosing (t ++ ("\n```" : Text)) = t := by
  have hreverse : (t ++ ("\n```" : Text)).reverse =
      '\x60' :: '\x60' :: '\x60' :: '\n' :: t.reverse := by
    rw [List.reverse_append]
    rfl
  rw [dropClosing, hreverse]
  exact List.reverse_reverse t

/-- What is in braces comes out of a fence as it was. -/
theorem unfence_fenced {fence : Option Text}
    (hfence : ∀ tag, fence = some tag → ∀ c ∈ tag, isAsciiLetter c = true) (inner : Text) :
    unfence (fenced fence ('\x7b' :: (inner ++ ['\x7d']))) = '\x7b' :: (inner ++ ['\x7d']) := by
  cases fence with
  | none =>
    refine unfence_of_plain (c := '\x7b') (d := '\x7d') rfl ?_ ⟨by decide, by decide⟩
      ⟨by decide, by decide⟩
    rw [fenced, List.getLast?_cons, List.getLast?_append]
    rfl
  | some tag =>
    have htag : ∀ c ∈ tag, isTagLetter c = true := fun c hc =>
      isTagLetter_of_isAsciiLetter (hfence tag rfl c hc)
    rw [unfence, fenced, dropOpening_fence htag, dropClosing_fence]
    refine trim_of_stops_reverse (stops_cons (by decide)) ?_
    rw [List.reverse_cons, List.reverse_append]
    exact stops_cons (by decide)

/-! ### The fields of an analysis -/

/-- The tips of an analysis as a field.  Without tips it may be there as null. -/
def tipsField (nullTips : Bool) : Option Text → List (Text × Json)
  | some t => [(tipsName, .string t)]
  | none => if nullTips then [(tipsName, .null)] else []

def fields (nullTips : Bool) (a : Analysis) : List (Text × Json) :=
  (buggyName, .bool a.isPotentiallyBuggy) :: (suggestionName, .string a.suggestionText) ::
    (codeName, .string a.fixedCode) :: (explanationName, .string a.explanation) ::
    tipsField nullTips a.performanceTips

variable {nullTips : Bool} {a : Analysis}

/-- The fields are those of the schema. -/
theorem name_mem_of_mem_fields {m : Text × Json} (h : m ∈ fields nullTips a) :
    m.1 ∈ memberNames := by
  have htips : ∀ tips, m ∈ tipsField nullTips tips → m.1 = tipsName := by
    intro tips hm
    cases tips <;> cases nullTips <;> simp_all [tipsField]
  simp only [fields, List.mem_cons] at h
  simp only [memberNames, List.mem_cons]
  rcases h with rfl | rfl | rfl | rfl | h
  · exact .inl rfl
  · exact .inr (.inl rfl)
  · exact .inr (.inr (.inl rfl))
  · exact .inr (.inr (.inr (.inl rfl)))
  · exact .inr (.inr (.inr (.inr (.inl (htips _ h)))))

theorem field_cases {P : Json → Prop} (hbool : ∀ b, P (.bool b)) (hstring : ∀ t, P (.string t))
    (hnull : P .null) {m : Text × Json} (h : m ∈ fields nullTips a) : P m.2 := by
  have htips : ∀ tips, m ∈ tipsField nullTips tips → P m.2 := by
    intro tips hm
    cases tips <;> cases nullTips <;> simp_all [tipsField]
  simp only [fields, List.mem_cons] at h
  rcases h with rfl | rfl | rfl | rfl | h
  · exact hbool _
  · exact hstring _
  · exact hstring _
  · exact hstring _
  · exact htips _ h

theorem fields_nodup : ((fields nullTips a).map Prod.fst).Nodup := by
  have htips : (tipsField nullTips a.performanceTips).map Prod.fst = [tipsName] ∨
      (tipsField nullTips a.performanceTips).map Prod.fst = [] := by
    cases a.performanceTips <;> cases nullTips <;> simp [tipsField]
  simp only [fields, List.map_cons]
  rcases htips with h | h
  · rw [h]; decide
  · rw [h]; decide

/-! ### Fields among others -/

section Among

variable {extras members : List (Text × Json)}

theorem mem_members_iff (hextras : ∀ e ∈ extras, e.1 ∉ memberNames)
    (hmembers : members.Perm (fields nullTips a ++ extras)) {name : Text} {v : Json}
    (hname : name ∈ memberNames) : (name, v) ∈ members ↔ (name, v) ∈ fields nullTips a := by
  rw [hmembers.mem_iff, List.mem_append]
  refine ⟨?_, .inl⟩
  rintro (h | h)
  · exact h
  · exact absurd hname (hextras _ h)

theorem lastOf_field (hextras : ∀ e ∈ extras, e.1 ∉ memberNames)
    (hmembers : members.Perm (fields nullTips a ++ extras)) {name : Text} {v : Json}
    (h : (name, v) ∈ fields nullTips a) : lastOf name members = some v := by
  have hname : name ∈ memberNames := name_mem_of_mem_fields h
  refine lastOf_eq_some_of_unique ((mem_members_iff hextras hmembers hname).mpr h) fun w hw => ?_
  have hw := (mem_members_iff hextras hmembers hname).mp hw
  have heq := List.inj_on_of_nodup_map fields_nodup hw h rfl
  exact (Prod.mk.inj heq).2

/-- The fields give the analysis back, with the fence of its code taken off. -/
theorem gives_of_fields (hextras : ∀ e ∈ extras, e.1 ∉ memberNames)
    (hmembers : members.Perm (fields nullTips a ++ extras)) :
    Gives members { a with fixedCode := unfence a.fixedCode } := by
  have hlast : ∀ {name v}, (name, v) ∈ fields nullTips a → lastOf name members = some v :=
    lastOf_field hextras hmembers
  refine ⟨hlast (by simp [fields]), hlast (by simp [fields]),
    ⟨a.fixedCode, hlast (by simp [fields]), rfl⟩, hlast (by simp [fields]), ?_⟩
  dsimp only
  split
  · next htips =>
    cases nullTips with
    | true => exact .inr (hlast (by simp [fields, tipsField, htips]))
    | false =>
      refine .inl (lastOf_eq_none_iff.mpr ?_)
      -- absent tips are absent among the members, too
      rintro ⟨name, v⟩ hm rfl
      have hm := (mem_members_iff hextras hmembers (by simp [memberNames])).mp hm
      simp only [fields, tipsField, htips, List.mem_cons, Prod.mk.injEq] at hm
      rcases hm with ⟨h, _⟩ | ⟨h, _⟩ | ⟨h, _⟩ | ⟨h, _⟩ | hm
      · exact absurd h (by decide)
      · exact absurd h (by decide)
      · exact absurd h (by decide)
      · exact absurd h (by decide)
      · cases hm
  · next t htips => exact hlast (by simp [fields, tipsField, htips])

theorem fits_of_fields (hfits : ∀ e ∈ extras, Fits (maxDepth - 1) e.2)
    (hmembers : members.Perm (fields nullTips a ++ extras)) :
    Fits maxDepth (.object members) := by
  show FitMembers (maxDepth - 1) members
  rw [fitMembers_iff]
  intro m hm
  rcases List.mem_append.mp (hmembers.mem_iff.mp hm) with h | h
  · exact field_cases (fun _ => trivial) (fun _ => trivial) trivial h
  · exact hfits m h

theorem writable_of_fields (hwritable : ∀ e ∈ extras, Writable e.2)
    (hmembers : members.Perm (fields nullTips a ++ extras)) : Writable (.object members) := by
  refine .object fun m hm => ?_
  rcases List.mem_append.mp (hmembers.mem_iff.mp hm) with h | h
  · exact field_cases .bool .string .null h
  · exact hwritable m h

end Among

/-! ### Whole replies -/

/-- However the object is spelled and whether or not it is fenced, its fields are read back. -/
theorem readReply_fenced {members : List (Text × Json)} {fence : Option Text} {t : Text}
    (hfence : ∀ tag, fence = some tag → ∀ c ∈ tag, isAsciiLetter c = true)
    (ht : Spells t (.value (.object members))) (hfits : Fits maxDepth (.object members))
    (hgives : Gives members a) : readReply (some (fenced fence t)) = .ok a := by
  obtain ⟨inner, rfl⟩ := exists_braces_of_spells ht
  have hbody := unfence_fenced hfence inner
  have hdoc : IsDocument (unfence (fenced fence ('\x7b' :: (inner ++ ['\x7d']))))
      (.object members) := by
    rw [hbody]
    exact ⟨[], _, [], spaces_nil, ht, spaces_nil, (List.append_nil _).symm⟩
  refine readReply_eq_ok_iff.mpr (.inr ⟨_, members, rfl, isBlankText_of_object hdoc, ?_, hgives⟩)
  exact decode_eq_ok_iff.mpr ⟨hdoc, hfits⟩

/-- An analysis is read back from its fields, among others of other names and in any order,
    written in any layout, or spelled in any other way, and fenced or not. -/
theorem readReply_writes {nullTips : Bool} {a : Analysis} {extras members : List (Text × Json)}
    {fence : Option Text} (hextras : ∀ e ∈ extras, e.1 ∉ memberNames)
    (hfits : ∀ e ∈ extras, Fits (maxDepth - 1) e.2)
    (hmembers : members.Perm (fields nullTips a ++ extras))
    (hfence : ∀ tag, fence = some tag → ∀ c ∈ tag, isAsciiLetter c = true) :
    (∀ (l : Layout) (asciiOnly : Bool), (∀ e ∈ extras, Writable e.2) →
      readReply (some (fenced fence (l.write asciiOnly 0 (.object members)))) =
        .ok { a with fixedCode := unfence a.fixedCode }) ∧
    ∀ t, Spells t (.value (.object members)) →
      readReply (some (fenced fence t)) = .ok { a with fixedCode := unfence a.fixedCode } := by
  have hgives := gives_of_fields hextras hmembers
  have hall := fits_of_fields hfits hmembers
  refine ⟨fun l asciiOnly hwritable => ?_, fun t ht => readReply_fenced hfence ht hall hgives⟩
  exact readReply_fenced hfence ((writable_of_fields hwritable hmembers).spells 0) hall hgives

/-- Quotes, backslashes, backticks, a control character, a character beyond sixteen bits, and code
    in a fence. -/
def quoted : Analysis :=
  ⟨true, "\"a\\b\" ```\n\x01😀", "```js\nf();\n```", "\x7b\"fixedCode\": 1\x7d", none⟩

def rating : List (Text × Json) := [("rating", .array [.integer (-3), .decimal "1e5", .object []])]

theorem readReply_writes_quoted :
    (∀ e ∈ rating, e.1 ∉ memberNames) ∧ (∀ e ∈ rating, Fits (maxDepth - 1) e.2) ∧
    (rating ++ fields true quoted).Perm (fields true quoted ++ rating) ∧
    readReply (some (fenced (some "json")
      (Layout.compact.write true 0 (.object (rating ++ fields true quoted))))) =
      .ok { quoted with fixedCode := "f();" } := by
  have hextras : ∀ e ∈ rating, e.1 ∉ memberNames := by decide
  have hfits : ∀ e ∈ rating, Fits (maxDepth - 1) e.2 := by
    intro e he
    cases List.mem_singleton.mp he
    have hthree : 3 < 10 ^ maxDigits :=
      Nat.lt_of_lt_of_le (show 3 < 10 ^ 1 by decide) (Nat.pow_le_pow_right (by decide) (by decide))
    exact ⟨hthree, trivial, trivial, trivial⟩
  have hwritable : ∀ e ∈ rating, Writable e.2 := by
    intro e he
    cases List.mem_singleton.mp he
    have hdigit : ∀ c, isDecimalDigit c = true → Digits [c] := fun c hc =>
      ⟨nofun, List.forall_mem_singleton.mpr hc⟩
    have hone : IsWhole ['1'] := .inr ⟨hdigit '1' (by decide), by decide⟩
    have hfive : IsExponent ['e', '5'] :=
      ⟨'e', [], ['5'], .inl rfl, .inl rfl, hdigit '5' (by decide), rfl⟩
    have hdecimal : SpellsNumber ("1e5" : Text) (.decimal "1e5") :=
      .decimal false hone (.inl rfl) (.inr hfive) (.inr (by decide))
    refine .array fun v hv => ?_
    simp only [List.mem_cons, List.not_mem_nil, or_false] at hv
    rcases hv with rfl | rfl | rfl
    · exact .integer _
    · exact .decimal (.inl hdecimal)
    · exact .object nofun
  have hperm : (rating ++ fields true quoted).Perm (fields true quoted ++ rating) :=
    List.perm_append_comm
  have hfence : ∀ tag, some ("json" : Text) = some tag → ∀ c ∈ tag, isAsciiLetter c = true := by
    intro tag htag
    cases htag
    exact List.all_eq_true.mp (by decide)
  have hcode : unfence quoted.fixedCode = "f();" := by decide
  refine ⟨hextras, hfits, hperm, ?_⟩
  rw [← hcode]
  exact (readReply_writes hextras hfits hperm hfence).1 .compact true hwritable

end ScriptDiagnosis.Reply
