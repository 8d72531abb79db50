/-
  ScriptDiagnosis/Proofs/Review/MarkedValues.lean
  ===============================================
  A text that spells a value, with marks spells the value with marks (`spells_marked`).  Outside of
  strings there is nothing to mark, and a string is marked by itself, whatever stands around it.
  The value is the same but for the codes of its strings (`MarkedAs`): it nests as deep
  (`MarkedAs.fits`), and has the same members under every name that could not hold a mark
  (`lastOf_marked`).
-/
import ScriptDiagnosis.Proofs.Json.Members
import ScriptDiagnosis.Proofs.Review.Marks

namespace ScriptDiagnosis.Review
open Text Json

/-! ### Marked parts of a text -/

/-- Marked in front of any text, one text is the other. -/
def MarksTo (t m : Text) : Prop := ∀ u, markHalves false (t ++ u) = m ++ markHalves false u

theorem MarksTo.markHalves {t m : Text} (h : MarksTo t m) : markHalves false t = m := by
  have hnil := h []
  rwa [List.append_nil, Review.markHalves, List.append_nil] at hnil

theorem MarksTo.append {t m s n : Text} (ht : MarksTo t m) (hs : MarksTo s n) :
    MarksTo (t ++ s) (m ++ n) := by
  intro u
  rw [List.append_assoc, ht, hs, List.append_assoc]

/-- Only an escape can be marked. -/
theorem marksTo_of_plain {t : Text} (h : '\\' ∉ t) : MarksTo t t := by
  intro u
  induction t with
  | nil => rfl
  | cons x rest ih =>
    rw [List.mem_cons, not_or] at h
    rw [List.cons_append, markHalves_cons (Ne.symm h.1), ih h.2]
    rfl

theorem marksTo_of_spaces {sp : Text} (h : Spaces sp) : MarksTo sp sp :=
  marksTo_of_plain fun hslash => absurd (h _ hslash) (by decide)

theorem marksTo_of_digits {ds : Text} (h : Digits ds) : MarksTo ds ds :=
  marksTo_of_plain fun hslash => absurd (h.2 _ hslash) (by decide)

theorem marksTo_minus (negative : Bool) : MarksTo (minus negative) (minus negative) :=
  marksTo_of_plain (by cases negative <;> decide)

theorem marksTo_of_fraction {t : Text} (h : t = [] ∨ IsFraction t) : MarksTo t t := by
  rcases h with rfl | ⟨ds, hds, rfl⟩
  · exact marksTo_of_plain List.not_mem_nil
  · exact (marksTo_of_plain (t := ['.']) (by decide)).append (marksTo_of_digits hds)

theorem marksTo_of_exponent {t : Text} (h : t = [] ∨ IsExponent t) : MarksTo t t := by
  rcases h with rfl | ⟨e, sign, ds, he, hsign, hds, rfl⟩
  · exact marksTo_of_plain List.not_mem_nil
  · have hletter : MarksTo [e] [e] := by
      rcases he with rfl | rfl <;> exact marksTo_of_plain (by decide)
    have hplain : MarksTo sign sign := by
      rcases hsign with rfl | rfl | rfl <;> exact marksTo_of_plain (by decide)
    exact hletter.append (hplain.append (marksTo_of_digits hds))

theorem marksTo_of_number {t : Text} {v : Json} (h : SpellsNumber t v) : MarksTo t t := by
  cases h with
  | integer negative hds => exact (marksTo_minus negative).append (marksTo_of_digits hds.digits)
  | decimal negative hds hfrac hexp _ =>
    exact (((marksTo_minus negative).append (marksTo_of_digits hds.digits)).append
      (marksTo_of_fraction hfrac)).append (marksTo_of_exponent hexp)

theorem marksTo_of_word {w : Text × Json} (h : w ∈ words) : MarksTo w.1 w.1 := by
  apply marksTo_of_plain
  simp only [words, List.mem_cons, List.not_mem_nil, or_false] at h
  rcases h with rfl | rfl | rfl | rfl | rfl | rfl <;> decide

/-! ### Values -/

/-- A string somewhere in a text spells these codes. -/
def SpelledIn (doc : Text) (codes : List Nat) : Prop :=
  ∃ inner, SpellsCodes inner codes ∧ ('\"' :: (inner ++ ['\"'])) <:+: doc

/-- A value that is no string and has no parts. -/
def IsAtom : Json → Prop
  | .string _ | .array _ | .object _ => False
  | _ => True

/-- What a text spells, and what it spells with marks: the same, but for the codes of its
    strings. -/
inductive MarkedAs (doc : Text) : Phrase → Phrase → Prop
  | atom {v : Json} (h : IsAtom v) : MarkedAs doc (.value v) (.value v)
  | string {codes : List Nat} (h : SpelledIn doc codes) :
      MarkedAs doc (.value (.string (joinCodes codes))) (.value (.string (joinMarked codes)))
  | array {vs ws : List Json} (h : MarkedAs doc (.items vs) (.items ws)) :
      MarkedAs doc (.value (.array vs)) (.value (.array ws))
  | object {ms ns : List (Text × Json)} (h : MarkedAs doc (.members ms) (.members ns)) :
      MarkedAs doc (.value (.object ms)) (.value (.object ns))
  | noItem : MarkedAs doc (.items []) (.items [])
  | item {v w : Json} {vs ws : List Json} (h : MarkedAs doc (.value v) (.value w))
      (hrest : MarkedAs doc (.items vs) (.items ws)) :
      MarkedAs doc (.items (v :: vs)) (.items (w :: ws))
  | entry {codes : List Nat} {v w : Json} (hname : SpelledIn doc codes)
      (h : MarkedAs doc (.value v) (.value w)) :
      MarkedAs doc (.entry (joinCodes codes) v) (.entry (joinMarked codes) w)
  | noMember : MarkedAs doc (.members []) (.members [])
  | member {name name' : Text} {v w : Json} {ms ns : List (Text × Json)}
      (h : MarkedAs doc (.entry name v) (.entry name' w))
      (hrest : MarkedAs doc (.members ms) (.members ns)) :
      MarkedAs doc (.members ((name, v) :: ms)) (.members ((name', w) :: ns))

theorem isAtom_of_word {w : Text × Json} (h : w ∈ words) : IsAtom w.2 := by
  simp only [words, List.mem_cons, List.not_mem_nil, or_false] at h
  rcases h with rfl | rfl | rfl | rfl | rfl | rfl <;> trivial

theorem isAtom_of_number {t : Text} {v : Json} (h : SpellsNumber t v) : IsAtom v := by
  cases h <;> trivial

section Kinds

variable {doc : Text} {q : Phrase}

theorem MarkedAs.exists_value {v : Json} (h : MarkedAs doc (.value v) q) : ∃ w, q = .value w := by
  cases h <;> exact ⟨_, rfl⟩

theorem MarkedAs.exists_items {vs : List Json} (h : MarkedAs doc (.items vs) q) :
    ∃ ws, q = .items ws := by
  cases h <;> exact ⟨_, rfl⟩

theorem MarkedAs.exists_entry {name : Text} {v : Json} (h : MarkedAs doc (.entry name v) q) :
    ∃ name' w, q = .entry name' w := by
  cases h
  exact ⟨_, _, rfl⟩

theorem MarkedAs.exists_members {ms : List (Text × Json)} (h : MarkedAs doc (.members ms) q) :
    ∃ ns, q = .members ns := by
  cases h <;> exact ⟨_, rfl⟩

end Kinds

/-- The text of a phrase, marked, spells the phrase with its marks. -/
def SpellsMarked (doc t : Text) (p : Phrase) : Prop :=
  ∃ m q, MarksTo t m ∧ Spells m q ∧ MarkedAs doc p q

theorem spellsString_marked {k s doc : Text} (h : SpellsString k s) (hdoc : k <:+: doc) :
    ∃ m codes, MarksTo k m ∧ SpellsString m (joinMarked codes) ∧ SpelledIn doc codes ∧
      s = joinCodes codes := by
  obtain ⟨inner, codes, hcodes, rfl, rfl⟩ := h
  obtain ⟨m, hm, htext⟩ := spellsCodes_marked hcodes false
  refine ⟨'\"' :: (m ++ ['\"']), codes, fun u => ?_, ⟨m, _, hm, rfl, rfl⟩,
    ⟨inner, hcodes, hdoc⟩, rfl⟩
  rw [List.cons_append, List.append_assoc, markHalves_cons (by decide), List.singleton_append,
    htext]
  simp

/-- A phrase is marked part by part: what is no string stays as it is. -/
theorem spells_marked {doc t : Text} {p : Phrase} (h : Spells t p) (hdoc : t <:+: doc) :
    SpellsMarked doc t p := by
  have hpart : ∀ before part after : Text, before ++ part ++ after <:+: doc → part <:+: doc :=
    fun before _ after hwhole => .trans ⟨before, after, rfl⟩ hwhole
  have hchar : ∀ c : Char, c ≠ '\\' → MarksTo [c] [c] := fun c hc =>
    marksTo_of_plain (by simpa using hc.symm)
  induction h with
  | word hw => exact ⟨_, _, marksTo_of_word hw, .word hw, .atom (isAtom_of_word hw)⟩
  | number hn => exact ⟨_, _, marksTo_of_number hn, .number hn, .atom (isAtom_of_number hn)⟩
  | string hs =>
    obtain ⟨m, codes, htext, hm, hcodes, rfl⟩ := spellsString_marked hs hdoc
    exact ⟨m, _, htext, .string hm, .string hcodes⟩
  | emptyArray hsp =>
    refine ⟨_, _, ?_, .emptyArray hsp, .array .noItem⟩
    exact (hchar '[' (by decide)).append ((marksTo_of_spaces hsp).append (hchar ']' (by decide)))
  | @array sp t vs hsp _ ih =>
    have hinner : t <:+: doc := hpart ('[' :: sp) t [']'] (by simpa using hdoc)
    obtain ⟨m, q, htext, hm, hq⟩ := ih hinner
    obtain ⟨ws, rfl⟩ := hq.exists_items
    refine ⟨_, _, ?_, .array hsp hm, .array hq⟩
    exact (hchar '[' (by decide)).append
      ((marksTo_of_spaces hsp).append (htext.append (hchar ']' (by decide))))
  | emptyObject hsp =>
    refine ⟨_, _, ?_, .emptyObject hsp, .object .noMember⟩
    exact (hchar '\x7b' (by decide)).append
      ((marksTo_of_spaces hsp).append (hchar '\x7d' (by decide)))
  | @object sp t ms hsp _ ih =>
    have hinner : t <:+: doc :=
      hpart ('\x7b' :: sp) t ['\x7d'] (by simpa using hdoc)
    obtain ⟨m, q, htext, hm, hq⟩ := ih hinner
    obtain ⟨ns, rfl⟩ := hq.exists_members
    refine ⟨_, _, ?_, .object hsp hm, .object hq⟩
    exact (hchar '\x7b' (by decide)).append
      ((marksTo_of_spaces hsp).append (htext.append (hchar '\x7d' (by decide))))
  | @lastItem t sp v _ hsp ih =>
    obtain ⟨m, q, htext, hm, hq⟩ := ih (hpart [] t sp hdoc)
    obtain ⟨w, rfl⟩ := hq.exists_value
    exact ⟨_, _, htext.append (marksTo_of_spaces hsp), .lastItem hm hsp, .item hq .noItem⟩
  | @item t sp sp' rest v vs _ hsp hsp' _ ih ihrest =>
    have hfirst : t <:+: doc :=
      hpart [] t (sp ++ ',' :: (sp' ++ rest)) (by simpa using hdoc)
    have hlater : rest <:+: doc :=
      hpart (t ++ sp ++ ',' :: sp') rest [] (by simpa using hdoc)
    obtain ⟨m, q, htext, hm, hq⟩ := ih hfirst
    obtain ⟨w, rfl⟩ := hq.exists_value
    obtain ⟨n, q, htexts, hn, hqs⟩ := ihrest hlater
    obtain ⟨ws, rfl⟩ := hqs.exists_items
    refine ⟨_, _, ?_, .item hm hsp hsp' hn, .item hq hqs⟩
    exact (htext.append (marksTo_of_spaces hsp)).append
      ((hchar ',' (by decide)).append ((marksTo_of_spaces hsp').append htexts))
  | @entry k t sp sp' sp'' name v hk hsp hsp' _ hsp'' ih =>
    have hname : k <:+: doc :=
      hpart [] k (sp ++ ':' :: (sp' ++ (t ++ sp''))) (by simpa using hdoc)
    have hvalue : t <:+: doc :=
      hpart (k ++ sp ++ ':' :: sp') t sp'' (by simpa using hdoc)
    obtain ⟨n, codes, hnameText, hn, hcodes, rfl⟩ := spellsString_marked hk hname
    obtain ⟨m, q, htext, hm, hq⟩ := ih hvalue
    obtain ⟨w, rfl⟩ := hq.exists_value
    refine ⟨_, _, ?_, .entry hn hsp hsp' hm hsp'', .entry hcodes hq⟩
    exact (hnameText.append (marksTo_of_spaces hsp)).append
      ((hchar ':' (by decide)).append
        ((marksTo_of_spaces hsp').append (htext.append (marksTo_of_spaces hsp''))))
  | lastMember _ ih =>
    obtain ⟨m, q, htext, hm, hq⟩ := ih hdoc
    obtain ⟨name', w, rfl⟩ := hq.exists_entry
    exact ⟨_, _, htext, .lastMember hm, .member hq .noMember⟩
  | @member t sp rest name v ms _ hsp _ ih ihrest =>
    have hfirst : t <:+: doc :=
      hpart [] t (',' :: (sp ++ rest)) (by simpa using hdoc)
    have hlater : rest <:+: doc :=
      hpart (t ++ ',' :: sp) rest [] (by simpa using hdoc)
    obtain ⟨m, q, htext, hm, hq⟩ := ih hfirst
    obtain ⟨name', w, rfl⟩ := hq.exists_entry
    obtain ⟨n, q, htexts, hn, hqs⟩ := ihrest hlater
    obtain ⟨ns, rfl⟩ := hqs.exists_members
    refine ⟨_, _, ?_, .member hm hsp hn, .member hq hqs⟩
    exact htext.append ((hchar ',' (by decide)).append ((marksTo_of_spaces hsp).append htexts))

/-! ### What is asked of a value -/

def PhraseFits (depth : Nat) : Phrase → Prop
  | .value v | .entry _ v => Json.Fits depth v
  | .items vs => FitItems depth vs
  | .members ms => FitMembers depth ms

/-- With marks a value nests as deep as without, and its integers are the same. -/
theorem MarkedAs.fits {doc : Text} {p q : Phrase} (h : MarkedAs doc p q) :
    ∀ depth, PhraseFits depth p → PhraseFits depth q := by
  induction h with
  | atom _ => exact fun _ hfits => hfits
  | string _ | noItem | noMember => exact fun _ _ => trivial
  | array _ ih | object _ ih =>
    rintro (_ | depth) hfits
    · exact hfits.elim
    · exact ih depth hfits
  | item _ _ ih ihrest => exact fun depth hfits => ⟨ih depth hfits.1, ihrest depth hfits.2⟩
  | entry _ _ ih => exact fun depth hfits => ih depth hfits
  | member _ _ ih ihrest => exact fun depth hfits => ⟨ih depth hfits.1, ihrest depth hfits.2⟩

/-- No name that is asked for has a place for a mark. -/
theorem joinCodes_eq_iff_joinMarked_eq {name : Text} (hname : Unmarked name)
    (codes : List Nat) : joinCodes codes = name ↔ joinMarked codes = name := by
  have hmarks := marks_joinMarked codes
  constructor
  · rintro rfl
    refine hmarks.eq_of_not_mem fun hmem => ?_
    exact absurd (hname _ hmem) (by decide)
  · rintro rfl
    exact hmarks.eq_of_unmarked hname

section Members

variable {doc name : Text} {ms ns : List (Text × Json)}

/-- The last member of a name is marked, or there is none with marks either. -/
theorem lastOf_marked (hname : Unmarked name) (h : MarkedAs doc (.members ms) (.members ns)) :
    (lastOf name ms = none ∧ lastOf name ns = none) ∨
      ∃ v w, lastOf name ms = some v ∧ lastOf name ns = some w ∧
        MarkedAs doc (.value v) (.value w) := by
  induction ms generalizing ns with
  | nil =>
    cases h
    exact .inl ⟨rfl, rfl⟩
  | cons m ms ih =>
    cases h with
    | member hentry hrest =>
      cases hentry with
      | @entry codes _ _ _ hvalue =>
        rw [lastOf_cons, lastOf_cons]
        rcases ih hrest with ⟨hms, hns⟩ | ⟨v, w, hms, hns, hlater⟩
        · rw [hms, hns]
          by_cases hsame : joinCodes codes = name
          · have hmarked := (joinCodes_eq_iff_joinMarked_eq hname codes).mp hsame
            exact .inr ⟨_, _, by simp [hsame], by simp [hmarked], hvalue⟩
          · have hmarked := mt (joinCodes_eq_iff_joinMarked_eq hname codes).mpr hsame
            exact .inl ⟨by simp [hsame], by simp [hmarked]⟩
        · exact .inr ⟨v, w, by rw [hms]; rfl, by rw [hns]; rfl, hlater⟩

theorem lastOf_marked_of_none (hname : Unmarked name)
    (h : MarkedAs doc (.members ms) (.members ns)) (hnone : lastOf name ms = none) :
    lastOf name ns = none := by
  rcases lastOf_marked hname h with ⟨_, hns⟩ | ⟨_, _, hms, _⟩
  · exact hns
  · rw [hnone] at hms
    cases hms

theorem lastOf_marked_of_some {v : Json} (hname : Unmarked name)
    (h : MarkedAs doc (.members ms) (.members ns)) (hv : lastOf name ms = some v) :
    ∃ w, lastOf name ns = some w ∧ MarkedAs doc (.value v) (.value w) := by
  rcases lastOf_marked hname h with ⟨hms, _⟩ | ⟨_, w, hms, hns, hvalue⟩
  · rw [hv] at hms
    cases hms
  · rw [hv] at hms
    cases hms
    exact ⟨w, hns, hvalue⟩

theorem lastOf_marked_of_atom {v : Json} (hname : Unmarked name)
    (h : MarkedAs doc (.members ms) (.members ns)) (hv : lastOf name ms = some v)
    (hatom : IsAtom v) : lastOf name ns = some v := by
  obtain ⟨w, hw, hvalue⟩ := lastOf_marked_of_some hname h hv
  cases hvalue with
  | atom _ => exact hw
  | string _ | array _ | object _ => exact hatom.elim

theorem lastOf_marked_of_string {s : Text} (hname : Unmarked name)
    (h : MarkedAs doc (.members ms) (.members ns)) (hs : lastOf name ms = some (.string s)) :
    ∃ codes, SpelledIn doc codes ∧ s = joinCodes codes ∧
      lastOf name ns = some (.string (joinMarked codes)) := by
  obtain ⟨w, hw, hvalue⟩ := lastOf_marked_of_some hname h hs
  cases hvalue with
  | atom hatom => exact hatom.elim
  | string hcodes => exact ⟨_, hcodes, rfl, hw⟩

end Members

end ScriptDiagnosis.Review
