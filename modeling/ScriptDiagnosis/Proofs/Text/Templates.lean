/-
  ScriptDiagnosis/Proofs/Text/Templates.lean
  ==========================================
  **A template is filled with what its fields stand for, and nothing else changes.**  A template is
  given by its parts, fixed text and fields, and written down with its braces doubled; filling it
  gives the fixed text as it was and each value as it is (`fill_written`).  The values are any texts
  at all: the induction is on what is left of the template, and a value is never part of that.
-/
import ScriptDiagnosis.Text.Template

namespace ScriptDiagnosis.Text

/-- A part of a template. -/
inductive Part
  | fixed (t : Text)
  | field (name : Text)

namespace Part

/-- The part as it stands in a template. -/
def written : Part → Text
  | fixed t => t.flatMap fun c => if isBrace c then [c, c] else [c]
  | field name => openingBrace :: (name ++ [closingBrace])

/-- The part as it stands in a filled template. -/
def shown (values : List (Text × Text)) : Part → Text
  | fixed t => t
  | field name => (values.lookup name).getD []

/-- A field has a plain name and a value. -/
inductive IsFilled (values : List (Text × Text)) : Part → Prop
  | fixed (t : Text) : IsFilled values (.fixed t)
  | field {name value : Text} (hname : name.any isBrace = false)
    (hvalue : values.lookup name = some value) : IsFilled values (.field name)

end Part

/-! ### Text without braces -/

/-- The text stands in a template as it is. -/
def IsPlain (t : Text) : Prop := (Part.fixed t).written = t

/-- A literal without braces is plain.  It is given by its characters, so that it is gone over
    without being decoded. -/
theorem IsPlain.literal {l : List Char} (h : l.any isBrace = false) :
    IsPlain (String.ofList l).toList := by
  rw [String.toList_ofList, IsPlain, Part.written]
  induction l with
  | nil => rfl
  | cons c l ih =>
    rw [List.any_cons, Bool.or_eq_false_iff] at h
    rw [List.flatMap_cons, if_neg (Bool.eq_false_iff.mp h.1), ih h.2]
    rfl

theorem written_append (s t : Text) :
    (Part.fixed (s ++ t)).written = (Part.fixed s).written ++ (Part.fixed t).written :=
  List.flatMap_append

theorem IsPlain.append {s t : Text} (hs : IsPlain s) (ht : IsPlain t) : IsPlain (s ++ t) := by
  rw [IsPlain, written_append, hs, ht]

/-! ### Filling -/

section Filling

variable {values : List (Text × Text)} {rest t : Text}

theorem fillFrom_cons {c : Char} (hc : isBrace c = false) (h : fillFrom values none rest = .ok t) :
    fillFrom values none (c :: rest) = .ok (c :: t) := by
  cases rest with
  | nil =>
    cases h
    simp [fillFrom, hc]
  | cons d rest =>
    rw [isBrace, Bool.or_eq_false_iff, decide_eq_false_iff_not, decide_eq_false_iff_not] at hc
    obtain ⟨hopening, hclosing⟩ := hc
    simp [fillFrom, hopening, hclosing, h, Except.map]

theorem fillFrom_doubled {c : Char} (hc : isBrace c = true)
    (h : fillFrom values none rest = .ok t) :
    fillFrom values none (c :: c :: rest) = .ok (c :: t) := by
  rw [isBrace, Bool.or_eq_true, decide_eq_true_eq, decide_eq_true_eq] at hc
  rcases hc with rfl | rfl
  · simp [fillFrom, h, Except.map]
  · have hne : closingBrace ≠ openingBrace := by decide
    simp [fillFrom, hne, h, Except.map]

theorem fillFrom_fixed (fixed : Text) (h : fillFrom values none rest = .ok t) :
    fillFrom values none ((Part.fixed fixed).written ++ rest) = .ok (fixed ++ t) := by
  induction fixed with
  | nil => exact h
  | cons c fixed ih =>
    rw [Part.written, List.flatMap_cons, List.append_assoc]
    cases hc : isBrace c with
    | false => exact fillFrom_cons hc ih
    | true => exact fillFrom_doubled hc ih

/-- A name is read to its end before it is looked up. -/
theorem fillFrom_name {before name value : Text} (hname : name.any isBrace = false)
    (hvalue : values.lookup (before ++ name) = some value)
    (h : fillFrom values none rest = .ok t) :
    fillFrom values (some before) (name ++ closingBrace :: rest) = .ok (value ++ t) := by
  induction name generalizing before with
  | nil =>
    rw [List.append_nil] at hvalue
    simp [fillFrom, hvalue, h, Except.map]
  | cons c name ih =>
    rw [List.any_cons, Bool.or_eq_false_iff] at hname
    have hc : c ≠ closingBrace := by
      rintro rfl
      exact absurd hname.1 (by decide)
    rw [List.cons_append, fillFrom, if_neg hc]
    apply ih hname.2
    rw [List.append_assoc]
    exact hvalue

/-- A field in braces comes out as its value, which is not looked at again. -/
theorem fillFrom_field {name value : Text} (hname : name.any isBrace = false)
    (hvalue : values.lookup name = some value) (h : fillFrom values none rest = .ok t) :
    fillFrom values none ((Part.field name).written ++ rest) = .ok (value ++ t) := by
  have hread : fillFrom values (some []) (name ++ closingBrace :: rest) = .ok (value ++ t) :=
    fillFrom_name hname hvalue h
  have hwritten : (Part.field name).written ++ rest =
      openingBrace :: (name ++ closingBrace :: rest) := by
    simp [Part.written]
  rw [hwritten, ← hread]
  -- the brace is followed by the name or by the brace that ends it, neither of which doubles it
  cases name with
  | nil =>
    have hne : closingBrace ≠ openingBrace := by decide
    simp [fillFrom, hne]
  | cons c name =>
    rw [List.any_cons, Bool.or_eq_false_iff] at hname
    have hc : c ≠ openingBrace := by
      rintro rfl
      exact absurd hname.1 (by decide)
    simp [fillFrom, hc]

end Filling

/-- Filling a template shows its parts. -/
theorem fill_written {values : List (Text × Text)} {parts : List Part}
    (h : ∀ p ∈ parts, p.IsFilled values) :
    fill (parts.flatMap Part.written) values = .ok (parts.flatMap (Part.shown values)) := by
  rw [fill]
  induction parts with
  | nil => rfl
  | cons p parts ih =>
    have hrest := ih fun q hq => h q (.tail _ hq)
    rw [List.flatMap_cons, List.flatMap_cons]
    cases h p (.head _) with
    | fixed t => exact fillFrom_fixed t hrest
    | field hname hvalue =>
      rw [Part.shown, hvalue]
      exact fillFrom_field hname hvalue hrest

end ScriptDiagnosis.Text
