/-
  ScriptDiagnosis/Proofs/Text/Runs.lean
  =====================================
  Runs of characters of one class.  A reader that takes a run takes all of it, so what it leaves
  does not go on with the class (`Stops`), and conversely a run in front of such a rest is taken
  exactly (`takeWhile_append_of_stops`).  Dropping a class from the end is the same at the other
  end; trimming drops white space from both, and loses nothing else (`trim_filter`).
-/
import ScriptDiagnosis.Text.Blank

namespace ScriptDiagnosis.Text

variable {p q : Char → Bool}

/-! ### Where a run ends -/

/-- The text does not go on with the class. -/
def Stops (p : Char → Bool) (t : Text) : Prop := ∀ c, t.head? = some c → p c = false

theorem stops_nil : Stops p [] := by
  intro c h
  cases h

theorem stops_cons {c : Char} {t : Text} (h : p c = false) : Stops p (c :: t) := by
  intro d hd
  cases hd
  exact h

theorem stops_append {w : Text} (hne : w ≠ []) (h : ∀ c ∈ w, p c = false) (t : Text) :
    Stops p (w ++ t) := by
  cases w with
  | nil => exact absurd rfl hne
  | cons c w => exact stops_cons (h c (.head _))

theorem Stops.weaken {t : Text} (h : Stops p t) (hpq : ∀ c, q c = true → p c = true) :
    Stops q t := by
  intro c hc
  have hp := h c hc
  cases hq : q c with
  | false => rfl
  | true => rw [hpq c hq] at hp; cases hp

theorem stops_dropWhile (p : Char → Bool) (t : Text) : Stops p (t.dropWhile p) := by
  induction t with
  | nil => exact stops_nil
  | cons c t ih =>
    rw [List.dropWhile_cons]
    by_cases h : p c = true
    · rw [if_pos h]; exact ih
    · rw [if_neg h]; exact stops_cons (Bool.eq_false_iff.mpr h)

theorem Stops.takeWhile {t : Text} (h : Stops p t) : t.takeWhile p = [] := by
  cases t with
  | nil => rfl
  | cons c t => rw [List.takeWhile_cons_of_neg (by simp [h c rfl])]

theorem Stops.dropWhile {t : Text} (h : Stops p t) : t.dropWhile p = t := by
  cases t with
  | nil => rfl
  | cons c t => rw [List.dropWhile_cons_of_neg (by simp [h c rfl])]

theorem takeWhile_append_of_stops {w t : Text} (hw : ∀ c ∈ w, p c = true) (ht : Stops p t) :
    (w ++ t).takeWhile p = w := by
  rw [List.takeWhile_append_of_pos hw, ht.takeWhile, List.append_nil]

theorem dropWhile_append_of_stops {w t : Text} (hw : ∀ c ∈ w, p c = true) (ht : Stops p t) :
    (w ++ t).dropWhile p = t := by
  rw [List.dropWhile_append_of_pos hw, ht.dropWhile]

theorem dropWhile_of_all {t : Text} (h : ∀ c ∈ t, p c = true) : t.dropWhile p = [] := by
  have hdrop := dropWhile_append_of_stops h stops_nil
  rwa [List.append_nil] at hdrop

theorem mem_takeWhile {t : Text} : ∀ c ∈ t.takeWhile p, p c = true := by
  intro c hc
  exact List.all_eq_true.mp List.all_takeWhile c hc

/-- Where a character first stands tells a text apart into what is in front and what is behind. -/
theorem append_cons_inj {c : Char} {u v s t : Text} (hu : c ∉ u) (hv : c ∉ v)
    (h : u ++ c :: s = v ++ c :: t) : u = v ∧ s = t := by
  have hall {w : Text} (hw : c ∉ w) : ∀ d ∈ w, (d != c) = true := by
    intro d hd
    rw [bne_iff_ne]
    rintro rfl
    exact hw hd
  have hstops (r : Text) : Stops (· != c) (c :: r) := stops_cons (bne_self_eq_false c)
  have huv : u = v := by
    rw [← takeWhile_append_of_stops (hall hu) (hstops s), h,
      takeWhile_append_of_stops (hall hv) (hstops t)]
  subst huv
  exact ⟨rfl, List.tail_eq_of_cons_eq (List.append_cancel_left h)⟩

/-! ### Dropping from the end -/

theorem dropTrailing_append_of_all {w : Text} (hw : ∀ c ∈ w, p c = true) (t : Text) :
    dropTrailing p (t ++ w) = dropTrailing p t := by
  have hreverse : ∀ c ∈ w.reverse, p c = true := fun c hc => hw c (List.mem_reverse.mp hc)
  rw [dropTrailing, List.reverse_append, List.dropWhile_append_of_pos hreverse, dropTrailing]

theorem dropTrailing_append_of_none {w : Text} (hne : w ≠ []) (hw : ∀ c ∈ w, p c = false)
    (t : Text) : dropTrailing p (t ++ w) = t ++ w := by
  have hreverse : ∀ c ∈ w.reverse, p c = false := fun c hc => hw c (List.mem_reverse.mp hc)
  have hstops := stops_append (by simpa using hne) hreverse t.reverse
  rw [dropTrailing, List.reverse_append, hstops.dropWhile, ← List.reverse_append,
    List.reverse_reverse]

theorem exists_dropTrailing (p : Char → Bool) (t : Text) :
    ∃ w, (∀ c ∈ w, p c = true) ∧ t = dropTrailing p t ++ w := by
  refine ⟨(t.reverse.takeWhile p).reverse, ?_, ?_⟩
  · intro c hc
    exact mem_takeWhile c (List.mem_reverse.mp hc)
  · rw [dropTrailing, ← List.reverse_append, List.takeWhile_append_dropWhile,
      List.reverse_reverse]

theorem dropTrailing_dropTrailing (hqp : ∀ c, q c = true → p c = true) (t : Text) :
    dropTrailing p (dropTrailing q t) = dropTrailing p t := by
  obtain ⟨w, hw, ht⟩ := exists_dropTrailing q t
  conv => rhs; rw [ht]
  rw [dropTrailing_append_of_all fun c hc => hqp c (hw c hc)]

/-! ### Trimming -/

theorem isBlankText_iff {t : Text} : isBlankText t = true ↔ ∀ c ∈ t, isBlank c = true :=
  List.all_eq_true

theorem exists_trim (t : Text) :
    ∃ v w, isBlankText v = true ∧ isBlankText w = true ∧ t = v ++ trim t ++ w := by
  obtain ⟨w, hw, hdrop⟩ := exists_dropTrailing isBlank (dropLeading isBlank t)
  refine ⟨t.takeWhile isBlank, w, isBlankText_iff.mpr mem_takeWhile, isBlankText_iff.mpr hw, ?_⟩
  rw [trim, List.append_assoc, ← hdrop, dropLeading, List.takeWhile_append_dropWhile]

theorem filter_eq_nil_of_isBlankText {t : Text} (h : isBlankText t = true) :
    t.filter (fun c => !isBlank c) = [] := by
  rw [List.filter_eq_nil_iff]
  intro c hc
  simp [isBlankText_iff.mp h c hc]

/-- Trimming loses nothing but white space. -/
theorem trim_filter (t : Text) :
    (trim t).filter (fun c => !isBlank c) = t.filter fun c => !isBlank c := by
  obtain ⟨v, w, hv, hw, ht⟩ := exists_trim t
  conv => rhs; rw [ht]
  simp [filter_eq_nil_of_isBlankText hv, filter_eq_nil_of_isBlankText hw]

theorem isBlankText_iff_filter {t : Text} :
    isBlankText t = true ↔ t.filter (fun c => !isBlank c) = [] := by
  rw [isBlankText_iff, List.filter_eq_nil_iff]
  simp

theorem isBlankText_trim (t : Text) : isBlankText (trim t) = isBlankText t := by
  rw [Bool.eq_iff_iff, isBlankText_iff_filter, isBlankText_iff_filter, trim_filter]

theorem trim_of_isBlankText {t : Text} (h : isBlankText t = true) : trim t = [] := by
  rw [trim, dropLeading, dropWhile_of_all (isBlankText_iff.mp h)]
  rfl

theorem trim_isEmpty (t : Text) : (trim t).isEmpty = isBlankText t := by
  rw [Bool.eq_iff_iff, List.isEmpty_iff]
  constructor
  · intro h
    rw [← isBlankText_trim, h]
    rfl
  · exact trim_of_isBlankText

theorem trim_append_of_isBlankText {w : Text} (hw : isBlankText w = true) (t : Text) :
    trim (t ++ w) = trim t := by
  have hw := isBlankText_iff.mp hw
  rw [trim, dropLeading, List.dropWhile_append, trim, dropLeading]
  split
  · next hempty =>
    rw [List.isEmpty_iff] at hempty
    rw [hempty, dropWhile_of_all hw]
  · exact dropTrailing_append_of_all hw _

/-- White space around a text is trimmed away with it. -/
theorem trim_around {u v : Text} (hu : isBlankText u = true) (hv : isBlankText v = true)
    (t : Text) : trim (u ++ t ++ v) = trim t := by
  rw [trim_append_of_isBlankText hv, trim, dropLeading,
    List.dropWhile_append_of_pos (isBlankText_iff.mp hu), trim, dropLeading]

theorem isBlankText_append {u v : Text} (hu : isBlankText u = true) (hv : isBlankText v = true) :
    isBlankText (u ++ v) = true := by
  rw [isBlankText, List.all_append, Bool.and_eq_true]
  exact ⟨hu, hv⟩

theorem isBlankText_around {u v : Text} (hu : isBlankText u = true) (hv : isBlankText v = true)
    (t : Text) : isBlankText (u ++ t ++ v) = isBlankText t := by
  rw [isBlankText] at hu hv
  rw [isBlankText, List.all_append, List.all_append, hu, hv, Bool.true_and, Bool.and_true,
    isBlankText]

theorem trim_of_stops {t : Text} (h : Stops isBlank t) : trim t = dropTrailing isBlank t := by
  rw [trim, dropLeading, h.dropWhile]

theorem Stops.of_append {t w : Text} (h : Stops p (t ++ w)) : Stops p t := by
  intro c hc
  apply h
  rw [List.head?_append, hc, Option.some_or]

theorem stops_trim (t : Text) : Stops isBlank (trim t) := by
  obtain ⟨w, _, hdrop⟩ := exists_dropTrailing isBlank (dropLeading isBlank t)
  have hstops : Stops isBlank (dropLeading isBlank t) := stops_dropWhile isBlank t
  rw [hdrop] at hstops
  exact hstops.of_append

theorem stops_reverse_trim (t : Text) : Stops isBlank (trim t).reverse := by
  rw [trim, dropTrailing, List.reverse_reverse]
  exact stops_dropWhile isBlank _

theorem trim_of_stops_reverse {t : Text} (h : Stops isBlank t)
    (hreverse : Stops isBlank t.reverse) : trim t = t := by
  rw [trim_of_stops h, dropTrailing, hreverse.dropWhile, List.reverse_reverse]

theorem trim_trim (t : Text) : trim (trim t) = trim t :=
  trim_of_stops_reverse (stops_trim t) (stops_reverse_trim t)

end ScriptDiagnosis.Text
