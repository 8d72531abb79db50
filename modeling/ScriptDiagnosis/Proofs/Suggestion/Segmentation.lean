/-
  ScriptDiagnosis/Proofs/Suggestion/Segmentation.lean
  ===================================================
  A suggestion is split exactly.  The cut of a text is said without the splitter: the first
  marker is the leftmost, and longest where it stands, and what is behind it is cut in the same
  way (`IsCut`).  Each text has one cut, and `cut` finds it.  The blocks are then a function of
  the pieces alone: a piece that is not blank is a block, labelled by the marker right before it
  (`Cut.blocks`).

  The walk over the pieces carries a label that waits for its content.  Nothing of it is left in
  the result, because a marker overwrites whatever waits, and content stands behind a marker
  always (`label_sections`).
-/
import ScriptDiagnosis.Proofs.Suggestion.Markers
import ScriptDiagnosis.Suggestion.Blocks

namespace ScriptDiagnosis.Suggestion
open Text

/-! ### The cut of a text -/

/-- The cut of a text at its markers.  No marker stands in what is before the first one, nor
    reaches into it from there. -/
inductive IsCut : Text → Cut → Prop
  | last {t : Text} (hnone : ∀ s, s <:+ t → ¬ Opens s) : IsCut t ⟨t, []⟩
  | marker {before rest : Text} {m : Marker} {c : Cut}
      (hleftmost : ∀ s, s <:+ before → s ≠ [] → ¬ Opens (s ++ (m.text ++ rest)))
      (hmarker : Begins m (m.text ++ rest)) (hrest : IsCut rest c) :
      IsCut (before ++ (m.text ++ rest)) ⟨before, (m, c.preamble) :: c.sections⟩

theorem IsCut.text {t : Text} {c : Cut} (h : IsCut t c) : c.text = t := by
  induction h with
  | last _ => simp [Cut.text]
  | marker _ _ _ ih =>
    rw [← ih]
    simp [Cut.text]

theorem IsCut.isWritten {t : Text} {c : Cut} (h : IsCut t c) :
    ∀ s ∈ c.sections, s.1.IsWritten := by
  induction h with
  | last _ =>
    intro s hs
    cases hs
  | marker _ hmarker _ ih =>
    intro s hs
    rcases List.mem_cons.mp hs with rfl | hs
    · exact hmarker.written
    · exact ih s hs

/-- A character that opens no marker belongs to the preamble. -/
theorem IsCut.cons {x : Char} {t : Text} {c : Cut} (hx : ¬ Opens (x :: t)) (h : IsCut t c) :
    IsCut (x :: t) ⟨x :: c.preamble, c.sections⟩ := by
  cases h with
  | last hnone =>
    refine .last fun s hs => ?_
    rcases List.suffix_cons_iff.mp hs with rfl | hs
    · exact hx
    · exact hnone s hs
  | marker hleftmost hmarker hrest =>
    refine @IsCut.marker (x :: _) _ _ _ (fun s hs hne => ?_) hmarker hrest
    rcases List.suffix_cons_iff.mp hs with rfl | hs
    · exact hx
    · exact hleftmost s hs hne

/-! ### The cut that is found -/

theorem cut_of_marker {t rest : Text} {m : Marker} (h : marker? t = some (m, rest)) :
    cut t = ⟨[], (m, (cut rest).preamble) :: (cut rest).sections⟩ := by
  rw [cut]
  split
  · next hfound => rw [h] at hfound; cases hfound; rfl
  · next hnone => rw [h] at hnone; cases hnone

theorem cut_cons {x : Char} {t : Text} (h : marker? (x :: t) = none) :
    cut (x :: t) = ⟨x :: (cut t).preamble, (cut t).sections⟩ := by
  rw [cut]
  split
  · next hfound => rw [h] at hfound; cases hfound
  · rfl

theorem cut_nil : cut [] = ⟨[], []⟩ := by
  rw [cut]
  rfl

theorem isCut_cut (t : Text) : IsCut t (cut t) := by
  cases hfound : marker? t with
  | some found =>
    obtain ⟨m, rest⟩ := found
    have hshorter := marker?_length hfound
    obtain ⟨hbegins, ht⟩ := marker?_eq_some_iff.mp hfound
    rw [cut_of_marker hfound]
    subst ht
    refine @IsCut.marker [] _ _ _ (fun s hs hne => ?_) hbegins (isCut_cut rest)
    exact absurd (List.suffix_nil.mp hs) hne
  | none =>
    have hnot := marker?_eq_none_iff.mp hfound
    cases t with
    | nil =>
      rw [cut_nil]
      refine .last fun s hs => ?_
      rw [List.suffix_nil.mp hs]
      exact hnot
    | cons x rest =>
      rw [cut_cons hfound]
      exact (isCut_cut rest).cons hnot
termination_by t.length

/-- Whatever stands before the first marker is the preamble. -/
theorem cut_before {before t : Text}
    (h : ∀ s, s <:+ before → s ≠ [] → ¬ Opens (s ++ t)) :
    cut (before ++ t) = ⟨before ++ (cut t).preamble, (cut t).sections⟩ := by
  induction before with
  | nil => rfl
  | cons x before ih =>
    have hnone : marker? (x :: before ++ t) = none :=
      marker?_eq_none_iff.mpr (h _ List.suffix_rfl (List.cons_ne_nil _ _))
    rw [List.cons_append] at hnone ⊢
    rw [cut_cons hnone, ih fun s hs => h s (hs.trans (List.suffix_cons x before)),
      List.cons_append]

theorem cut_of_none {t : Text} (h : ∀ s, s <:+ t → ¬ Opens s) : cut t = ⟨t, []⟩ := by
  have hcut : cut (t ++ []) = ⟨t ++ (cut []).preamble, (cut []).sections⟩ := by
    apply cut_before
    intro s hs _
    rw [List.append_nil]
    exact h s hs
  rwa [cut_nil, List.append_nil] at hcut

theorem cut_append {before rest : Text} {m : Marker}
    (hleftmost : ∀ s, s <:+ before → s ≠ [] → ¬ Opens (s ++ (m.text ++ rest)))
    (hmarker : Begins m (m.text ++ rest)) :
    cut (before ++ (m.text ++ rest)) =
      ⟨before, (m, (cut rest).preamble) :: (cut rest).sections⟩ := by
  rw [cut_before hleftmost, cut_of_marker (marker?_eq_some_iff.mpr ⟨hmarker, rfl⟩),
    List.append_nil]

/-- **There is only one cut of a text.** -/
theorem IsCut.eq_cut {t : Text} {c : Cut} (h : IsCut t c) : c = cut t := by
  induction h with
  | last hnone => rw [cut_of_none hnone]
  | marker hleftmost hmarker _ ih => rw [cut_append hleftmost hmarker, ← ih]

/-! ### The blocks of a cut -/

/-- The block of a piece, if it holds anything. -/
def block? (label content : Text) : Option Block :=
  if isBlankText content then none else some ⟨label, trim content⟩

/-- The blocks of a cut text: what is before the first marker has no label, and what is behind
    a marker has its label. -/
def Cut.blocks (c : Cut) : List Block :=
  (block? [] c.preamble).toList ++ c.sections.filterMap fun s => block? s.1.label s.2

theorem label_content (active : Option Text) (t : Text) (rest : List Piece) :
    label active (.content t :: rest) =
      if isBlankText t then label active rest
      else (label none rest).map (⟨active.getD [], trim t⟩ :: ·) := by
  rw [label, trim_isEmpty]

theorem label_marker (active : Option Text) {m : Marker} (h : m.IsWritten) (rest : List Piece) :
    label active (.marker m.text :: rest) = label (some m.label) rest := by
  rw [label, h.trim_isEmpty, canonicalLabel_text h]
  rfl

/-- Each content gets the label of the marker before it, and blank ones get no block. -/
theorem label_sections (active : Option Text) (sections : List (Marker × Text))
    (h : ∀ s ∈ sections, s.1.IsWritten) :
    label active (sections.flatMap fun s => [.marker s.1.text, .content s.2]) =
      some (sections.filterMap fun s => block? s.1.label s.2) := by
  induction sections generalizing active with
  | nil => rfl
  | cons s sections ih =>
    have hrest : ∀ s ∈ sections, s.1.IsWritten := fun s hs => h s (List.mem_cons_of_mem _ hs)
    rw [List.flatMap_cons, List.cons_append, List.singleton_append,
      label_marker active (h s (.head _)), label_content, ih _ hrest, ih _ hrest,
      List.filterMap_cons, block?]
    cases isBlankText s.2 <;> rfl

/-- The fold over the pieces builds the blocks of the cut. -/
theorem label_pieces {c : Cut} (h : ∀ s ∈ c.sections, s.1.IsWritten) :
    label none c.pieces = some c.blocks := by
  rw [Cut.pieces, label_content, label_sections none c.sections h, Cut.blocks, block?]
  cases isBlankText c.preamble <;> rfl

/-! ### What the blocks account for -/

theorem content_of_block? {l t : Text} {b : Block} (h : block? l t = some b) :
    b = ⟨l, trim t⟩ ∧ isBlankText b.content = false := by
  rw [block?] at h
  split at h
  · cases h
  · next hblank =>
    cases h
    exact ⟨rfl, by rw [isBlankText_trim]; exact Bool.eq_false_iff.mpr hblank⟩

theorem block?_filter (l t : Text) :
    ((block? l t).toList.flatMap Block.content).filter (fun c => !isBlank c) =
      t.filter fun c => !isBlank c := by
  rw [block?]
  split
  · next hblank => simp [isBlankText_iff_filter.mp hblank]
  · simp [trim_filter]

/-- What stands outside the markers. -/
def Cut.outside (c : Cut) : Text := c.preamble ++ c.sections.flatMap Prod.snd

/-- Blocks account for a cut text: they hold every character outside the markers that is not
    white space, once and in order; none is blank; one without a label is the first; and every
    other one is what stands behind a marker, under its label. -/
structure Accounts (c : Cut) (bs : List Block) : Prop where
  complete : (bs.flatMap Block.content).filter (fun x => !isBlank x) =
    c.outside.filter fun x => !isBlank x
  filled : ∀ b ∈ bs, isBlankText b.content = false
  unlabelled : ∀ i b, bs[i]? = some b → b.label = [] → i = 0
  labelled : ∀ b ∈ bs, b.label ≠ [] →
    ∃ s ∈ c.sections, b.label = ("Line " : Text) ++ s.1.digits ∧ b.content = trim s.2

theorem sections_filter (sections : List (Marker × Text)) :
    ((sections.filterMap fun s => block? s.1.label s.2).flatMap Block.content).filter
        (fun c => !isBlank c) =
      (sections.flatMap Prod.snd).filter fun c => !isBlank c := by
  induction sections with
  | nil => rfl
  | cons s sections ih =>
    have hhead := block?_filter s.1.label s.2
    rw [List.flatMap_cons, List.filter_append, ← hhead, ← ih, List.filterMap_cons]
    cases block? s.1.label s.2 with
    | none => rfl
    | some b => simp

theorem mem_blocks {c : Cut} {b : Block} (h : b ∈ c.blocks) :
    block? [] c.preamble = some b ∨ ∃ s ∈ c.sections, block? s.1.label s.2 = some b := by
  rcases List.mem_append.mp h with h | h
  · exact .inl (Option.mem_toList.mp h)
  · exact .inr (List.mem_filterMap.mp h)

theorem label_ne_of_block? {m : Marker} {t : Text} {b : Block}
    (h : block? m.label t = some b) : b.label ≠ [] := by
  rw [(content_of_block? h).1]
  exact List.cons_ne_nil _ _

/-- The blocks of a cut account for all of its characters but blanks and markers. -/
theorem blocks_accounts (c : Cut) : Accounts c c.blocks where
  complete := by
    rw [Cut.blocks, List.flatMap_append, List.filter_append, block?_filter, sections_filter,
      Cut.outside, List.filter_append]
  filled := by
    intro b hb
    rcases mem_blocks hb with h | ⟨s, _, h⟩
    · exact (content_of_block? h).2
    · exact (content_of_block? h).2
  unlabelled := by
    intro i b hb hlabel
    -- a block of a section has the label of its marker, which is not empty
    have hsection : b ∉ c.sections.filterMap fun s => block? s.1.label s.2 := by
      intro hmem
      obtain ⟨s, _, hs⟩ := List.mem_filterMap.mp hmem
      exact label_ne_of_block? hs hlabel
    rw [Cut.blocks] at hb
    -- so only the preamble can have given an unlabelled one, and it comes first
    cases hpreamble : block? [] c.preamble with
    | none =>
      rw [hpreamble] at hb
      exact absurd (List.mem_of_getElem? hb) hsection
    | some first =>
      rw [hpreamble] at hb
      cases i with
      | zero => rfl
      | succ i =>
        rw [Option.toList_some, List.singleton_append, List.getElem?_cons_succ] at hb
        exact absurd (List.mem_of_getElem? hb) hsection
  labelled := by
    intro b hb hlabel
    rcases mem_blocks hb with h | ⟨s, hs, h⟩
    · rw [(content_of_block? h).1] at hlabel
      exact absurd rfl hlabel
    · rw [(content_of_block? h).1]
      exact ⟨s, hs, rfl, rfl⟩

/-- **Exact segmentation.**  Every text has one cut at its markers, whose pieces concatenate
    back to it, and its blocks are those of the cut: there is always a result, and it accounts
    for all that stands outside the markers. -/
theorem blocks?_eq_blocks_of_cut (t : Text) :
    ∃ c, IsCut t c ∧ (∀ c', IsCut t c' → c' = c) ∧ c.text = t ∧
      blocks? t = some c.blocks ∧ Accounts c c.blocks := by
  have hcut := isCut_cut t
  refine ⟨cut t, hcut, fun _ => IsCut.eq_cut, hcut.text, ?_, blocks_accounts _⟩
  exact label_pieces hcut.isWritten

/-- Of two markers in a row the last counts, a word may end in one, and digits are kept. -/
example : blocks? "inline 7:: line\t٣ :a LINE 4\n b" =
    some [⟨[], "in"⟩, ⟨"Line ٣", "a"⟩, ⟨"Line 4", "b"⟩] := by
  decide +kernel

end ScriptDiagnosis.Suggestion
