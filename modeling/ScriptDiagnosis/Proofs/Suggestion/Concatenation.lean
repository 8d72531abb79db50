/-
  ScriptDiagnosis/Proofs/Suggestion/Concatenation.lean
  ====================================================
  **A suggestion may be split where a marker begins.**  The blocks of two texts, the second of which
  begins with a marker, are the blocks of the first and then those of the second
  (`blocks?_append`), whatever the first one ends in: a part of the word that a marker begins with,
  digits without anything behind them, or a whole marker.

  Two things could go wrong at the seam.  A marker could begin in the first text and reach into the
  second, and the label that waits at the end of the first could be given to the second.  The first
  letter of a marker's word is in no other part of a marker, which excludes the one; and a marker
  overwrites what waits, which excludes the other.  Both are seen from the cut alone: the cut of the
  whole has the sections of the first and then those of the second (`cut_append_of_opens`).
-/
import ScriptDiagnosis.Proofs.Suggestion.Composition

namespace ScriptDiagnosis.Suggestion
open Text

/-! ### The beginning of a marker -/

instance (t : Text) : Decidable (Opens t) :=
  decidable_of_iff (marker? t ≠ none) (by rw [Ne, marker?_eq_none_iff, not_not])

theorem Opens.head? {t : Text} (h : Opens t) : ∀ c, t.head? = some c → isWordStart c = true := by
  obtain ⟨m, hm, behind, rfl⟩ := h
  obtain ⟨l, i, n, e, hword, hline⟩ := hm.word
  simp only [isLineWord, Bool.and_eq_true] at hline
  obtain ⟨⟨⟨hl, _⟩, _⟩, _⟩ := hline
  intro c hc
  rw [Marker.text, hword] at hc
  cases hc
  exact hl

theorem isMarkerTail_of_isWordStart {c : Char} (h : isWordStart c = true) :
    isMarkerTail c = false := by
  simp only [isWordStart, Bool.or_eq_true, decide_eq_true_eq] at h
  rcases h with rfl | rfl
  · decide
  · decide

/-- The run at the end of a marker does not go on into a text that begins with a marker. -/
theorem Opens.stops_isMarkerTail {rest t : Text} (hrest : Stops isMarkerTail rest) (h : Opens t) :
    Stops isMarkerTail (rest ++ t) := by
  cases rest with
  | nil =>
    intro c hc
    exact isMarkerTail_of_isWordStart (h.head? c hc)
  | cons c rest => exact stops_cons (hrest c rfl)

/-! ### The cut of two texts -/

theorem preamble_of_opens {t : Text} (h : Opens t) : (cut t).preamble = [] := by
  cases hfound : marker? t with
  | none => exact absurd h (marker?_eq_none_iff.mp hfound)
  | some found => rw [cut_of_marker hfound]

/-- The pieces on both sides of the seam are those of the two texts. -/
theorem cut_append_of_opens {b : Text} (hb : Opens b) (a : Text) :
    cut (a ++ b) = ⟨(cut a).preamble, (cut a).sections ++ (cut b).sections⟩ := by
  cases hfound : marker? a with
  | some found =>
    obtain ⟨m, rest⟩ := found
    have hshorter := marker?_length hfound
    obtain ⟨hm, ha, hstops⟩ := marker?_eq_some hfound
    -- a marker in the first text ends where it ended, since the second begins with a letter
    have hwhole : marker? (a ++ b) = some (m, rest ++ b) := by
      rw [ha, List.append_assoc]
      exact marker?_append hm (hb.stops_isMarkerTail hstops)
    rw [cut_of_marker hwhole, cut_of_marker hfound, cut_append_of_opens hb rest]
    rfl
  | none =>
    have hnot := marker?_eq_none_iff.mp hfound
    cases a with
    | nil =>
      have hpreamble := preamble_of_opens hb
      rw [List.nil_append, cut_nil, List.nil_append, ← hpreamble]
    | cons x a =>
      -- a marker that begins here would have to end before the seam
      have hwhole : marker? (x :: (a ++ b)) = none := by
        apply marker?_eq_none_iff.mpr
        intro hopens
        exact hnot (opens_of_opens_append (List.cons_ne_nil x a) hb.head? hopens)
      rw [List.cons_append, cut_cons hwhole, cut_cons hfound, cut_append_of_opens hb a]
termination_by a.length

/-! ### The blocks of two texts -/

theorem blocks?_eq (t : Text) : blocks? t = some (cut t).blocks :=
  label_pieces (isCut_cut t).isWritten

theorem blocks_append_of_opens {b : Text} (hb : Opens b) (a : Text) :
    (cut (a ++ b)).blocks = (cut a).blocks ++ (cut b).blocks := by
  have hpreamble : (block? [] (cut b).preamble).toList = [] := by
    rw [preamble_of_opens hb]
    rfl
  rw [cut_append_of_opens hb, Cut.blocks, Cut.blocks, Cut.blocks, hpreamble, List.nil_append,
    List.filterMap_append, List.append_assoc]

theorem Marker.IsWritten.opens {m : Marker} (h : m.IsWritten) : Opens m.text :=
  ⟨m, h, List.prefix_rfl⟩

/-- A marker with nothing behind it makes no block. -/
theorem Marker.IsWritten.blocks_text {m : Marker} (h : m.IsWritten) : (cut m.text).blocks = [] := by
  have hfound : marker? (m.text ++ []) = some (m, []) := marker?_append h stops_nil
  rw [List.append_nil] at hfound
  rw [cut_of_marker hfound, cut_nil]
  rfl

/-- **Concatenation at a marker.**  The blocks of a text in front of a marker and of the text that
    begins with the marker are the blocks of both.  In particular a marker that the first text ends
    in is dropped, whether or not the second follows. -/
theorem blocks?_append {a b : Text} (hb : Opens b) :
    ∃ before behind, blocks? a = some before ∧ blocks? b = some behind ∧
      blocks? (a ++ b) = some (before ++ behind) ∧
      ∀ m : Marker, m.IsWritten →
        blocks? (a ++ m.text) = some before ∧
          blocks? (a ++ m.text ++ b) = some (before ++ behind) := by
  refine ⟨(cut a).blocks, (cut b).blocks, blocks?_eq a, blocks?_eq b, ?_, ?_⟩
  · rw [blocks?_eq, blocks_append_of_opens hb]
  · intro m hm
    have hdangling : (cut (a ++ m.text)).blocks = (cut a).blocks := by
      rw [blocks_append_of_opens hm.opens, hm.blocks_text, List.append_nil]
    constructor
    · rw [blocks?_eq, hdangling]
    · rw [blocks?_eq, blocks_append_of_opens hb, hdangling]

/-- The first text ends in digits with nothing behind them, and the marker behind it is in another
    case and script. -/
theorem blocks?_append_digits :
    Opens "lINE\t٣: c" ∧
    blocks? ("a line 1: b\nLine 2" ++ "lINE\t٣: c") =
      some [⟨[], "a"⟩, ⟨"Line 1", "b\nLine 2"⟩, ⟨"Line ٣", "c"⟩] ∧
    blocks? ("a line 1: b\nLine 2" ++ "Line 7 :" ++ "lINE\t٣: c") =
      some [⟨[], "a"⟩, ⟨"Line 1", "b\nLine 2"⟩, ⟨"Line ٣", "c"⟩] := by
  have hopens : Opens "lINE\t٣: c" := by decide +kernel
  have hfound : marker? "Line 7 :" = some (⟨"Line", " ", "7", " :"⟩, []) := by decide +kernel
  obtain ⟨hdangling, _, _⟩ := marker?_eq_some hfound
  obtain ⟨before, behind, hbefore, hbehind, hwhole, hdropped⟩ :=
    blocks?_append (a := "a line 1: b\nLine 2") hopens
  have hfirst : blocks? "a line 1: b\nLine 2" = some [⟨[], "a"⟩, ⟨"Line 1", "b\nLine 2"⟩] := by
    decide +kernel
  have hsecond : blocks? "lINE\t٣: c" = some [⟨"Line ٣", "c"⟩] := by
    decide +kernel
  rw [hfirst] at hbefore
  rw [hsecond] at hbehind
  cases hbefore
  cases hbehind
  exact ⟨hopens, hwhole, (hdropped _ hdangling).2⟩

end ScriptDiagnosis.Suggestion
