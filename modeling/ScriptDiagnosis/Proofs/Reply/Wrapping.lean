/-
  ScriptDiagnosis/Proofs/Reply/Wrapping.lean
  ==========================================
  What comes off a text with its fence: the lines of the fence, and white space.  The same comes off
  whatever stands in it, as long as that is trimmed and makes no line of a fence where there was
  none (`Wrapping.unfence_wrap`).  An object never does, for it stands in braces
  (`Wrapping.unfence_wrap_object`).
-/
import ScriptDiagnosis.Proofs.Reply.Surroundings

namespace ScriptDiagnosis.Reply
open Text

/-- What may stand around a text: the lines of a fence, and white space inside of them. -/
structure Wrapping where
  opening : Text
  lead : Text
  trail : Text
  closing : Text

namespace Wrapping

def pad (w : Wrapping) (middle : Text) : Text := w.lead ++ middle ++ w.trail

def wrap (w : Wrapping) (middle : Text) : Text := w.opening ++ (w.pad middle ++ w.closing)

/-- The wrapping that unfencing takes off a text. -/
structure Wraps (w : Wrapping) (t : Text) : Prop where
  text : w.wrap (unfence t) = t
  lead : isBlankText w.lead = true
  trail : isBlankText w.trail = true
  opening : (∃ tag, (∀ c ∈ tag, isTagLetter c = true) ∧
      w.opening = ("```" : Text) ++ tag ++ ['\n']) ∨
    (w.opening = [] ∧ ¬ OpensFence t)
  closing : (∃ feed, AtMostFeed feed ∧ w.closing = ("\n```" : Text) ++ feed) ∨
    (w.closing = [] ∧ ¬ ClosesFence (w.pad (unfence t)))

theorem exists_openingLine (t : Text) :
    ∃ line, t = line ++ dropOpening t ∧
      ((∃ tag, (∀ c ∈ tag, isTagLetter c = true) ∧ line = ("```" : Text) ++ tag ++ ['\n']) ∨
        (line = [] ∧ ¬ OpensFence t)) := by
  by_cases h : OpensFence t
  · obtain ⟨tag, body, htag, rfl⟩ := h
    refine ⟨_, ?_, .inl ⟨tag, htag, rfl⟩⟩
    rw [dropOpening_fence htag]
    simp
  · exact ⟨[], (dropOpening_of_not_opens h).symm, .inr ⟨rfl, h⟩⟩

theorem exists_closingLine (t : Text) :
    ∃ line, t = dropClosing t ++ line ∧
      ((∃ feed, AtMostFeed feed ∧ line = ("\n```" : Text) ++ feed) ∨
        (line = [] ∧ ¬ ClosesFence (dropClosing t))) := by
  by_cases h : ClosesFence t
  · obtain ⟨body, feed, hfeed, rfl⟩ := h
    refine ⟨_, ?_, .inl ⟨feed, hfeed, rfl⟩⟩
    rw [dropClosing_closing hfeed, List.append_assoc]
  · have hsame := dropClosing_of_not_closes h
    refine ⟨[], ?_, .inr ⟨rfl, ?_⟩⟩
    · rw [hsame, List.append_nil]
    · rwa [hsame]

theorem exists_wraps (t : Text) : ∃ w : Wrapping, w.Wraps t := by
  obtain ⟨opening, hopening, hopens⟩ := exists_openingLine t
  obtain ⟨closing, hclosing, hcloses⟩ := exists_closingLine (dropOpening t)
  obtain ⟨lead, trail, hlead, htrail, htrim⟩ := exists_trim (dropClosing (dropOpening t))
  have hpad : lead ++ unfence t ++ trail = dropClosing (dropOpening t) := htrim.symm
  refine ⟨⟨opening, lead, trail, closing⟩, ?_, hlead, htrail, hopens, ?_⟩
  · rw [wrap, pad, hpad, ← hclosing, ← hopening]
  · rwa [pad, hpad]

variable {w : Wrapping} {t middle : Text}

/-- Something else in the same wrapping. -/
theorem unfence_wrap (h : w.Wraps t) (htrim : trim middle = middle)
    (hopens : OpensFence (w.pad middle ++ w.closing) → w.opening ≠ [])
    (hcloses : ClosesFence (w.pad middle) → w.closing ≠ []) : unfence (w.wrap middle) = middle := by
  have hopening : dropOpening (w.wrap middle) = w.pad middle ++ w.closing := by
    rw [wrap]
    rcases h.opening with ⟨tag, htag, hline⟩ | ⟨hnone, _⟩
    · rw [hline, List.append_assoc]
      exact dropOpening_fence htag _
    · rw [hnone, List.nil_append]
      exact dropOpening_of_not_opens fun hother => hopens hother hnone
  have hclosing : dropClosing (w.pad middle ++ w.closing) = w.pad middle := by
    rcases h.closing with ⟨feed, hfeed, hline⟩ | ⟨hnone, _⟩
    · rw [hline, ← List.append_assoc]
      exact dropClosing_closing hfeed _
    · rw [hnone, List.append_nil]
      exact dropClosing_of_not_closes fun hother => hcloses hother hnone
  rw [unfence, hopening, hclosing, pad, trim_around h.lead h.trail, htrim]

theorem Wraps.isInfix (h : w.Wraps t) : unfence t <:+: t := by
  refine ⟨w.opening ++ w.lead, w.trail ++ w.closing, ?_⟩
  conv => rhs; rw [← h.text]
  simp only [wrap, pad, List.append_assoc]

/-- A character that is neither white space nor part of a fence is not in the wrapping. -/
theorem Wraps.not_mem (h : w.Wraps t) {c : Char} (hc : IsPlain c) (htag : isTagLetter c = false) :
    c ∉ w.opening ∧ c ∉ w.lead ∧ c ∉ w.trail ∧ c ∉ w.closing := by
  obtain ⟨hblank, hbacktick⟩ := hc
  have hnot : ∀ {s}, isBlankText s = true → c ∉ s := by
    intro s hs hmem
    rw [isBlankText_iff.mp hs c hmem] at hblank
    cases hblank
  have hfeed : c ≠ '\n' := by
    rintro rfl
    cases hblank
  refine ⟨?_, hnot h.lead, hnot h.trail, ?_⟩
  · rcases h.opening with ⟨tag, hletters, hline⟩ | ⟨hnone, _⟩
    · have hmem : c ∉ tag := fun hmem => by
        rw [hletters c hmem] at htag
        cases htag
      have hnotLine : c ∉ ['\x60', '\x60', '\x60'] ++ tag ++ ['\n'] := by
        simp [hbacktick, hmem, hfeed]
      rwa [hline]
    · rw [hnone]
      exact List.not_mem_nil
  · rcases h.closing with ⟨feed, hat, hline⟩ | ⟨hnone, _⟩
    · have hnotLine : c ∉ ['\n', '\x60', '\x60', '\x60'] := by
        simp [hbacktick, hfeed]
      rw [hline, List.mem_append, not_or]
      exact ⟨hnotLine, hnot hat.isBlankText⟩
    · rw [hnone]
      exact List.not_mem_nil

theorem trim_braces (inner : Text) :
    trim ('\x7b' :: (inner ++ ['\x7d'])) = '\x7b' :: (inner ++ ['\x7d']) := by
  refine trim_of_stops_reverse (stops_cons (by decide)) ?_
  rw [← List.cons_append, List.reverse_append]
  exact stops_cons (by decide)

/-- Between braces there may be anything. -/
theorem unfence_wrap_object {inner : Text} (h : w.Wraps t)
    (hmiddle : middle = '\x7b' :: (inner ++ ['\x7d'])) : unfence (w.wrap middle) = middle := by
  have hvisible : ∃ between, visible (w.pad middle) = '\x7b' :: (between ++ ['\x7d']) := by
    rw [pad, visible_around h.lead h.trail, hmiddle]
    refine ⟨visible inner, ?_⟩
    rw [← List.cons_append, visible_append]
    rfl
  obtain ⟨between, hbetween⟩ := hvisible
  apply unfence_wrap h
  · rw [hmiddle, trim_braces]
  · intro hopens
    have hhead := hopens.visible_head
    rw [visible_append, hbetween] at hhead
    have hbrace : '\x7b' = '\x60' := Option.some.inj hhead
    exact absurd hbrace (by decide)
  · intro hcloses
    have hlast := hcloses.visible_last
    rw [hbetween, ← List.cons_append, List.getLast?_concat] at hlast
    have hbrace : '\x7d' = '\x60' := Option.some.inj hlast
    exact absurd hbrace (by decide)

end Wrapping

end ScriptDiagnosis.Reply
