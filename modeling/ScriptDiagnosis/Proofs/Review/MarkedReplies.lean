/-
  ScriptDiagnosis/Proofs/Review/MarkedReplies.lean
  ================================================
  **A reply with marks is read like the reply** (`readReply_marked`).  It is accepted, and the
  analysis is the same but for the halves that are alone in the rows of codes that the reply spells
  for its texts.  It is another analysis just if there is such a half
  (`Spelling.analysis_joinMarked_eq_iff`).

  The lines of a fence have nothing to mark, and no mark makes one.  So the same wrapping comes off
  the reply, and off the code inside it.
-/
import ScriptDiagnosis.Proofs.Reply.Wrapping
import ScriptDiagnosis.Proofs.Review.MarkedValues

namespace ScriptDiagnosis.Review
open Text Json Reply

/-! ### Fences -/

section

variable {s m : Text}

theorem MarkOf.isBlank_eq {c d : Char} (h : MarkOf c d) : isBlank d = isBlank c := by
  rcases h with rfl | ⟨rfl, hlow, hhigh⟩
  · rfl
  · have hplain : isBlank '\ufffd' = false := by decide
    rw [hplain, ← Bool.not_eq_true]
    intro hblank
    simp only [isBlank, Bool.or_eq_true, Bool.and_eq_true, decide_eq_true_eq] at hblank
    omega

theorem Marks.stops_isBlank (h : Marks s m) (hs : Stops isBlank s) : Stops isBlank m := by
  intro d hd
  cases h with
  | nil => cases hd
  | cons hmark _ =>
    cases hd
    rw [hmark.isBlank_eq]
    exact hs _ rfl

theorem Marks.reverse (h : Marks s m) : Marks s.reverse m.reverse := List.forall₂_reverse_iff.mpr h

theorem Marks.trim_eq (h : Marks (trim s) m) : trim m = m := by
  apply trim_of_stops_reverse
  · exact h.stops_isBlank (stops_trim s)
  · exact h.reverse.stops_isBlank (stops_reverse_trim s)

theorem lt_of_isTagLetter {c : Char} (h : isTagLetter c = true) : c.toNat < 0xe000 := by
  simp only [isTagLetter, Bool.or_eq_true, Bool.and_eq_true, decide_eq_true_eq] at h
  rcases h with ((((⟨_, hle⟩ | ⟨_, hle⟩) | h) | h) | h) | h
  · have hle : c.toNat ≤ 0x7a := hle
    omega
  · have hle : c.toNat ≤ 0x5a := hle
    omega
  all_goals omega

/-- Where marks stand there was no line of a fence, nor is there now. -/
theorem Marks.opensFence (h : Marks s m) (hm : OpensFence m) : OpensFence s := by
  obtain ⟨tag, body, htag, hbody⟩ := hm
  have htagUnmarked : Unmarked tag := fun c hc => lt_of_isTagLetter (htag c hc)
  have hbackticks : Unmarked "```" := by decide
  have hfeed : Unmarked ['\n'] := by decide
  have hline : Unmarked (("```" : Text) ++ tag ++ ['\n']) :=
    (hbackticks.append htagUnmarked).append hfeed
  have hwhole : m = ("```" : Text) ++ tag ++ ['\n'] ++ body := by
    rw [hbody, List.append_assoc _ ['\n'], List.singleton_append]
  rw [hwhole] at h
  obtain ⟨line, rest, rfl, hmarks, _⟩ := h.exists_of_append_right
  refine ⟨tag, rest, htag, ?_⟩
  rw [hmarks.eq_of_unmarked hline, List.append_assoc _ ['\n'], List.singleton_append]

theorem Marks.closesFence (h : Marks s m) (hm : ClosesFence m) : ClosesFence s := by
  obtain ⟨body, feed, hfeed, hbody⟩ := hm
  rw [hbody, List.append_assoc] at h
  obtain ⟨before, line, rfl, _, hline⟩ := h.exists_of_append_right
  have hunmarked : Unmarked (("\n```" : Text) ++ feed) := by
    rcases hfeed with rfl | rfl <;> decide
  refine ⟨before, feed, hfeed, ?_⟩
  rw [hline.eq_of_unmarked hunmarked, List.append_assoc]

/-- Unfencing takes the same off with marks as without. -/
theorem Marks.exists_wrapping (h : Marks s m) :
    ∃ w : Wrapping, s = w.wrap (unfence s) ∧ m = w.wrap (unfence m) := by
  obtain ⟨w, hw⟩ := Wrapping.exists_wraps s
  have hplain : IsPlain '\ufffd' := ⟨by decide, by decide⟩
  obtain ⟨hopening, hlead, htrail, hclosing⟩ := hw.not_mem hplain (by decide)
  rw [← hw.text] at h
  obtain ⟨behind, rfl, hbehind⟩ := h.exists_of_before hopening
  obtain ⟨padded, rfl, hpadded⟩ := hbehind.exists_of_behind hclosing
  obtain ⟨front, rfl, hfront⟩ := hpadded.exists_of_behind htrail
  obtain ⟨middle, rfl, hmiddle⟩ := hfront.exists_of_before hlead
  have hunfence : unfence (w.wrap middle) = middle := by
    apply Wrapping.unfence_wrap hw hmiddle.trim_eq
    · intro hopens hnone
      obtain ⟨tag, _, hline⟩ | ⟨_, hnot⟩ := hw.opening
      · rw [hline] at hnone
        cases hnone
      · apply hnot
        rw [← hw.text, Wrapping.wrap, hnone]
        exact hbehind.opensFence hopens
    · intro hcloses hnone
      obtain ⟨feed, _, hline⟩ | ⟨_, hnot⟩ := hw.closing
      · rw [hline] at hnone
        cases hnone
      · exact hnot (hpadded.closesFence hcloses)
  exact ⟨w, hw.text.symm, congrArg w.wrap hunfence.symm⟩

/-- So no mark is taken off, nor anything that is not the same without marks. -/
theorem Marks.unfence_eq_iff (h : Marks s m) : unfence m = unfence s ↔ m = s := by
  obtain ⟨w, hs, hm⟩ := h.exists_wrapping
  constructor
  · intro hsame
    rw [hm, hsame, ← hs]
  · rintro rfl
    rfl

end

/-! ### Replies -/

/-- The codes that a reply spells for an analysis. -/
structure Spelling where
  isPotentiallyBuggy : Bool
  suggestion : List Nat
  code : List Nat
  explanation : List Nat
  tips : Option (List Nat)

namespace Spelling

/-- The analysis, where rows of codes show in the given way. -/
def analysis (b : Spelling) (shows : List Nat → Text) : Analysis :=
  ⟨b.isPotentiallyBuggy, shows b.suggestion, unfence (shows b.code), shows b.explanation,
    b.tips.map shows⟩

def rows (b : Spelling) : List (List Nat) :=
  [b.suggestion, b.code, b.explanation] ++ b.tips.toList

end Spelling

variable {doc : Text} {ms ns : List (Text × Json)}

theorem tips_marked {tips : Option Text} (h : MarkedAs doc (.members ms) (.members ns))
    (htips : match tips with
      | none => lastOf tipsName ms = none ∨ lastOf tipsName ms = some .null
      | some t => lastOf tipsName ms = some (.string t)) :
    ∃ rows : Option (List Nat), (∀ codes ∈ rows, SpelledIn doc codes) ∧
      tips = rows.map joinCodes ∧
      match rows.map joinMarked with
      | none => lastOf tipsName ns = none ∨ lastOf tipsName ns = some .null
      | some t => lastOf tipsName ns = some (.string t) := by
  cases tips with
  | none =>
    refine ⟨none, nofun, rfl, ?_⟩
    rcases htips with hnone | hnull
    · exact .inl (lastOf_marked_of_none (by decide) h hnone)
    · exact .inr (lastOf_marked_of_atom (by decide) h hnull trivial)
  | some t =>
    obtain ⟨codes, hcodes, rfl, hmarked⟩ := lastOf_marked_of_string (by decide) h htips
    refine ⟨some codes, ?_, rfl, hmarked⟩
    intro other hother
    cases hother
    exact hcodes

/-- With marks the members give the same analysis, but for the codes of its texts. -/
theorem gives_marked {a : Analysis} (h : MarkedAs doc (.members ms) (.members ns))
    (hgives : Gives ms a) :
    ∃ b : Spelling, (∀ codes ∈ b.rows, SpelledIn doc codes) ∧ a = b.analysis joinCodes ∧
      Gives ns (b.analysis joinMarked) := by
  obtain ⟨buggy, suggestion, code, explanation, tips⟩ := a
  obtain ⟨hbuggy, hsuggestion, ⟨codeText, hcode, hcodeText⟩, hexplanation, htips⟩ := hgives
  obtain ⟨suggestion, hsuggestionIn, rfl, hsuggestionMarked⟩ :=
    lastOf_marked_of_string (by decide) h hsuggestion
  obtain ⟨code, hcodeIn, rfl, hcodeMarked⟩ := lastOf_marked_of_string (by decide) h hcode
  obtain ⟨explanation, hexplanationIn, rfl, hexplanationMarked⟩ :=
    lastOf_marked_of_string (by decide) h hexplanation
  obtain ⟨tips, htipsIn, rfl, htipsMarked⟩ := tips_marked h htips
  obtain rfl := hcodeText
  refine ⟨⟨buggy, suggestion, code, explanation, tips⟩, ?_, rfl, ?_⟩
  · intro codes hmem
    simp only [Spelling.rows, List.mem_append, List.mem_cons, List.not_mem_nil, or_false,
      Option.mem_toList] at hmem
    rcases hmem with (rfl | rfl | rfl) | hmem
    · exact hsuggestionIn
    · exact hcodeIn
    · exact hexplanationIn
    · exact htipsIn codes hmem
  · have hbuggyMarked := lastOf_marked_of_atom (by decide) h hbuggy trivial
    exact ⟨hbuggyMarked, hsuggestionMarked, ⟨_, hcodeMarked, rfl⟩, hexplanationMarked, htipsMarked⟩

/-- What unfencing leaves of a document is trimmed, so it is the value alone. -/
theorem spells_unfence {t : Text} (h : IsDocument (unfence t) (.object ms)) :
    Spells (unfence t) (.value (.object ms)) := by
  obtain ⟨sp, s, sp', hsp, hs, hsp', hbody⟩ := h
  obtain ⟨inner, hbraces⟩ := exists_braces_of_spells hs
  have hvalue : trim s = s := by
    rw [hbraces, Wrapping.trim_braces]
  have htrimmed : trim (unfence t) = unfence t := trim_trim _
  have hsame : unfence t = s := by
    rw [← htrimmed, hbody, ← List.append_assoc,
      trim_around (isBlankText_of_spaces hsp) (isBlankText_of_spaces hsp'), hvalue]
  rwa [hsame]

/-- There is nothing to mark in a wrapping. -/
theorem markHalves_of_wraps {w : Wrapping} {t m : Text} (hw : w.Wraps t)
    (h : MarksTo (unfence t) m) : markHalves false t = w.wrap m := by
  have hplain : IsPlain '\\' := ⟨by decide, by decide⟩
  obtain ⟨hopening, hlead, htrail, hclosing⟩ := hw.not_mem hplain (by decide)
  have hpad : MarksTo (w.pad (unfence t)) (w.pad m) :=
    ((marksTo_of_plain hlead).append h).append (marksTo_of_plain htrail)
  have hwrap : MarksTo (w.wrap (unfence t)) (w.wrap m) :=
    (marksTo_of_plain hopening).append (hpad.append (marksTo_of_plain hclosing))
  rw [hw.text] at hwrap
  exact hwrap.markHalves

/-- **A reply with marks is accepted like the reply.**  The two analyses are one but for the rows of
    codes that the reply spells for their texts, which have their marks in one of them. -/
theorem readReply_marked {t : Text} {a : Analysis} (h : readReply (some t) = .ok a)
    (hblank : isBlankText t = false) :
    ∃ b : Spelling, (∀ codes ∈ b.rows, SpelledIn t codes) ∧ a = b.analysis joinCodes ∧
      readReply (some (markHalves false t)) = .ok (b.analysis joinMarked) := by
  obtain ⟨hnothing, _⟩ | ⟨_, ms, ht, _, hdecode, hgives⟩ := readReply_eq_ok_iff.mp h
  · exact absurd hnothing (not_saysNothing hblank)
  cases ht
  obtain ⟨hdoc, hfits⟩ := decode_eq_ok_iff.mp hdecode
  obtain ⟨w, hw⟩ := Wrapping.exists_wraps t
  obtain ⟨m, q, htext, hm, hq⟩ := spells_marked (spells_unfence hdoc) hw.isInfix
  cases hq with
  | atom hatom => exact hatom.elim
  | @object _ ns hmembers =>
    obtain ⟨b, hspelled, ha, hgives⟩ := gives_marked hmembers hgives
    obtain ⟨inner, hbraces⟩ := exists_braces_of_spells hm
    have hbody : unfence (markHalves false t) = m := by
      rw [markHalves_of_wraps hw htext]
      exact Wrapping.unfence_wrap_object hw hbraces
    have hmarked : IsDocument (unfence (markHalves false t)) (.object ns) := by
      rw [hbody]
      exact ⟨[], m, [], spaces_nil, hm, spaces_nil, by simp⟩
    have hroom : Json.Fits maxDepth (.object ns) := (MarkedAs.object hmembers).fits maxDepth hfits
    refine ⟨b, hspelled, ha, readReply_eq_ok_iff.mpr (.inr ⟨_, ns, rfl, ?_, ?_, hgives⟩)⟩
    · exact isBlankText_of_object hmarked
    · exact decode_eq_ok_iff.mpr ⟨hmarked, hroom⟩

/-- The two analyses of a spelling are one exactly if no half is alone in a row. -/
theorem Spelling.analysis_joinMarked_eq_iff (b : Spelling) :
    b.analysis joinMarked = b.analysis joinCodes ↔ ∀ codes ∈ b.rows, ¬ HasLoneHalf false codes := by
  have hcode := (marks_joinMarked b.code).unfence_eq_iff.trans joinMarked_eq_iff
  have htips : b.tips.map joinMarked = b.tips.map joinCodes ↔
      ∀ codes ∈ b.tips.toList, ¬ HasLoneHalf false codes := by
    cases b.tips with
    | none => simp
    | some codes => simp [joinMarked_eq_iff]
  rw [analysis, analysis, Analysis.mk.injEq, joinMarked_eq_iff, hcode, joinMarked_eq_iff, htips]
  simp [rows]

end ScriptDiagnosis.Review
