/-
  ScriptDiagnosis/Proofs/Reply/Fences.lean
  ========================================
  **Taking a fence off undoes one fence.**  What was put between the two lines of a fence comes back
  trimmed, whatever it is (`unfence_undoes_one_fence`).  Backticks inside it are not looked at: the
  opening line ends at the first line feed, and the closing line is found from the other end, so a
  fence at either end of the content is not taken for the outer one, and fences in fences come off
  one at a time.  A text that begins with no opening line and ends in no closing line is only
  trimmed.

  The lines are those of `OpensFence` and `ClosesFence`.  That these are exact, neither too wide nor
  too narrow, is that a text has one just if taking it off changes the text.
-/
import ScriptDiagnosis.Proofs.Reply.Surroundings

namespace ScriptDiagnosis.Reply
open Text

/-! ### Texts with a line of a fence -/

theorem OpensFence.length_dropOpening {t : Text} (h : OpensFence t) :
    (dropOpening t).length < t.length := by
  obtain ⟨tag, body, htag, rfl⟩ := h
  rw [dropOpening_fence htag]
  simp only [List.length_append, List.length_cons]
  omega

theorem ClosesFence.length_dropClosing {t : Text} (h : ClosesFence t) :
    (dropClosing t).length < t.length := by
  obtain ⟨body, w, hw, rfl⟩ := h
  have hline : ("\n```" : Text).length = 4 := rfl
  rw [dropClosing_closing hw, List.length_append, List.length_append, hline]
  omega

/-- There is an opening line just if one is taken off. -/
theorem dropOpening_eq_self_iff {t : Text} : dropOpening t = t ↔ ¬ OpensFence t := by
  constructor
  · intro hsame hopens
    have hshorter := hopens.length_dropOpening
    rw [hsame] at hshorter
    exact Nat.lt_irrefl _ hshorter
  · exact dropOpening_of_not_opens

theorem dropClosing_eq_self_iff {t : Text} : dropClosing t = t ↔ ¬ ClosesFence t := by
  constructor
  · intro hsame hcloses
    have hshorter := hcloses.length_dropClosing
    rw [hsame] at hshorter
    exact Nat.lt_irrefl _ hshorter
  · exact dropClosing_of_not_closes

instance (t : Text) : Decidable (OpensFence t) :=
  decidable_of_iff (dropOpening t ≠ t) (by rw [Ne, dropOpening_eq_self_iff, not_not])

instance (t : Text) : Decidable (ClosesFence t) :=
  decidable_of_iff (dropClosing t ≠ t) (by rw [Ne, dropClosing_eq_self_iff, not_not])

/-! ### What comes off -/

theorem unfence_of_fenced {tag : Text} (htag : ∀ c ∈ tag, isTagLetter c = true) (content : Text)
    {w : Text} (hw : AtMostFeed w) : unfence (fenced (some tag) content ++ w) = trim content := by
  have htext : fenced (some tag) content ++ w =
      ("```" : Text) ++ tag ++ '\n' :: (content ++ ("\n```" : Text) ++ w) := by
    simp only [fenced, List.append_assoc, List.cons_append]
  rw [unfence, htext, dropOpening_fence htag, dropClosing_closing hw]

/-- There is no white space around a fence. -/
theorem trim_fenced (tag content : Text) :
    trim (fenced (some tag) content) = fenced (some tag) content := by
  apply trim_of_stops_reverse
  · exact stops_cons (by decide)
  · rw [fenced, List.reverse_append, List.reverse_cons, List.reverse_append]
    exact stops_cons (by decide)

theorem unfence_of_plain_ends {t : Text} (hopens : ¬ OpensFence t) (hcloses : ¬ ClosesFence t) :
    unfence t = trim t := by
  rw [unfence, dropOpening_of_not_opens hopens, dropClosing_of_not_closes hcloses]

/-- **One fence.**  A fence with a tag of letters comes off whatever is in it, with or without a
    line feed behind it, and what is left is the content without the white space around it; a
    fence in it is left whole.  A text without an opening and without a closing line, in letters of
    either case, is only trimmed. -/
theorem unfence_undoes_one_fence :
    (∀ tag content w : Text, (∀ c ∈ tag, isAsciiLetter c = true) → AtMostFeed w →
      unfence (fenced (some tag) content ++ w) = trim content) ∧
    (∀ tag inner content w : Text, (∀ c ∈ tag, isAsciiLetter c = true) → AtMostFeed w →
      unfence (fenced (some tag) (fenced (some inner) content) ++ w) =
        fenced (some inner) content) ∧
    (∀ t : Text, ¬ OpensFence t → ¬ ClosesFence t → unfence t = trim t) := by
  have hone : ∀ tag content w : Text, (∀ c ∈ tag, isAsciiLetter c = true) → AtMostFeed w →
      unfence (fenced (some tag) content ++ w) = trim content := by
    intro tag content w htag hw
    exact unfence_of_fenced (fun c hc => isTagLetter_of_isAsciiLetter (htag c hc)) content hw
  refine ⟨hone, ?_, ?_⟩
  · intro tag inner content w htag hw
    rw [hone tag _ w htag hw, trim_fenced]
  · intro t hopens hcloses
    exact unfence_of_plain_ends hopens hcloses

/-- A content that begins with a closing line and ends in an opening one, and a text whose fence
    has a space in its opening line and one backtick too few in its closing line. -/
theorem unfence_undoes_one_fence_ragged :
    (∀ c ∈ ("Js" : Text), isAsciiLetter c = true) ∧ AtMostFeed ['\n'] ∧
    unfence (fenced (some "Js") " \n```\n```ts\n" ++ ['\n']) = ("```\n```ts" : Text) ∧
    ¬ OpensFence "``` js\nx\n``" ∧ ¬ ClosesFence "``` js\nx\n``" ∧
    unfence "``` js\nx\n``" = ("``` js\nx\n``" : Text) := by
  have htag : ∀ c ∈ ("Js" : Text), isAsciiLetter c = true := List.all_eq_true.mp (by decide)
  have hopens : ¬ OpensFence "``` js\nx\n``" := by decide
  have hcloses : ¬ ClosesFence "``` js\nx\n``" := by decide
  obtain ⟨hone, _, hplain⟩ := unfence_undoes_one_fence
  exact ⟨htag, .inr rfl, hone _ _ _ htag (.inr rfl), hopens, hcloses, hplain _ hopens hcloses⟩

end ScriptDiagnosis.Reply
