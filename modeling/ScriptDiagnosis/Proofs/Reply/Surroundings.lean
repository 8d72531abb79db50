/-
  ScriptDiagnosis/Proofs/Reply/Surroundings.lean
  ==============================================
  **White space around a reply** is no part of what it says, with one exception: the lines of a
  fence are looked for at the very ends of the text, before anything is trimmed.  White space
  before the opening line hides that line, and so does white space behind the closing line, except
  that one line feed may stand there.  A reply that was read is read to the same analysis with
  white space around it exactly when no line of its fence is hidden, and is otherwise refused as
  no JSON (`surrounded_reply_read_iff`).  A blank reply and a bare one have no such lines.

  What stays the same through all trimming is what is visible of the text.  An object is visible
  between its braces, so a fence line that is left on at an end shows as a backtick there.
-/
import ScriptDiagnosis.Proofs.Json.Refusals
import ScriptDiagnosis.Proofs.Reply.RoundTrip

namespace ScriptDiagnosis.Reply
open Text Json

/-! ### What is visible of a text -/

def visible (t : Text) : Text := t.filter fun c => !isBlank c

variable {t u v w body : Text}

theorem visible_append (t w : Text) : visible (t ++ w) = visible t ++ visible w :=
  List.filter_append t w

theorem visible_of_isBlankText (h : isBlankText t = true) : visible t = [] :=
  filter_eq_nil_of_isBlankText h

theorem visible_around (hu : isBlankText u = true) (hv : isBlankText v = true) (t : Text) :
    visible (u ++ t ++ v) = visible t := by
  rw [visible_append, visible_append, visible_of_isBlankText hu, visible_of_isBlankText hv,
    List.nil_append, List.append_nil]

theorem visible_trim (t : Text) : visible (trim t) = visible t := trim_filter t

theorem prefix_visible (h : t <+: w) : visible t <+: visible w := h.filter _

/-- A trimmed text begins with what is visible first. -/
theorem head?_trim (t : Text) : (trim t).head? = (visible t).head? := by
  rw [← visible_trim]
  have hstops := stops_trim t
  cases htrim : trim t with
  | nil => rfl
  | cons c rest =>
    rw [htrim] at hstops
    have hc : isBlank c = false := hstops c rfl
    rw [visible, List.filter_cons_of_pos (by simp [hc])]
    rfl

/-! ### The lines of a fence -/

/-- The first line of the text is the opening line of a fence. -/
def OpensFence (t : Text) : Prop :=
  ∃ tag body, (∀ c ∈ tag, isTagLetter c = true) ∧ t = ("```" : Text) ++ tag ++ '\n' :: body

/-- What may stand behind the closing line. -/
def AtMostFeed (w : Text) : Prop := w = [] ∨ w = ['\n']

/-- The last line of the text is the closing line of a fence. -/
def ClosesFence (t : Text) : Prop :=
  ∃ body w, AtMostFeed w ∧ t = body ++ ("\n```" : Text) ++ w

theorem AtMostFeed.isBlankText (h : AtMostFeed w) : isBlankText w = true := by
  rcases h with rfl | rfl <;> decide

/-- What opens no fence keeps its first line. -/
theorem dropOpening_of_not_opens (h : ¬ OpensFence t) : dropOpening t = t := by
  rw [dropOpening.eq_def]
  split
  · next rest =>
    split
    · next body heq =>
      refine absurd ⟨rest.takeWhile isTagLetter, body, mem_takeWhile, ?_⟩ h
      have hrest := List.takeWhile_append_dropWhile (p := isTagLetter) (l := rest)
      rw [heq] at hrest
      show ("```" : Text) ++ rest = _
      rw [List.append_assoc, hrest]
    · rfl
  · rfl

theorem dropClosing_closing (h : AtMostFeed w) (body : Text) :
    dropClosing (body ++ ("\n```" : Text) ++ w) = body := by
  rcases h with rfl | rfl
  · rw [List.append_nil]
    exact dropClosing_fence body
  · have hreverse : (body ++ ("\n```" : Text) ++ ['\n']).reverse =
        '\n' :: '\x60' :: '\x60' :: '\x60' :: '\n' :: body.reverse := by
      rw [List.reverse_append, List.reverse_append]
      rfl
    rw [dropClosing, hreverse]
    exact List.reverse_reverse body

/-- What closes none keeps its last. -/
theorem dropClosing_of_not_closes (h : ¬ ClosesFence t) : dropClosing t = t := by
  rw [dropClosing]
  split
  · next body heq =>
    refine absurd ⟨body.reverse, [], .inl rfl, ?_⟩ h
    rw [List.append_nil, ← List.reverse_reverse t, heq]
    simp
  · next body heq =>
    refine absurd ⟨body.reverse, ['\n'], .inr rfl, ?_⟩ h
    rw [← List.reverse_reverse t, heq]
    simp
  · rfl

theorem OpensFence.visible_head (h : OpensFence t) : (visible t).head? = some '\x60' := by
  obtain ⟨tag, body, _, rfl⟩ := h
  rfl

theorem ClosesFence.visible_last (h : ClosesFence t) : (visible t).getLast? = some '\x60' := by
  obtain ⟨body, w, hw, rfl⟩ := h
  rw [visible_append, visible_of_isBlankText hw.isBlankText, List.append_nil, visible_append,
    List.getLast?_append]
  rfl

theorem not_opensFence_of_blank (hu : isBlankText u = true) (hne : u ≠ []) (t : Text) :
    ¬ OpensFence (u ++ t) := by
  obtain ⟨c, rest, rfl⟩ := List.exists_cons_of_ne_nil hne
  rintro ⟨tag, body, _, heq⟩
  have hc : c = '\x60' := List.head_eq_of_cons_eq heq
  have hblank := isBlankText_iff.mp hu c (.head _)
  rw [hc] at hblank
  exact absurd hblank (by decide)

/-- White space behind a closing line is determined by the text. -/
theorem behind_closing {a b : Text} (hw : isBlankText w = true) (hv : isBlankText v = true)
    (h : a ++ ("\n```" : Text) ++ w = b ++ ("\n```" : Text) ++ v) : w = v := by
  have hrun : ∀ {a w : Text}, isBlankText w = true →
      (a ++ ("\n```" : Text) ++ w).reverse.takeWhile isBlank = w.reverse := by
    intro a w hw
    rw [List.reverse_append, List.reverse_append]
    apply takeWhile_append_of_stops
    · intro c hc
      exact isBlankText_iff.mp hw c (List.mem_reverse.mp hc)
    · exact stops_cons (by decide)
  have hreverse : w.reverse = v.reverse := by rw [← hrun hw, h, hrun hv]
  exact List.reverse_injective hreverse

/-! ### Fences with white space around them -/

/-- White space around the text that hides no line of its fence. -/
structure KeepsFence (u t v : Text) : Prop where
  opening : OpensFence t → u = []
  closing : ∀ body w, t = body ++ ("\n```" : Text) ++ w → AtMostFeed w → AtMostFeed (w ++ v)

/-! ### The body of an accepted reply -/

section Accepted

variable {members : List (Text × Json)}

theorem isBlankText_of_spaces {sp : Text} (h : Spaces sp) : isBlankText sp = true := by
  rw [isBlankText_iff]
  intro c hc
  have hspace := h c hc
  simp only [isSpace, Bool.or_eq_true, decide_eq_true_eq] at hspace
  rcases hspace with ((rfl | rfl) | rfl) | rfl <;> rfl

theorem visible_of_isDocument (hdoc : IsDocument body (.object members)) :
    ∃ inner, visible body = '\x7b' :: (inner ++ ['\x7d']) := by
  obtain ⟨sp, s, sp', hsp, hs, hsp', rfl⟩ := hdoc
  obtain ⟨inner, rfl⟩ := exists_braces_of_spells hs
  rw [← List.append_assoc, visible_around (isBlankText_of_spaces hsp) (isBlankText_of_spaces hsp')]
  refine ⟨visible inner, ?_⟩
  rw [← List.cons_append, visible_append]
  rfl

/-- What is left between the lines of the fence, before it is trimmed. -/
theorem visible_between (hdoc : IsDocument (unfence t) (.object members)) :
    ∃ inner, visible (dropClosing (dropOpening t)) = '\x7b' :: (inner ++ ['\x7d']) := by
  rw [← visible_trim]
  exact visible_of_isDocument hdoc

theorem visible_head_dropOpening (hdoc : IsDocument (unfence t) (.object members)) :
    (visible (dropOpening t)).head? = some '\x7b' := by
  obtain ⟨inner, hinner⟩ := visible_between hdoc
  obtain ⟨more, hmore⟩ := prefix_visible (prefix_dropClosing (dropOpening t))
  rw [← hmore, hinner]
  rfl

theorem visible_last_dropClosing (hdoc : IsDocument (unfence t) (.object members)) :
    (visible (dropClosing (dropOpening t))).getLast? = some '\x7d' := by
  obtain ⟨inner, hinner⟩ := visible_between hdoc
  rw [hinner, ← List.cons_append, List.getLast?_concat]

/-- Taking the opening line off, with white space around the text. -/
theorem dropOpening_around (hdoc : IsDocument (unfence t) (.object members))
    (hu : isBlankText u = true) (hv : isBlankText v = true) (h : OpensFence t → u = []) :
    ∃ u', isBlankText u' = true ∧ dropOpening (u ++ t ++ v) = u' ++ dropOpening t ++ v := by
  by_cases hopens : OpensFence t
  · obtain rfl := h hopens
    obtain ⟨tag, body, htag, rfl⟩ := hopens
    refine ⟨[], rfl, ?_⟩
    rw [dropOpening_fence htag, List.nil_append, List.nil_append, List.append_assoc,
      List.cons_append, dropOpening_fence htag]
  · have hbrace := visible_head_dropOpening hdoc
    rw [dropOpening_of_not_opens hopens] at hbrace ⊢
    have hnot : ¬ OpensFence (u ++ t ++ v) := by
      intro hother
      have hbacktick := hother.visible_head
      rw [visible_around hu hv t, hbrace] at hbacktick
      exact absurd hbacktick (by decide)
    exact ⟨u, hu, dropOpening_of_not_opens hnot⟩

/-- Taking the closing line off as well. -/
theorem dropClosing_around (hdoc : IsDocument (unfence t) (.object members))
    (hu : isBlankText u = true) (hv : isBlankText v = true)
    (h : ∀ body w, dropOpening t = body ++ ("\n```" : Text) ++ w → AtMostFeed w →
      AtMostFeed (w ++ v)) :
    ∃ v', isBlankText v' = true ∧
      dropClosing (u ++ dropOpening t ++ v) = u ++ dropClosing (dropOpening t) ++ v' := by
  by_cases hcloses : ClosesFence (dropOpening t)
  · obtain ⟨body, w, hw, hbody⟩ := hcloses
    refine ⟨[], rfl, ?_⟩
    have hkept := dropClosing_closing (h body w hbody hw) (u ++ body)
    rw [hbody, dropClosing_closing hw, List.append_nil, ← hkept]
    simp only [List.append_assoc]
  · have hbrace := visible_last_dropClosing hdoc
    rw [dropClosing_of_not_closes hcloses] at hbrace ⊢
    have hnot : ¬ ClosesFence (u ++ dropOpening t ++ v) := by
      intro hother
      have hbacktick := hother.visible_last
      rw [visible_around hu hv (dropOpening t), hbrace] at hbacktick
      exact absurd hbacktick (by decide)
    exact ⟨v, hv, dropClosing_of_not_closes hnot⟩

/-- White space around a reply comes off with the rest, if it leaves the fence in sight. -/
theorem unfence_around (hdoc : IsDocument (unfence t) (.object members))
    (hu : isBlankText u = true) (hv : isBlankText v = true) (h : KeepsFence u t v) :
    unfence (u ++ t ++ v) = unfence t := by
  obtain ⟨u', hu', hopening⟩ := dropOpening_around hdoc hu hv h.opening
  obtain ⟨before, hbefore⟩ := suffix_dropOpening t
  have hbehind : ∀ body w, dropOpening t = body ++ ("\n```" : Text) ++ w → AtMostFeed w →
      AtMostFeed (w ++ v) := by
    intro body w hclosing
    apply h.closing (before ++ body) w
    rw [← hbefore, hclosing]
    simp only [List.append_assoc]
  obtain ⟨v', hv', hclosing⟩ := dropClosing_around hdoc hu' hv hbehind
  rw [unfence, hopening, hclosing, trim_around hu' hv', unfence]

/-! ### Fences with a line that is hidden -/

theorem notJson_of_malformed {what : Complaint} {left : Nat} (hblank : isBlankText t = false)
    (h : decode (unfence t) = .error (.malformed what left)) :
    ∃ complaint, readReply (some t) = .error (.notJson complaint) := by
  refine ⟨complaintText (unfence t) what ((unfence t).length - left), ?_⟩
  rw [readReply_of_text hblank, decodeBody, h]
  rfl

theorem value_backtick (fuel depth : Nat) (rest : Text) :
    value (fuel + 1) depth ('\x60' :: rest) = fail .expectingValue ('\x60' :: rest) := by
  have hword : word? ('\x60' :: rest) = none := by simp [word?, words]
  have hdigits : wholeDigits ('\x60' :: rest) = [] := rfl
  rw [value_of_head (by decide) (by decide) (by decide), hword]
  simp [number, hdigits]

theorem decode_of_backtick (h : ∀ c, body.head? = some c → c = '\x60') :
    ∃ left, decode body = .error (.malformed .expectingValue left) := by
  cases body with
  | nil => exact ⟨0, rfl⟩
  | cons c rest =>
    obtain rfl := h c rfl
    have hskip : skipSpace ('\x60' :: rest) = '\x60' :: rest := rfl
    rw [decode, decodeWithin, if_neg (by simp), hskip, value_backtick]
    exact ⟨_, rfl⟩

/-- A fence whose first line is hidden stays on, and what is left is no document. -/
theorem hidden_opening (hu : isBlankText u = true) (hv : isBlankText v = true) (hne : u ≠ [])
    (h : OpensFence t) :
    ∃ complaint, readReply (some (u ++ t ++ v)) = .error (.notJson complaint) := by
  have hvisible : (visible (u ++ t ++ v)).head? = some '\x60' := by
    rw [visible_around hu hv]
    exact h.visible_head
  have hblank : isBlankText (u ++ t ++ v) = false := by
    rw [← Bool.not_eq_true]
    intro hnone
    rw [visible_of_isBlankText hnone] at hvisible
    cases hvisible
  have hopening : dropOpening (u ++ t ++ v) = u ++ t ++ v := by
    rw [List.append_assoc]
    exact dropOpening_of_not_opens (not_opensFence_of_blank hu hne (t ++ v))
  -- so what is left begins with the backticks of the fence
  have hhead : ∀ c, (unfence (u ++ t ++ v)).head? = some c → c = '\x60' := by
    intro c hc
    rw [unfence, hopening, head?_trim] at hc
    obtain ⟨more, hmore⟩ := prefix_visible (prefix_dropClosing (u ++ t ++ v))
    rw [← hmore, List.head?_append, hc] at hvisible
    exact Option.some.inj hvisible
  obtain ⟨left, hleft⟩ := decode_of_backtick hhead
  exact notJson_of_malformed hblank hleft

/-- A closing line that is left on stands behind the document. -/
theorem trim_before_closing (hne : trim body ≠ []) (hu : isBlankText u = true)
    (hw : isBlankText w = true) :
    ∃ gap, isBlankText gap = true ∧
      trim (u ++ body ++ ("\n```" : Text) ++ w) = trim body ++ (gap ++ ("\n```" : Text)) := by
  obtain ⟨before, gap, hbefore, hgap, hbody⟩ := exists_trim body
  refine ⟨gap, hgap, ?_⟩
  have hpieces : u ++ body ++ ("\n```" : Text) ++ w =
      (u ++ before) ++ (trim body ++ (gap ++ ("\n```" : Text))) ++ w := by
    conv => lhs; rw [hbody]
    simp only [List.append_assoc]
  rw [hpieces, trim_around (isBlankText_append hu hbefore) hw]
  apply trim_of_stops_reverse
  · exact (begins_append ⟨hne, stops_trim body⟩ _).2
  · rw [List.reverse_append, List.reverse_append]
    exact stops_cons (by decide)

/-- No number goes on with white space of any sort. -/
theorem not_goesOn_of_isBlank {c : Char} (h : isBlank c = true) : goesOn c = false := by
  rw [← Bool.not_eq_true]
  intro hgoes
  simp only [goesOn, isDecimalDigit, Bool.or_eq_true, Bool.and_eq_true, decide_eq_true_eq]
    at hgoes
  rcases hgoes with ((⟨hlow, hhigh⟩ | rfl) | rfl) | rfl
  · have hlow : 0x30 ≤ c.toNat := hlow
    have hhigh : c.toNat ≤ 0x39 := hhigh
    simp only [isBlank, Bool.or_eq_true, Bool.and_eq_true, decide_eq_true_eq] at h
    omega
  · exact absurd h (by decide)
  · exact absurd h (by decide)
  · exact absurd h (by decide)

/-- A document with the closing line behind it is refused for that line. -/
theorem decode_before_closing {v : Json} {gap : Text} (hdoc : IsDocument body v)
    (hfits : Fits maxDepth v) (hgap : isBlankText gap = true) :
    ∃ left, decode (body ++ (gap ++ ("\n```" : Text))) = .error (.malformed .extraData left) := by
  have hstops : Stops goesOn (gap ++ ("\n```" : Text)) := by
    cases gap with
    | nil => exact stops_cons (by decide)
    | cons c gap => exact stops_cons (not_goesOn_of_isBlank (isBlankText_iff.mp hgap c (.head _)))
  refine ⟨_, decode_append hdoc hfits hstops ?_⟩
  intro hnil
  obtain ⟨sp, hsp, heq⟩ := exists_skipSpace (gap ++ ("\n```" : Text))
  rw [hnil, List.append_nil] at heq
  rw [← heq] at hsp
  exact absurd (hsp '\x60' (List.mem_append_right _ (by decide))) (by decide)

/-- The closing line is behind the opening line, with the object between them. -/
theorem exists_closing (hdoc : IsDocument (unfence t) (.object members)) (hw : AtMostFeed w)
    (ht : t = body ++ ("\n```" : Text) ++ w) :
    ∃ inner, dropOpening t = inner ++ ("\n```" : Text) ++ w := by
  obtain ⟨before, hbefore⟩ := suffix_dropOpening t
  have hlast : (visible (dropOpening t)).getLast? = some '\x60' := by
    have hwhole : ClosesFence t := ⟨body, w, hw, ht⟩
    have hsome := hwhole.visible_last
    rw [← hbefore, visible_append, List.getLast?_append] at hsome
    have hhead := visible_head_dropOpening hdoc
    cases hvisible : visible (dropOpening t) with
    | nil =>
      rw [hvisible] at hhead
      cases hhead
    | cons c rest =>
      rw [hvisible, List.getLast?_cons] at hsome
      rwa [List.getLast?_cons]
  -- without its last line in sight the reply would not have been accepted
  have hcloses : ClosesFence (dropOpening t) := by
    by_contra hnot
    have hbrace := visible_last_dropClosing hdoc
    rw [dropClosing_of_not_closes hnot, hlast] at hbrace
    exact absurd hbrace (by decide)
  obtain ⟨inner, w', hw', hinner⟩ := hcloses
  refine ⟨inner, ?_⟩
  have hsame : (before ++ inner) ++ ("\n```" : Text) ++ w' = body ++ ("\n```" : Text) ++ w := by
    rw [← ht, ← hbefore, hinner]
    simp only [List.append_assoc]
  rw [hinner, behind_closing hw'.isBlankText hw.isBlankText hsame]

/-- A fence whose last line is hidden stays on; the document is there, with the line behind it. -/
theorem hidden_closing (hdoc : IsDocument (unfence t) (.object members))
    (hfits : Fits maxDepth (.object members)) (hu : isBlankText u = true)
    (hv : isBlankText v = true) (hopening : OpensFence t → u = []) (hw : AtMostFeed w)
    (ht : t = body ++ ("\n```" : Text) ++ w) (hhidden : ¬ AtMostFeed (w ++ v)) :
    ∃ complaint, readReply (some (u ++ t ++ v)) = .error (.notJson complaint) := by
  obtain ⟨u', hu', hopened⟩ := dropOpening_around hdoc hu hv hopening
  obtain ⟨inner, hinner⟩ := exists_closing hdoc hw ht
  have hbehind : isBlankText (w ++ v) = true := isBlankText_append hw.isBlankText hv
  have hwhole : u' ++ dropOpening t ++ v = u' ++ inner ++ ("\n```" : Text) ++ (w ++ v) := by
    rw [hinner]
    simp only [List.append_assoc]
  -- the line is there, but too much white space is behind it
  have hnot : ¬ ClosesFence (u' ++ inner ++ ("\n```" : Text) ++ (w ++ v)) := by
    rintro ⟨body', w', hw', heq⟩
    rw [behind_closing hbehind hw'.isBlankText heq] at hhidden
    exact hhidden hw'
  have hbody : unfence t = trim inner := by rw [unfence, hinner, dropClosing_closing hw]
  have hne : trim inner ≠ [] := by
    rw [← hbody]
    intro hnil
    obtain ⟨_, hvisible⟩ := visible_of_isDocument hdoc
    rw [hnil] at hvisible
    cases hvisible
  obtain ⟨gap, hgap, htrim⟩ := trim_before_closing hne hu' hbehind
  have hunfence : unfence (u ++ t ++ v) = unfence t ++ (gap ++ ("\n```" : Text)) := by
    rw [unfence, hopened, hwhole, dropClosing_of_not_closes hnot, htrim, hbody]
  obtain ⟨left, hleft⟩ := decode_before_closing hdoc hfits hgap
  rw [← hunfence] at hleft
  refine notJson_of_malformed ?_ hleft
  rw [isBlankText_around hu hv]
  exact isBlankText_of_object hdoc

end Accepted

/-! ### Replies with white space around them -/

/-- A blank text has no fence to hide. -/
theorem keepsFence_of_isBlankText (ht : isBlankText t = true) (u v : Text) : KeepsFence u t v := by
  have hnone : (visible t).head? = none ∧ (visible t).getLast? = none := by
    rw [visible_of_isBlankText ht]
    exact ⟨rfl, rfl⟩
  constructor
  · intro hopens
    rw [hopens.visible_head] at hnone
    cases hnone.1
  · intro body w hbody hw
    have hcloses : ClosesFence t := ⟨body, w, hw, hbody⟩
    rw [hcloses.visible_last] at hnone
    cases hnone.2

/-- An accepted reply is read the same with white space around it, if the fence stays in sight. -/
theorem readReply_around {a : Analysis} (hu : isBlankText u = true) (hv : isBlankText v = true)
    (h : readReply (some t) = .ok a) (hkeeps : KeepsFence u t v) :
    readReply (some (u ++ t ++ v)) = .ok a := by
  rw [readReply_eq_ok_iff] at h ⊢
  rcases h with ⟨hnothing, rfl⟩ | ⟨_, members, ht, hblank, hdecode, hgives⟩
  · refine .inl ⟨?_, rfl⟩
    intro _ hwhole
    cases hwhole
    rw [isBlankText_around hu hv]
    exact hnothing t rfl
  · cases ht
    have hdoc := (decode_eq_ok_iff.mp hdecode).1
    refine .inr ⟨_, members, rfl, ?_, ?_, hgives⟩
    · rw [isBlankText_around hu hv]
      exact hblank
    · rw [unfence_around hdoc hu hv hkeeps]
      exact hdecode

/-- Otherwise it is refused. -/
theorem readReply_hidden {a : Analysis} (hu : isBlankText u = true) (hv : isBlankText v = true)
    (h : readReply (some t) = .ok a) (hhidden : ¬ KeepsFence u t v) :
    ∃ complaint, readReply (some (u ++ t ++ v)) = .error (.notJson complaint) := by
  rw [readReply_eq_ok_iff] at h
  rcases h with ⟨hnothing, _⟩ | ⟨_, members, ht, _, hdecode, _⟩
  · exact absurd (keepsFence_of_isBlankText (hnothing t rfl) u v) hhidden
  · cases ht
    obtain ⟨hdoc, hfits⟩ := decode_eq_ok_iff.mp hdecode
    -- the opening line is the one looked for first
    by_cases hopening : OpensFence t → u = []
    · by_contra hread
      refine hhidden ⟨hopening, fun body w hbody hw => ?_⟩
      by_contra hmore
      exact hread (hidden_closing hdoc hfits hu hv hopening hw hbody hmore)
    · obtain ⟨hopens, hne⟩ := Classical.not_imp.mp hopening
      exact hidden_opening hu hv hne hopens

/-- White space around a reply that is read changes nothing, as long as it hides no line of the
    fence; if it hides one, the reply is refused as no JSON. -/
theorem surrounded_reply_read_iff {t u v : Text} {a : Analysis} (hu : isBlankText u = true)
    (hv : isBlankText v = true) (h : readReply (some t) = .ok a) :
    (readReply (some (u ++ t ++ v)) = .ok a ↔ KeepsFence u t v) ∧
    (¬ KeepsFence u t v →
      ∃ complaint, readReply (some (u ++ t ++ v)) = .error (.notJson complaint)) := by
  refine ⟨⟨fun hok => ?_, readReply_around hu hv h⟩, readReply_hidden hu hv h⟩
  by_contra hnot
  obtain ⟨complaint, herror⟩ := readReply_hidden hu hv h hnot
  rw [hok] at herror
  cases herror

def remark : Text :=
  "\x7b\"isPotentiallyBuggy\": true, \"aiSuggestion\": \"Line 1: x\", \"fixedCode\": \"\",
    \"logicalErrorExplanation\": \"\"\x7d"

/-- A reply in a fence, with nothing behind the closing line. -/
def fencedRemark : Text := fenced (some "json") remark

theorem readReply_fencedRemark :
    readReply (some fencedRemark) = .ok ⟨true, "Line 1: x", [], [], none⟩ := by
  decide +kernel

theorem surrounded_reply_read_feed :
    isBlankText [] = true ∧ isBlankText ['\n'] = true ∧
    readReply (some fencedRemark) = .ok ⟨true, "Line 1: x", [], [], none⟩ ∧
    readReply (some ([] ++ fencedRemark ++ ['\n'])) =
      .ok ⟨true, "Line 1: x", [], [], none⟩ := by
  have hread := readReply_fencedRemark
  refine ⟨rfl, rfl, hread, (surrounded_reply_read_iff rfl rfl hread).1.mpr ⟨fun _ => rfl, ?_⟩⟩
  intro body w hbody hw
  have hend : fencedRemark =
      (("```" : Text) ++ ("json" : Text) ++ '\n' :: remark) ++ ("\n```" : Text) ++ [] := by
    simp only [fencedRemark, fenced, List.append_nil, List.append_assoc, List.cons_append]
  have hnone : w = [] := behind_closing hw.isBlankText rfl (hbody.symm.trans hend)
  rw [hnone]
  exact .inr rfl

/-- The same reply is not read with a line feed in front of it. -/
theorem leading_feed_refused :
    isBlankText ['\n'] = true ∧
    readReply (some fencedRemark) = .ok ⟨true, "Line 1: x", [], [], none⟩ ∧
    readReply (some (['\n'] ++ fencedRemark ++ [])) ≠
      .ok ⟨true, "Line 1: x", [], [], none⟩ := by
  refine ⟨rfl, readReply_fencedRemark, ?_⟩
  decide +kernel

end ScriptDiagnosis.Reply
