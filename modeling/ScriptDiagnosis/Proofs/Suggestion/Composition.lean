/-
  ScriptDiagnosis/Proofs/Suggestion/Composition.lean
  ==================================================
  **A suggestion that is put together from entries is split into them.**  An entry is a line
  number and what is said about it, written behind a marker; the entries, and perhaps some
  words before them, are joined by line feeds, and splitting gives back each of them
  (`blocks?_joined`).

  What has to be ruled out is a marker that begins in one part and ends in the next.  It would
  have the first letter of a marker's word behind its own first character, and no class of a
  marker has that letter but the beginning of its word (`opens_of_opens_append`).  So whether a
  part holds a marker is seen from the part alone, with the line feed that follows it.
-/
import Mathlib.Data.List.Infix
import ScriptDiagnosis.Proofs.Suggestion.Segmentation

namespace ScriptDiagnosis.Suggestion
open Text

/-! ### Seams -/

/-- The letter that a marker's word begins with. -/
def isWordStart (c : Char) : Bool := c = 'l' || c = 'L'

/-- Behind its first letter a marker has none with which a word could start. -/
theorem Marker.IsWritten.isWordStart_tail {m : Marker} (h : m.IsWritten) :
    ∀ c ∈ m.text.tail, isWordStart c = false := by
  -- a class of characters that holds neither case of the letter
  have hclass : ∀ {p : Char → Bool}, p 'l' = false → p 'L' = false →
      ∀ c, p c = true → isWordStart c = false := by
    intro p hl hL c hc
    rw [isWordStart, Bool.or_eq_false_iff, decide_eq_false_iff_not, decide_eq_false_iff_not]
    constructor
    · rintro rfl
      rw [hl] at hc
      cases hc
    · rintro rfl
      rw [hL] at hc
      cases hc
  obtain ⟨l, i, n, e, hword, hline⟩ := h.word
  simp only [isLineWord, Bool.and_eq_true] at hline
  obtain ⟨⟨⟨_, hi⟩, hn⟩, he⟩ := hline
  intro c hc
  rw [Marker.text, hword] at hc
  simp only [List.cons_append, List.nil_append, List.tail_cons, List.mem_cons,
    List.mem_append] at hc
  rcases hc with rfl | rfl | rfl | (hc | hc) | hc
  · exact hclass (by decide) (by decide) c hi
  · exact hclass (p := fun c => c = 'n' || c = 'N') (by decide) (by decide) c hn
  · exact hclass (p := fun c => c = 'e' || c = 'E') (by decide) (by decide) c he
  · exact hclass (by decide) (by decide) c (h.gap c hc)
  · exact hclass (by decide) (by decide) c (h.digits c hc)
  · exact hclass (by decide) (by decide) c (h.tail c hc)

/-- A marker does not reach into a text that begins as a marker does. -/
theorem opens_of_opens_append {s t : Text} (hs : s ≠ [])
    (ht : ∀ c, t.head? = some c → isWordStart c = true) (h : Opens (s ++ t)) : Opens s := by
  obtain ⟨m, hm, hstarts⟩ := h
  rcases List.prefix_or_prefix_of_prefix hstarts (List.prefix_append s t) with hwithin | hacross
  · exact ⟨m, hm, hwithin⟩
  · obtain ⟨r, hr⟩ := hacross
    cases r with
    | nil =>
      rw [List.append_nil] at hr
      exact ⟨m, hm, hr ▸ List.prefix_rfl⟩
    | cons c r =>
      -- the marker's first character behind the seam is the one that the text begins with
      rw [← hr, List.prefix_append_right_inj] at hstarts
      have hstart : isWordStart c = true := by
        obtain ⟨rest, rfl⟩ := hstarts
        exact ht c rfl
      have hmem : c ∈ m.text.tail := by
        rw [← hr, List.tail_append_of_ne_nil hs]
        exact List.mem_append_right _ (.head _)
      rw [hm.isWordStart_tail c hmem] at hstart
      cases hstart

/-! ### Parts without a marker -/

/-- No marker begins anywhere in the text. -/
def Unmarked (t : Text) : Prop := ∀ s, s <:+ t → ¬ Opens s

theorem unmarked_iff {t : Text} : Unmarked t ↔ ∀ s ∈ t.tails, marker? s = none := by
  simp only [Unmarked, marker?_eq_none_iff, List.mem_tails]

instance (t : Text) : Decidable (Unmarked t) := decidable_of_iff _ unmarked_iff.symm

/-- What can be said about a line: it is not blank, no white space stands around it, and no
    marker is in it, nor would be with a line feed behind it. -/
structure IsContent (t : Text) : Prop where
  filled : isBlankText t = false
  trimmed : trim t = t
  unmarked : Unmarked (t ++ ['\n'])

instance (t : Text) : Decidable (IsContent t) :=
  decidable_of_iff (isBlankText t = false ∧ trim t = t ∧ Unmarked (t ++ ['\n']))
    ⟨fun ⟨hfilled, htrimmed, hunmarked⟩ => ⟨hfilled, htrimmed, hunmarked⟩,
      fun h => ⟨h.filled, h.trimmed, h.unmarked⟩⟩

section Content

variable {t : Text}

theorem IsContent.stops (h : IsContent t) : Stops isBlank t := by
  rw [← h.trimmed]
  exact stops_trim t

theorem IsContent.ne_nil (h : IsContent t) : t ≠ [] := by
  rintro rfl
  cases h.filled

/-- The block of a content, whatever white space follows it. -/
theorem IsContent.block? (h : IsContent t) {w : Text} (hw : isBlankText w = true) (label : Text) :
    block? label (t ++ w) = some ⟨label, t⟩ := by
  have htrim : trim (t ++ w) = t := by
    rw [trim_append_of_isBlankText hw, h.trimmed]
  have hblank : isBlankText (t ++ w) = false := by
    rw [← isBlankText_trim, htrim, h.filled]
  rw [Suggestion.block?, htrim, hblank]
  rfl

end Content

/-! ### Entries -/

/-- What a suggestion says about one line: the digits of its number, and the words. -/
structure Entry where
  digits : Text
  content : Text
  deriving DecidableEq, Repr

namespace Entry

def text (e : Entry) : Text := ("Line " : Text) ++ e.digits ++ ": " ++ e.content

def block (e : Entry) : Block := ⟨("Line " : Text) ++ e.digits, e.content⟩

def marker (e : Entry) : Marker := ⟨"Line", [' '], e.digits, [':', ' ']⟩

/-- A number with at least one digit and a content.  A colon at its beginning would be taken for
    one of the marker's. -/
structure IsProper (e : Entry) : Prop where
  digits_ne : e.digits ≠ []
  digits : ∀ c ∈ e.digits, isDigit c = true
  content : IsContent e.content
  colon : e.content.head? ≠ some ':'

instance (e : Entry) : Decidable e.IsProper :=
  decidable_of_iff (e.digits ≠ [] ∧ e.digits.all isDigit = true ∧ IsContent e.content ∧
      e.content.head? ≠ some ':')
    ⟨fun ⟨hne, hdigits, hcontent, hcolon⟩ =>
        ⟨hne, List.all_eq_true.mp hdigits, hcontent, hcolon⟩,
      fun h => ⟨h.digits_ne, List.all_eq_true.mpr h.digits, h.content, h.colon⟩⟩

variable {e : Entry}

theorem IsProper.marker_isWritten (h : e.IsProper) : e.marker.IsWritten where
  word := ⟨'L', 'i', 'n', 'e', rfl, by decide⟩
  gap_ne := List.cons_ne_nil _ _
  gap := List.forall_mem_singleton.mpr (by decide)
  digits_ne := h.digits_ne
  digits := h.digits
  tail_ne := List.cons_ne_nil _ _
  tail := List.all_eq_true.mp (show [':', ' '].all isMarkerTail = true by decide)

/-- The content of an entry does not continue its marker. -/
theorem IsProper.stops_isMarkerTail (h : e.IsProper) (rest : Text) :
    Stops isMarkerTail (e.content ++ rest) := by
  obtain ⟨c, t, hcontent⟩ := List.exists_cons_of_ne_nil h.content.ne_nil
  have hcolon : c ≠ ':' := by
    rintro rfl
    apply h.colon
    rw [hcontent]
    rfl
  have hblank : isBlank c = false := by
    apply h.content.stops
    rw [hcontent]
    rfl
  rw [hcontent]
  apply stops_cons
  simp [isMarkerTail, hcolon, hblank]

end Entry

/-! ### Joined entries -/

/-- Entries on lines of their own. -/
def joined (entries : List Entry) : Text := join ['\n'] (entries.map Entry.text)

/-- The line feed in front of some entries, if there are any. -/
def feed (entries : List Entry) : Text := if entries.isEmpty then [] else ['\n']

theorem isBlankText_feed (entries : List Entry) : isBlankText (feed entries) = true := by
  cases entries <;> rfl

theorem join_entries (t : Text) (entries : List Entry) :
    join ['\n'] (t :: entries.map Entry.text) = t ++ feed entries ++ joined entries := by
  cases entries with
  | nil => simp [join, feed, joined]
  | cons e entries => rfl

theorem head?_joined (entries : List Entry) :
    ∀ c, (joined entries).head? = some c → isWordStart c = true := by
  intro c hc
  cases entries with
  | nil => cases hc
  | cons e entries =>
    rw [joined, List.map_cons, join_entries] at hc
    cases hc
    rfl

/-- A content in front of entries has no marker, and none begins in it. -/
theorem cut_content {t : Text} (h : IsContent t) (entries : List Entry) :
    cut (t ++ feed entries ++ joined entries) =
      ⟨t ++ feed entries ++ (cut (joined entries)).preamble, (cut (joined entries)).sections⟩ := by
  apply cut_before
  intro s hs hne hopens
  have hpart : t ++ feed entries <+: t ++ ['\n'] := by
    rw [List.prefix_append_right_inj, feed]
    split
    · exact List.nil_prefix
    · exact List.prefix_rfl
  have hopens := opens_of_opens_append hne (head?_joined entries) hopens
  obtain ⟨m, hm, hstarts⟩ := hopens
  -- what is behind the part makes the text longer, and leaves the marker where it is
  obtain ⟨before, hbefore⟩ := hs
  obtain ⟨behind, hbehind⟩ := hpart
  have hsuffix : s ++ behind <:+ t ++ ['\n'] := ⟨before, by
    rw [← List.append_assoc, hbefore, hbehind]⟩
  exact h.unmarked _ hsuffix ⟨m, hm, hstarts.trans (List.prefix_append s behind)⟩

theorem joined_cons (e : Entry) (entries : List Entry) :
    joined (e :: entries) = e.marker.text ++ (e.content ++ feed entries ++ joined entries) := by
  have htext : e.text = e.marker.text ++ e.content := rfl
  rw [joined, List.map_cons, join_entries, htext]
  simp only [List.append_assoc]

theorem cut_joined_cons {e : Entry} (h : e.IsProper) (entries : List Entry) :
    cut (joined (e :: entries)) =
      ⟨[], (e.marker, e.content ++ feed entries ++ (cut (joined entries)).preamble) ::
        (cut (joined entries)).sections⟩ := by
  have hstops : Stops isMarkerTail (e.content ++ feed entries ++ joined entries) := by
    rw [List.append_assoc]
    exact h.stops_isMarkerTail _
  have hmarker := marker?_append h.marker_isWritten hstops
  rw [joined_cons, cut_of_marker hmarker, cut_content h.content]

theorem preamble_joined {entries : List Entry} (h : ∀ e ∈ entries, e.IsProper) :
    (cut (joined entries)).preamble = [] := by
  cases entries with
  | nil => exact congrArg Cut.preamble cut_nil
  | cons e entries => rw [cut_joined_cons (h e (.head _))]

/-- Each entry is a section, whose content is the entry's. -/
theorem sections_joined {entries : List Entry} (h : ∀ e ∈ entries, e.IsProper) :
    (cut (joined entries)).sections.filterMap (fun s => block? s.1.label s.2) =
      entries.map Entry.block := by
  induction entries with
  | nil =>
    rw [joined, List.map_nil, join, cut_nil]
    rfl
  | cons e entries ih =>
    have hrest : ∀ e ∈ entries, e.IsProper := fun e he => h e (List.mem_cons_of_mem _ he)
    have he := h e (.head _)
    have hblock := he.content.block? (isBlankText_feed entries) e.marker.label
    rw [cut_joined_cons he, preamble_joined hrest, List.append_nil, List.filterMap_cons, hblock,
      ih hrest]
    rfl

/-- **Entries are read back.**  Words without a marker and entries, each on lines of their own,
    are split into a block for the words and a block for each entry, under its own line and in
    order, whatever the numbers are. -/
theorem blocks?_joined {preamble : Option Text} {entries : List Entry}
    (hpreamble : ∀ p, preamble = some p → IsContent p) (hentries : ∀ e ∈ entries, e.IsProper) :
    blocks? (join ['\n'] (preamble.toList ++ entries.map Entry.text)) =
      some (preamble.toList.map (Block.mk []) ++ entries.map Entry.block) := by
  have hsections := sections_joined hentries
  have hnone := preamble_joined hentries
  rw [blocks?, label_pieces (isCut_cut _).isWritten, Cut.blocks]
  cases preamble with
  | none =>
    show some ((block? [] (cut (joined entries)).preamble).toList ++
      (cut (joined entries)).sections.filterMap _) = _
    rw [hnone, hsections]
    rfl
  | some p =>
    have hp := hpreamble p rfl
    rw [Option.toList_some, List.singleton_append, join_entries, cut_content hp]
    dsimp only
    rw [hnone, hsections, List.append_nil, hp.block? (isBlankText_feed entries)]
    rfl

/-- Numbers that repeat, fall and are in another script, and a content of two lines. -/
def unordered : List Entry :=
  [⟨"12", "use ===\nin line 4b"⟩, ⟨"٣", "Line3: no"⟩, ⟨"12", "5 calls"⟩]

/-- The words in front end as a marker begins. -/
theorem blocks?_joined_unordered :
    IsContent "see the line" ∧ (∀ e ∈ unordered, e.IsProper) ∧
    blocks? "see the line\nLine 12: use ===\nin line 4b\nLine ٣: Line3: no\nLine 12: 5 calls" =
      some [⟨[], "see the line"⟩, ⟨"Line 12", "use ===\nin line 4b"⟩, ⟨"Line ٣", "Line3: no"⟩,
        ⟨"Line 12", "5 calls"⟩] := by
  have hcontent : IsContent "see the line" := by decide +kernel
  have hentries : ∀ e ∈ unordered, e.IsProper := by decide +kernel
  have hpreamble : ∀ p, some ("see the line" : Text) = some p → IsContent p := by
    intro p hp
    cases hp
    exact hcontent
  exact ⟨hcontent, hentries, blocks?_joined hpreamble hentries⟩

end ScriptDiagnosis.Suggestion
