/-
  ScriptDiagnosis/Proofs/Suggestion/Markers.lean
  ==============================================
  Markers, said without the reader.  A marker is written when its four parts are what they
  should be; it begins a text when it is the longest written one that the text begins with
  (`Begins`).  The reader finds exactly that one (`marker?_eq_some_iff`), and its label is
  `Line ` and its digits (`canonicalLabel_text`).

  All of this rests on the classes of the four parts: no digit is white space or a colon, so a
  run of one class ends where the next part begins, and taking runs as long as they go never
  takes too much.
-/
import ScriptDiagnosis.Proofs.Text.Runs
import ScriptDiagnosis.Suggestion.Marker

namespace ScriptDiagnosis.Suggestion
open Text

/-! ### Classes of characters -/

def blankRanges : Ranges :=
  [(0x09, 0x0d), (0x1c, 0x20), (0x85, 0x85), (0xa0, 0xa0), (0x1680, 0x1680), (0x2000, 0x200a),
   (0x2028, 0x2029), (0x202f, 0x202f), (0x205f, 0x205f), (0x3000, 0x3000)]

theorem covers_of_isBlank {c : Char} (h : isBlank c = true) :
    blankRanges.covers c.toNat = true := by
  simp only [isBlank, Bool.or_eq_true, Bool.and_eq_true, decide_eq_true_eq] at h
  simp only [blankRanges, Ranges.covers, List.any_cons, List.any_nil, Bool.or_eq_true,
    Bool.and_eq_true, decide_eq_true_eq]
  omega

theorem covers_of_isDigit {c : Char} (h : isDigit c = true) :
    digitRanges.covers c.toNat = true := by
  rw [isDigit, digitValue?, Option.isSome_map, List.find?_isSome] at h
  exact List.any_eq_true.mpr h

/-- Ranges that lie apart have no code point in common. -/
theorem covers_apart {rs ss : Ranges} (hapart : ∀ r ∈ rs, ∀ s ∈ ss, r.2 < s.1 ∨ s.2 < r.1)
    {n : Nat} (hr : rs.covers n = true) : ss.covers n = false := by
  rw [Bool.eq_false_iff]
  intro hs
  obtain ⟨r, hr, hrn⟩ := List.any_eq_true.mp hr
  obtain ⟨s, hs, hsn⟩ := List.any_eq_true.mp hs
  simp only [Bool.and_eq_true, decide_eq_true_eq] at hrn hsn
  have := hapart r hr s hs
  omega

theorem isBlank_of_isDigit {c : Char} (h : isDigit c = true) : isBlank c = false := by
  have hnot : blankRanges.covers c.toNat = false :=
    covers_apart (by decide) (covers_of_isDigit h)
  rw [Bool.eq_false_iff]
  intro hblank
  rw [covers_of_isBlank hblank] at hnot
  cases hnot

theorem isMarkerTail_of_isDigit {c : Char} (h : isDigit c = true) : isMarkerTail c = false := by
  have hcolon : c ≠ ':' := by
    rintro rfl
    exact absurd h (by decide)
  simp [isMarkerTail, hcolon, isBlank_of_isDigit h]

theorem isDigit_of_isMarkerTail {c : Char} (h : isMarkerTail c = true) : isDigit c = false := by
  cases hdigit : isDigit c with
  | false => rfl
  | true => rw [isMarkerTail_of_isDigit hdigit] at h; cases h

theorem isMarkerTail_of_isBlank {c : Char} (h : isBlank c = true) : isMarkerTail c = true := by
  simp [isMarkerTail, h]

theorem isBlank_of_isLineWord {l i n e : Char} (h : isLineWord l i n e = true) :
    ∀ c ∈ [l, i, n, e], isBlank c = false := by
  have hi : ∀ c : Char, isAnyI c = true → isBlank c = false := by
    intro c hc
    simp only [isAnyI, Bool.or_eq_true, decide_eq_true_eq] at hc
    rcases hc with ((rfl | rfl) | hc) | hc
    · decide
    · decide
    · simp [isBlank, hc]
    · simp [isBlank, hc]
  simp only [isLineWord, Bool.and_eq_true, Bool.or_eq_true, decide_eq_true_eq] at h
  obtain ⟨⟨⟨hl, hI⟩, hn⟩, he⟩ := h
  intro c hc
  simp only [List.mem_cons, List.not_mem_nil, or_false] at hc
  rcases hc with rfl | rfl | rfl | rfl
  · rcases hl with rfl | rfl <;> decide
  · exact hi _ hI
  · rcases hn with rfl | rfl <;> decide
  · rcases he with rfl | rfl <;> decide

/-! ### Written markers -/

/-- The parts of a marker are what they should be: the word in any case, then white space,
    digits, and colons or white space, each at least one. -/
structure Marker.IsWritten (m : Marker) : Prop where
  word : ∃ l i n e, m.word = [l, i, n, e] ∧ isLineWord l i n e = true
  gap_ne : m.gap ≠ []
  gap : ∀ c ∈ m.gap, isBlank c = true
  digits_ne : m.digits ≠ []
  digits : ∀ c ∈ m.digits, isDigit c = true
  tail_ne : m.tail ≠ []
  tail : ∀ c ∈ m.tail, isMarkerTail c = true

/-- A written marker stands at the beginning of the text. -/
def Opens (t : Text) : Prop := ∃ m : Marker, m.IsWritten ∧ m.text <+: t

/-- The marker begins the text, and no longer one does. -/
structure Begins (m : Marker) (t : Text) : Prop where
  written : m.IsWritten
  starts : m.text <+: t
  longest : ∀ m' : Marker, m'.IsWritten → m'.text <+: t → m'.text.length ≤ m.text.length

theorem Marker.IsWritten.stops_isBlank {m : Marker} (h : m.IsWritten) (t : Text) :
    Stops isBlank (m.digits ++ t) :=
  stops_append h.digits_ne (fun c hc => isBlank_of_isDigit (h.digits c hc)) t

theorem Marker.IsWritten.stops_isDigit {m : Marker} (h : m.IsWritten) (t : Text) :
    Stops isDigit (m.tail ++ t) :=
  stops_append h.tail_ne (fun c hc => isDigit_of_isMarkerTail (h.tail c hc)) t

theorem Marker.IsWritten.word_isBlank {m : Marker} (h : m.IsWritten) :
    ∀ c ∈ m.word, isBlank c = false := by
  obtain ⟨l, i, n, e, hword, hline⟩ := h.word
  rw [hword]
  exact isBlank_of_isLineWord hline

theorem Marker.IsWritten.word_ne {m : Marker} (h : m.IsWritten) : m.word ≠ [] := by
  obtain ⟨l, i, n, e, hword, _⟩ := h.word
  rw [hword]
  exact List.cons_ne_nil _ _

/-- A marker takes whatever colons and blanks follow it. -/
theorem Marker.IsWritten.extend {m : Marker} (h : m.IsWritten) {more : Text}
    (hmore : ∀ c ∈ more, isMarkerTail c = true) :
    Marker.IsWritten ⟨m.word, m.gap, m.digits, m.tail ++ more⟩ where
  word := h.word
  gap_ne := h.gap_ne
  gap := h.gap
  digits_ne := h.digits_ne
  digits := h.digits
  tail_ne := by simp [h.tail_ne]
  tail := by
    intro c hc
    rcases List.mem_append.mp hc with hc | hc
    · exact h.tail c hc
    · exact hmore c hc

/-! ### The reader -/

/-- A marker that is written is read, if nothing of it goes on. -/
theorem marker?_append {m : Marker} (h : m.IsWritten) {rest : Text}
    (hrest : Stops isMarkerTail rest) : marker? (m.text ++ rest) = some (m, rest) := by
  obtain ⟨word, gap, digits, tail⟩ := m
  obtain ⟨l, i, n, e, rfl, hline⟩ := h.word
  have hafter : afterLineWord? ([l, i, n, e] ++ (gap ++ (digits ++ (tail ++ rest)))) =
      some (gap ++ (digits ++ (tail ++ rest))) := by
    simp [afterLineWord?, hline]
  have htext : Marker.text ⟨[l, i, n, e], gap, digits, tail⟩ ++ rest =
      [l, i, n, e] ++ (gap ++ (digits ++ (tail ++ rest))) := by
    simp [Marker.text]
  rw [htext, marker?, hafter]
  dsimp only
  rw [takeWhile_append_of_stops h.gap (h.stops_isBlank _),
    dropWhile_append_of_stops h.gap (h.stops_isBlank _),
    takeWhile_append_of_stops h.digits (h.stops_isDigit _),
    dropWhile_append_of_stops h.digits (h.stops_isDigit _),
    takeWhile_append_of_stops h.tail hrest, dropWhile_append_of_stops h.tail hrest]
  have hgap : gap ≠ [] := h.gap_ne
  have hdigits : digits ≠ [] := h.digits_ne
  have htail : tail ≠ [] := h.tail_ne
  simp [hgap, hdigits, htail]

theorem afterLineWord?_eq_some {t rest : Text} (h : afterLineWord? t = some rest) :
    ∃ l i n e, t = [l, i, n, e] ++ rest ∧ isLineWord l i n e = true := by
  match t with
  | [] | [_] | [_, _] | [_, _, _] => simp [afterLineWord?] at h
  | l :: i :: n :: e :: r =>
    simp only [afterLineWord?] at h
    split at h
    · next hline => cases h; exact ⟨l, i, n, e, rfl, hline⟩
    · cases h

/-- Whatever is read as a marker is written there, and nothing of it goes on. -/
theorem marker?_eq_some {t rest : Text} {m : Marker} (h : marker? t = some (m, rest)) :
    m.IsWritten ∧ t = m.text ++ rest ∧ Stops isMarkerTail rest := by
  unfold marker? at h
  split at h
  · cases h
  · next afterWord hw =>
    dsimp only at h
    split at h
    · cases h
    · next hne =>
      cases h
      obtain ⟨l, i, n, e, rfl, hline⟩ := afterLineWord?_eq_some hw
      simp only [Bool.or_eq_true, List.isEmpty_iff, not_or] at hne
      obtain ⟨⟨hgap, hdigits⟩, htail⟩ := hne
      refine ⟨⟨⟨l, i, n, e, rfl, hline⟩, hgap, mem_takeWhile, hdigits, mem_takeWhile, htail,
        mem_takeWhile⟩, ?_, stops_dropWhile _ _⟩
      simp only [Marker.text, List.append_assoc, List.takeWhile_append_dropWhile]
      rfl

/-- A marker that a text begins with is found, up to a longer tail. -/
theorem marker?_of_starts {m : Marker} {t : Text} (h : m.IsWritten) (hstarts : m.text <+: t) :
    ∃ more rest, t = m.text ++ more ++ rest ∧
      marker? t = some (⟨m.word, m.gap, m.digits, m.tail ++ more⟩, rest) := by
  obtain ⟨behind, rfl⟩ := hstarts
  refine ⟨behind.takeWhile isMarkerTail, behind.dropWhile isMarkerTail, ?_, ?_⟩
  · rw [List.append_assoc, List.takeWhile_append_dropWhile]
  · have hfound := marker?_append (h.extend (mem_takeWhile (p := isMarkerTail) (t := behind)))
      (stops_dropWhile isMarkerTail behind)
    rw [← hfound]
    simp only [Marker.text, List.append_assoc, List.takeWhile_append_dropWhile]

/-- The reader misses no marker. -/
theorem marker?_eq_none_iff {t : Text} : marker? t = none ↔ ¬ Opens t := by
  constructor
  · rintro hnone ⟨m, hm, hstarts⟩
    obtain ⟨_, _, _, hfound⟩ := marker?_of_starts hm hstarts
    rw [hnone] at hfound
    cases hfound
  · intro hnot
    cases hfound : marker? t with
    | none => rfl
    | some found =>
      obtain ⟨hm, ht, _⟩ := marker?_eq_some hfound
      exact absurd ⟨found.1, hm, found.2, ht.symm⟩ hnot

/-- **What the reader finds is the longest marker that the text begins with.** -/
theorem marker?_eq_some_iff {t rest : Text} {m : Marker} :
    marker? t = some (m, rest) ↔ Begins m t ∧ t = m.text ++ rest := by
  constructor
  · intro hfound
    obtain ⟨hm, ht, _⟩ := marker?_eq_some hfound
    refine ⟨⟨hm, ⟨rest, ht.symm⟩, ?_⟩, ht⟩
    intro m' hm' hstarts
    -- the marker that is found is the other one with a tail that is longer or equal
    obtain ⟨more, rest', _, hfound'⟩ := marker?_of_starts hm' hstarts
    rw [hfound] at hfound'
    cases hfound'
    simp only [Marker.text, List.length_append]
    omega
  · rintro ⟨⟨hm, hstarts, hlongest⟩, ht⟩
    obtain ⟨more, rest', ht', hfound⟩ := marker?_of_starts hm hstarts
    obtain ⟨hm', htext, _⟩ := marker?_eq_some hfound
    have hle := hlongest _ hm' ⟨rest', htext.symm⟩
    have hmore : more = [] := by
      simp only [Marker.text, List.length_append] at hle
      exact List.eq_nil_of_length_eq_zero (by omega)
    subst hmore
    rw [List.append_nil, ht] at ht'
    rw [hfound, List.append_cancel_left ht', List.append_nil]

/-! ### Labels -/

theorem Marker.IsWritten.stops_text {m : Marker} (h : m.IsWritten) : Stops isBlank m.text := by
  have hword := stops_append h.word_ne h.word_isBlank (m.gap ++ (m.digits ++ m.tail))
  simpa only [Marker.text, List.append_assoc] using hword

theorem Marker.IsWritten.trim_isEmpty {m : Marker} (h : m.IsWritten) :
    (trim m.text).isEmpty = false := by
  rw [Text.trim_isEmpty, Bool.eq_false_iff]
  intro hblank
  obtain ⟨c, w, hword⟩ := List.exists_cons_of_ne_nil h.word_ne
  have hc : isBlank c = true :=
    isBlankText_iff.mp hblank c (by simp [Marker.text, hword])
  rw [h.word_isBlank c (by simp [hword])] at hc
  cases hc

/-- Without its tail, a marker is its word, its gap and its digits. -/
theorem Marker.IsWritten.dropTrailing_text {m : Marker} (h : m.IsWritten) :
    dropTrailing isMarkerTail (trim (trim m.text)) = m.word ++ m.gap ++ m.digits := by
  rw [trim_of_stops (stops_trim m.text),
    dropTrailing_dropTrailing fun _ => isMarkerTail_of_isBlank, trim_of_stops (stops_text h),
    dropTrailing_dropTrailing fun _ => isMarkerTail_of_isBlank, Marker.text,
    dropTrailing_append_of_all h.tail]
  exact dropTrailing_append_of_none h.digits_ne
    (fun c hc => isMarkerTail_of_isDigit (h.digits c hc)) _

def Marker.label (m : Marker) : Text := ("Line " : Text) ++ m.digits

/-- The label of a marker is its word as it is written everywhere, with the digits as they stand.
    -/
theorem canonicalLabel_text {m : Marker} (h : m.IsWritten) :
    canonicalLabel (trim m.text) = some m.label := by
  have hgap : Stops (fun c => !isBlank c) (m.gap ++ m.digits) :=
    stops_append h.gap_ne (fun c hc => by simp [h.gap c hc]) m.digits
  have hword : ∀ c ∈ m.word, (!isBlank c) = true := by
    intro c hc
    simp [h.word_isBlank c hc]
  have hdigits : Stops isBlank m.digits := by simpa using h.stops_isBlank []
  obtain ⟨x, xs, hx⟩ := List.exists_cons_of_ne_nil h.gap_ne
  rw [canonicalLabel, h.dropTrailing_text, List.append_assoc, dropWhile_append_of_stops hword hgap]
  split
  · next hnil => simp [hx] at hnil
  · rw [dropWhile_append_of_stops h.gap hdigits]
    rfl

end ScriptDiagnosis.Suggestion
