/-
  ScriptDiagnosis/Proofs/Review/Marks.lean
  ========================================
  Marks stand for halves, and for nothing else.  A string is a row of codes, and a half is alone in
  it if the other half is not beside it (`HasLoneHalf`).  Marking the text of a string marks the row
  that it spells: a half that is alone becomes its mark, and no other code changes
  (`spellsCodes_marked`).

  A row with marks shows as a text of its own just if a half is alone in it
  (`joinMarked_eq_iff`), and there differs only where U+FFFD stood (`marks_joinMarked`).
-/
import Mathlib.Data.List.Forall2
import ScriptDiagnosis.Proofs.Json.Writing
import ScriptDiagnosis.Proofs.Review.Halves

namespace ScriptDiagnosis.Review
open Text Json

/-! ### Rows of codes -/

def beginsLow (codes : List Nat) : Bool := codes.head?.any isLowSurrogate

/-- Is a code half of a pair without the other half beside it?  A high half has the other one
    behind it, and a low half has it in front. -/
def isLone (afterHigh : Bool) (n : Nat) (behind : List Nat) : Bool :=
  isHighSurrogate n && !beginsLow behind || isLowSurrogate n && !afterHigh

/-- Somewhere in a row a half is alone.  The flag says that the row stands behind a high half. -/
inductive HasLoneHalf : Bool → List Nat → Prop
  | here {afterHigh : Bool} {n : Nat} {codes : List Nat} (h : isLone afterHigh n codes = true) :
      HasLoneHalf afterHigh (n :: codes)
  | later {afterHigh : Bool} {n : Nat} {codes : List Nat}
      (h : HasLoneHalf (isHighSurrogate n) codes) : HasLoneHalf afterHigh (n :: codes)

/-- The row with a mark in the place of each half that is alone. -/
def markCodes (afterHigh : Bool) : List Nat → List Nat
  | [] => []
  | n :: codes =>
    (if isLone afterHigh n codes then n + markDistance else n) ::
      markCodes (isHighSurrogate n) codes

theorem not_isLowSurrogate_of_isHighSurrogate {n : Nat} (h : isHighSurrogate n = true) :
    isLowSurrogate n = false := by
  simp only [isHighSurrogate, isLowSurrogate, Bool.and_eq_true, Bool.and_eq_false_iff,
    decide_eq_true_eq, decide_eq_false_iff_not] at h ⊢
  omega

/-- What is alone is a half. -/
theorem half_of_isLone {afterHigh : Bool} {n : Nat} {codes : List Nat}
    (h : isLone afterHigh n codes = true) : 0xd800 ≤ n ∧ n < 0xe000 := by
  simp only [isLone, isHighSurrogate, isLowSurrogate, Bool.or_eq_true, Bool.and_eq_true,
    decide_eq_true_eq] at h
  omega

theorem add_markDistance_lt {afterHigh : Bool} {n : Nat} {codes : List Nat}
    (h : isLone afterHigh n codes = true) : n + markDistance < 0x10000 := by
  have hhalf := half_of_isLone h
  rw [markDistance]
  omega

/-- What is in front of a row matters only if the row begins with a low half. -/
theorem markCodes_of_not_beginsLow {codes : List Nat} (h : beginsLow codes = false)
    (afterHigh other : Bool) : markCodes afterHigh codes = markCodes other codes := by
  cases codes with
  | nil => rfl
  | cons n codes =>
    have hlow : isLowSurrogate n = false := h
    simp only [markCodes, isLone, hlow, Bool.false_and]

theorem markCodes_char (paired : Bool) (c : Char) (codes : List Nat) :
    markCodes paired (c.toNat :: codes) = c.toNat :: markCodes false codes := by
  simp [markCodes, isLone, isHighSurrogate_toNat, isLowSurrogate_toNat]

/-! ### The texts that spell them -/

theorem markHalves_cons {x : Char} (h : x ≠ '\\') (paired : Bool) (rest : Text) :
    markHalves paired (x :: rest) = x :: markHalves false rest := by
  rw [markHalves] <;> simp [h]

theorem ne_u_of_escaped? {x ch : Char} (h : escaped? x = some ch) : x ≠ 'u' := by
  rintro rfl
  cases h

theorem markHalves_letter {x : Char} (hx : x ≠ 'u') (paired : Bool) (t : Text) :
    markHalves paired ('\\' :: x :: t) = '\\' :: x :: markHalves false t := by
  rw [markHalves]
  simp [hx]

theorem markHalves_code {a b c d : Char} {n : Nat} (hn : code? a b c d = some n) {t : Text}
    {codes : List Nat} (ht : beginsWithLow t = beginsLow codes) (paired : Bool) :
    markHalves paired ('\\' :: 'u' :: a :: b :: c :: d :: t) =
      (if isLone paired n codes then codeEscape (n + markDistance)
        else ['\\', 'u', a, b, c, d]) ++
      markHalves (isHighSurrogate n && beginsLow codes) t := by
  rw [markHalves, hn, isLone]
  dsimp only
  rw [ht]
  cases hhigh : isHighSurrogate n with
  | true =>
    rw [not_isLowSurrogate_of_isHighSurrogate hhigh]
    cases beginsLow codes <;> rfl
  | false => cases isLowSurrogate n <;> cases paired <;> rfl

theorem beginsWithLow_of_spellsCodes {t : Text} {codes : List Nat} (h : SpellsCodes t codes)
    (u : Text) : beginsWithLow (t ++ '\"' :: u) = beginsLow codes := by
  cases h with
  | nil => rfl
  | @plain c t codes hcontrol hquote hslash h =>
    have hlow : beginsLow (c.toNat :: codes) = false := isLowSurrogate_toNat c
    rw [hlow, List.cons_append, beginsWithLow]
    simp [hslash]
  | @letter x ch t codes hx h =>
    have hlow : beginsLow (ch.toNat :: codes) = false := isLowSurrogate_toNat ch
    rw [hlow, List.cons_append, List.cons_append, beginsWithLow]
    simp [ne_u_of_escaped? hx]
  | code hn h =>
    simp only [List.cons_append, beginsWithLow, hn]
    rfl

/-- The text of a string spells a row of codes; marked, it spells the row with its marks. -/
theorem spellsCodes_marked {inner : Text} {codes : List Nat} (h : SpellsCodes inner codes)
    (paired : Bool) :
    ∃ m, SpellsCodes m (markCodes paired codes) ∧
      ∀ u, markHalves paired (inner ++ '\"' :: u) = m ++ '\"' :: markHalves false u := by
  induction h generalizing paired with
  | nil => exact ⟨[], .nil, fun u => markHalves_cons (by decide) paired u⟩
  | @plain c t codes hcontrol hquote hslash h ih =>
    obtain ⟨m, hm, htext⟩ := ih false
    refine ⟨c :: m, ?_, fun u => ?_⟩
    · rw [markCodes_char]
      exact .plain hcontrol hquote hslash hm
    · rw [List.cons_append, markHalves_cons hslash, htext]
      rfl
  | @letter x ch t codes hx h ih =>
    obtain ⟨m, hm, htext⟩ := ih false
    refine ⟨'\\' :: x :: m, ?_, fun u => ?_⟩
    · rw [markCodes_char]
      exact .letter hx hm
    · rw [List.cons_append, List.cons_append, markHalves_letter (ne_u_of_escaped? hx), htext]
      rfl
  | @code a b c d n t codes hn h ih =>
    obtain ⟨m, hm, htext⟩ := ih (isHighSurrogate n && beginsLow codes)
    have hrest : markCodes (isHighSurrogate n && beginsLow codes) codes =
        markCodes (isHighSurrogate n) codes := by
      cases hlow : beginsLow codes with
      | true => rw [Bool.and_true]
      | false => exact markCodes_of_not_beginsLow hlow _ _
    rw [hrest] at hm
    have hcode := fun u => markHalves_code hn (beginsWithLow_of_spellsCodes h u) paired
    rw [markCodes]
    cases hlone : isLone paired n codes with
    | false =>
      refine ⟨'\\' :: 'u' :: a :: b :: c :: d :: m, .code hn hm, fun u => ?_⟩
      simp only [List.cons_append, hcode, hlone, htext]
      rfl
    | true =>
      refine ⟨codeEscape (n + markDistance) ++ m, ?_, fun u => ?_⟩
      · exact spellsCodes_codeEscape (add_markDistance_lt hlone) hm
      · simp only [List.cons_append, hcode, hlone, htext, if_true, List.append_assoc]

/-! ### The texts that are shown -/

/-- A character, and what stands in its place with marks: the same, or a mark for U+FFFD. -/
def MarkOf (c m : Char) : Prop := m = c ∨ (c = '\ufffd' ∧ 0xe000 ≤ m.toNat ∧ m.toNat < 0xe800)

def Marks (s m : Text) : Prop := List.Forall₂ MarkOf s m

/-- How a row shows, with and without marks. -/
structure ShowsMarks (afterHigh : Bool) (codes : List Nat) : Prop where
  marks : Marks (joinCodes codes) (joinCodes (markCodes afterHigh codes))
  /-- The two texts are one exactly if there is nothing to mark. -/
  same_iff : joinCodes (markCodes afterHigh codes) = joinCodes codes ↔ ¬ HasLoneHalf afterHigh codes

theorem hasLoneHalf_cons_iff {afterHigh : Bool} {n : Nat} {codes : List Nat} :
    HasLoneHalf afterHigh (n :: codes) ↔
      isLone afterHigh n codes = true ∨ HasLoneHalf (isHighSurrogate n) codes := by
  constructor
  · intro h
    cases h with
    | here h => exact .inl h
    | later h => exact .inr h
  · rintro (h | h)
    · exact .here h
    · exact .later h

/-- A half that is alone shows as U+FFFD, and its mark as itself. -/
theorem charOfCode_lone {afterHigh : Bool} {n : Nat} {codes : List Nat}
    (h : isLone afterHigh n codes = true) :
    charOfCode n = '\ufffd' ∧ (charOfCode (n + markDistance)).toNat = n + markDistance := by
  have hhalf := half_of_isLone h
  have hlt := add_markDistance_lt h
  have hmark : 0xe000 ≤ n + markDistance := by
    rw [markDistance]
    omega
  constructor
  · rw [charOfCode, if_neg]
    rw [Nat.isValidChar]
    omega
  · have hvalid : (n + markDistance).isValidChar := by
      rw [Nat.isValidChar]
      omega
    rw [charOfCode, if_pos hvalid, Char.ofNat, dif_pos hvalid]
    rfl

theorem joinCodes_cons_of_single {n : Nat} {codes : List Nat}
    (h : isHighSurrogate n = true → beginsLow codes = false) :
    joinCodes (n :: codes) = charOfCode n :: joinCodes codes := by
  cases hhigh : isHighSurrogate n with
  | false => exact joinCodes_cons hhigh codes
  | true =>
    cases codes with
    | nil => rfl
    | cons m codes =>
      have hlow : isLowSurrogate m = false := h hhigh
      rw [joinCodes, hlow, Bool.and_false, if_neg Bool.false_ne_true]

/-- A mark is no high half, so it makes no pair with what is behind it. -/
theorem joinCodes_markCodes_cons {n : Nat} {codes : List Nat}
    (h : isHighSurrogate n = true → beginsLow codes = false) (afterHigh : Bool) :
    joinCodes (markCodes afterHigh (n :: codes)) =
      charOfCode (if isLone afterHigh n codes then n + markDistance else n) ::
        joinCodes (markCodes (isHighSurrogate n) codes) := by
  rw [markCodes]
  apply joinCodes_cons_of_single
  cases hlone : isLone afterHigh n codes with
  | true =>
    intro hhigh
    have hhalf := half_of_isLone hlone
    simp only [if_true, isHighSurrogate, markDistance, Bool.and_eq_true, decide_eq_true_eq]
      at hhigh
    omega
  | false =>
    intro hhigh
    simp only [Bool.false_eq_true, if_false] at hhigh
    simp [isLone, hhigh, h hhigh] at hlone

theorem ShowsMarks.cons {n : Nat} {codes : List Nat}
    (h : isHighSurrogate n = true → beginsLow codes = false)
    (hrest : ShowsMarks (isHighSurrogate n) codes) (afterHigh : Bool) :
    ShowsMarks afterHigh (n :: codes) := by
  have hjoined := joinCodes_cons_of_single h
  have hmarked := joinCodes_markCodes_cons h afterHigh
  cases hlone : isLone afterHigh n codes with
  | false =>
    simp only [hlone, Bool.false_eq_true, if_false] at hmarked
    constructor
    · rw [hjoined, hmarked]
      exact .cons (.inl rfl) hrest.marks
    · rw [hjoined, hmarked, hasLoneHalf_cons_iff, hlone]
      simp [hrest.same_iff]
  | true =>
    obtain ⟨hshown, hmark⟩ := charOfCode_lone hlone
    have hhalf := half_of_isLone hlone
    have hdistance : markDistance = 0x800 := rfl
    simp only [hlone, if_true] at hmarked
    constructor
    · rw [hjoined, hmarked]
      exact .cons (.inr ⟨hshown, by omega, by omega⟩) hrest.marks
    · rw [hjoined, hmarked, hshown]
      refine iff_of_false (fun hsame => ?_) (fun hnot => hnot (.here hlone))
      rw [List.head_eq_of_cons_eq hsame] at hmark
      have hreplacement : '\ufffd'.toNat = 0xfffd := rfl
      omega

/-- The halves of a pair are not marked. -/
theorem markCodes_pair {hi lo : Nat} (hhigh : isHighSurrogate hi = true)
    (hlow : isLowSurrogate lo = true) (afterHigh : Bool) (rest : List Nat) :
    markCodes afterHigh (hi :: lo :: rest) = hi :: lo :: markCodes (isHighSurrogate lo) rest ∧
      (HasLoneHalf afterHigh (hi :: lo :: rest) ↔ HasLoneHalf (isHighSurrogate lo) rest) := by
  have hnotHigh : isHighSurrogate lo = false := by
    rw [← Bool.not_eq_true]
    intro h
    rw [not_isLowSurrogate_of_isHighSurrogate h] at hlow
    cases hlow
  have hbegins : beginsLow (lo :: rest) = true := hlow
  have hfirst : isLone afterHigh hi (lo :: rest) = false := by
    simp [isLone, hbegins, not_isLowSurrogate_of_isHighSurrogate hhigh]
  have hsecond : isLone (isHighSurrogate hi) lo rest = false := by
    simp [isLone, hnotHigh, hhigh]
  constructor
  · rw [markCodes, markCodes, hfirst, hsecond]
    rfl
  · rw [hasLoneHalf_cons_iff, hasLoneHalf_cons_iff, hfirst, hsecond]
    simp

theorem showsMarks (afterHigh : Bool) (codes : List Nat) : ShowsMarks afterHigh codes := by
  have hnil : ∀ afterHigh, ShowsMarks afterHigh [] := fun _ =>
    ⟨List.Forall₂.nil, iff_of_true rfl (fun h => by cases h)⟩
  -- on the cases of joining: a pair, or one code by itself
  induction codes using joinCodes.induct generalizing afterHigh with
  | case1 => exact hnil afterHigh
  | case2 n => exact .cons (fun _ => rfl) (hnil _) afterHigh
  | case3 hi lo rest hpair ih =>
    have hjoined : ∀ behind, joinCodes (hi :: lo :: behind) =
        charOfCode (0x10000 + (hi - 0xd800) * 0x400 + (lo - 0xdc00)) :: joinCodes behind := by
      intro behind
      rw [joinCodes, if_pos hpair]
    obtain ⟨hhigh, hlow⟩ := Bool.and_eq_true_iff.mp hpair
    obtain ⟨hmarked, hlone⟩ := markCodes_pair hhigh hlow afterHigh rest
    constructor
    · rw [hmarked, hjoined, hjoined]
      exact .cons (.inl rfl) (ih _).marks
    · rw [hmarked, hjoined, hjoined, hlone, List.cons_inj_right, (ih _).same_iff]
  | case4 hi lo rest hsingle ih =>
    refine .cons (fun hhigh => ?_) (ih _) afterHigh
    rw [hhigh, Bool.true_and, Bool.not_eq_true] at hsingle
    exact hsingle

/-- What a row shows as with its marks. -/
def joinMarked (codes : List Nat) : Text := joinCodes (markCodes false codes)

theorem marks_joinMarked (codes : List Nat) : Marks (joinCodes codes) (joinMarked codes) :=
  (showsMarks false codes).marks

theorem joinMarked_eq_iff {codes : List Nat} :
    joinMarked codes = joinCodes codes ↔ ¬ HasLoneHalf false codes :=
  (showsMarks false codes).same_iff

/-! ### Texts with marks and without -/

/-- No character of the text could be a mark. -/
def Unmarked (t : Text) : Prop := ∀ c ∈ t, c.toNat < 0xe000

instance (t : Text) : Decidable (Unmarked t) :=
  decidable_of_iff (t.all (fun c => c.toNat < 0xe000) = true) (by simp [Unmarked])

section

variable {s m a b : Text}

theorem Unmarked.append (ha : Unmarked a) (hb : Unmarked b) : Unmarked (a ++ b) :=
  List.forall_mem_append.mpr ⟨ha, hb⟩

theorem Marks.eq_of_not_mem (h : Marks s m) (hs : '\ufffd' ∉ s) : m = s := by
  induction h with
  | nil => rfl
  | @cons c d s m hmark _ ih =>
    rw [List.mem_cons, not_or] at hs
    rcases hmark with rfl | ⟨hshown, _⟩
    · rw [ih hs.2]
    · exact absurd hshown.symm hs.1

/-- Where there is no mark, the same stood without marks. -/
theorem Marks.eq_of_unmarked (h : Marks s m) (hm : Unmarked m) : s = m := by
  induction h with
  | nil => rfl
  | @cons c d s m hmark _ ih =>
    rw [Unmarked, List.forall_mem_cons] at hm
    rcases hmark with rfl | ⟨_, hle, _⟩
    · rw [ih hm.2]
    · exact absurd hm.1 (Nat.not_lt.mpr hle)

theorem Marks.exists_of_append (h : Marks (a ++ b) m) :
    ∃ c d, m = c ++ d ∧ Marks a c ∧ Marks b d :=
  ⟨m.take a.length, m.drop a.length, (List.take_append_drop _ _).symm,
    (List.forall₂_take_append m a b h.flip).flip, (List.forall₂_drop_append m a b h.flip).flip⟩

theorem Marks.exists_of_append_right (h : Marks s (a ++ b)) :
    ∃ c d, s = c ++ d ∧ Marks c a ∧ Marks d b :=
  ⟨s.take a.length, s.drop a.length, (List.take_append_drop _ _).symm,
    List.forall₂_take_append s a b h, List.forall₂_drop_append s a b h⟩

theorem Marks.exists_of_before (h : Marks (a ++ b) m) (ha : '\ufffd' ∉ a) :
    ∃ n, m = a ++ n ∧ Marks b n := by
  obtain ⟨c, d, rfl, hac, hbd⟩ := h.exists_of_append
  exact ⟨d, by rw [hac.eq_of_not_mem ha], hbd⟩

theorem Marks.exists_of_behind (h : Marks (a ++ b) m) (hb : '\ufffd' ∉ b) :
    ∃ n, m = n ++ b ∧ Marks a n := by
  obtain ⟨c, d, rfl, hac, hbd⟩ := h.exists_of_append
  exact ⟨c, by rw [hbd.eq_of_not_mem hb], hac⟩

end

end ScriptDiagnosis.Review
