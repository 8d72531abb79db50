/-
  ScriptDiagnosis/Proofs/Script/Positions.lean
  ============================================
  The position of an offset in a source, by line and column.  Every line end of a script counts,
  and a carriage return counts together with the line feed behind it, so a position depends on
  one character behind the offset.  It depends on no more (`behind_congr`), and a text that stands
  in a larger one keeps its columns (`positionAt_enclosed`).  Where line feeds are the only line
  ends, positions are those of the lines between them (`positionAt_length`).
-/
import ScriptDiagnosis.Proofs.Text.Lines
import ScriptDiagnosis.Script.Source

namespace ScriptDiagnosis.Script
open Text

/-- Does a line end right behind this character?  At a carriage return it ends only behind the
    line feed that follows. -/
def endsLine (c : Char) (rest : Text) : Bool :=
  isLineEnd c && !(c = '\r' && rest.head? = some '\n')

/-- A position in a source; lines and columns count from one. -/
structure Position where
  line : Nat
  column : Nat
  deriving DecidableEq, Repr

namespace Position

def first : Position := ⟨1, 1⟩

/-- The position behind a character with `rest` behind it. -/
def past (p : Position) (c : Char) (rest : Text) : Position :=
  if endsLine c rest then ⟨p.line + 1, 1⟩ else ⟨p.line, p.column + 1⟩

/-- The position behind a text with `rest` behind it. -/
def behind (p : Position) : Text → Text → Position
  | [], _ => p
  | c :: t, rest => (p.past c (t ++ rest)).behind t rest

/-- The position so many lines further down. -/
def down (p : Position) (n : Nat) : Position := ⟨p.line + n, p.column⟩

end Position

/-- The position of an offset in a source. -/
def positionAt (source : Text) (offset : Nat) : Position :=
  Position.first.behind (source.take offset) (source.drop offset)

/-! ### Walking over a text -/

namespace Position

theorem past_of_not_isLineEnd {c : Char} (hc : isLineEnd c = false) (p : Position) (rest : Text) :
    p.past c rest = ⟨p.line, p.column + 1⟩ := by
  simp [past, endsLine, hc]

theorem past_feed (p : Position) (rest : Text) : p.past '\n' rest = ⟨p.line + 1, 1⟩ := by
  simp [past, endsLine, isLineEnd]

theorem past_down (p : Position) (n : Nat) (c : Char) (rest : Text) :
    (p.down n).past c rest = (p.past c rest).down n := by
  unfold past
  split
  · simp only [down, Nat.add_right_comm]
  · rfl

theorem line_past (p : Position) (c : Char) (rest : Text) :
    p.line ≤ (p.past c rest).line ∧ (p.past c rest).line ≤ p.line + 1 := by
  unfold past
  split <;> simp

theorem behind_append (p : Position) (s t rest : Text) :
    p.behind (s ++ t) rest = (p.behind s (t ++ rest)).behind t rest := by
  induction s generalizing p with
  | nil => rfl
  | cons c s ih =>
    rw [List.cons_append, behind, List.append_assoc, ih, behind]

theorem behind_down (p : Position) (n : Nat) (t rest : Text) :
    (p.down n).behind t rest = (p.behind t rest).down n := by
  induction t generalizing p with
  | nil => rfl
  | cons c t ih => rw [behind, past_down, ih, behind]

theorem line_behind (p : Position) (t rest : Text) :
    p.line ≤ (p.behind t rest).line ∧ (p.behind t rest).line ≤ p.line + t.length := by
  induction t generalizing p with
  | nil => simp [behind]
  | cons c t ih =>
    have hstep := line_past p c (t ++ rest)
    have hrest := ih (p.past c (t ++ rest))
    rw [behind, List.length_cons]
    omega

/-- What stands behind a text matters only to a carriage return at its end. -/
theorem behind_congr {t rest rest' : Text}
    (h : t.getLast? = some '\r' → (rest.head? = some '\n' ↔ rest'.head? = some '\n'))
    (p : Position) : p.behind t rest = p.behind t rest' := by
  induction t generalizing p with
  | nil => rfl
  | cons c t ih =>
    have hends : endsLine c (t ++ rest) = endsLine c (t ++ rest') := by
      cases t with
      | nil =>
        by_cases hc : c = '\r'
        · subst hc
          simp [endsLine, h rfl]
        · simp [endsLine, hc]
      | cons d t => rfl
    have hpast : p.past c (t ++ rest) = p.past c (t ++ rest') := by rw [past, hends, past]
    rw [behind, behind, hpast]
    refine ih (fun hlast => h ?_) _
    rw [List.getLast?_cons, hlast]
    rfl

end Position

theorem line_positionAt (t : Text) (o : Nat) :
    1 ≤ (positionAt t o).line ∧ (positionAt t o).line ≤ t.length + 1 := by
  have h := Position.first.line_behind (t.take o) (t.drop o)
  have hlength : (t.take o).length ≤ t.length := List.length_take_le' o t
  have hfirst : Position.first.line = 1 := rfl
  rw [positionAt]
  omega

theorem positionAt_succ {t : Text} {o : Nat} {c : Char} (h : t[o]? = some c)
    (hc : isLineEnd c = false) :
    positionAt t (o + 1) = ⟨(positionAt t o).line, (positionAt t o).column + 1⟩ := by
  obtain ⟨ho, rfl⟩ := List.getElem?_eq_some_iff.mp h
  rw [positionAt, List.take_succ_eq_append_getElem ho, Position.behind_append,
    List.singleton_append, ← List.drop_eq_getElem_cons ho, Position.behind,
    Position.past_of_not_isLineEnd hc]
  rfl

/-- A text keeps its positions inside a larger one, so many lines further down, if the larger one
    begins with so many lines: a line feed behind the text joins only a carriage return at its
    end. -/
theorem positionAt_enclosed {before t after : Text} {n o : Nat}
    (hbefore : ∀ rest, Position.first.behind before rest = Position.first.down n)
    (ho : o ≤ t.length) (hend : o < t.length ∨ t.getLast? ≠ some '\r') :
    positionAt (before ++ t ++ after) (before.length + o) = (positionAt t o).down n := by
  have htake : (before ++ t ++ after).take (before.length + o) = before ++ t.take o := by
    rw [List.append_assoc, List.take_length_add_append, List.take_append_of_le_length ho]
  have hdrop : (before ++ t ++ after).drop (before.length + o) = t.drop o ++ after := by
    rw [List.append_assoc, List.drop_length_add_append, List.drop_append_of_le_length ho]
  have hrest : (t.take o).getLast? = some '\r' →
      ((t.drop o ++ after).head? = some '\n' ↔ (t.drop o).head? = some '\n') := by
    intro hlast
    rcases Nat.lt_or_eq_of_le ho with hlt | rfl
    · rw [List.drop_eq_getElem_cons hlt]
      rfl
    · rw [List.take_length] at hlast
      rcases hend with hlt | hne
      · exact absurd hlt (Nat.lt_irrefl _)
      · exact absurd hlast hne
  rw [positionAt, htake, hdrop, Position.behind_append, hbefore, Position.behind_down,
    Position.behind_congr hrest, positionAt]

/-! ### Line feeds only -/

/-- Are line feeds the only line ends of a text? -/
def OnlyFeeds (t : Text) : Prop := ∀ c ∈ t, isLineEnd c = true → c = '\n'

-- Named, since a search may find one that goes through all characters.
instance (t : Text) : Decidable (OnlyFeeds t) :=
  List.decidableBAll (fun c => isLineEnd c = true → c = '\n') t

/-- Where only line feeds end lines, lines are line feeds, and columns count from the last of
    them. -/
theorem OnlyFeeds.behind {t : Text} (h : OnlyFeeds t) (p : Position) (rest : Text) :
    p.behind t rest = ⟨p.line + t.count '\n',
      if '\n' ∈ t then (lastLine t).length + 1 else p.column + t.length⟩ := by
  induction t generalizing p with
  | nil => rfl
  | cons c t ih =>
    have ih := ih fun d hd => h d (.tail _ hd)
    rw [Position.behind, ih]
    by_cases hc : c = '\n'
    · subst hc
      rw [Position.past_feed]
      by_cases hmem : '\n' ∈ t
      · simp [hmem, lastLine_feed, Nat.add_assoc, Nat.add_comm 1]
      · simp [hmem, lastLine_feed, lastLine_of_not_mem hmem, List.count_eq_zero_of_not_mem hmem,
          Nat.add_comm 1]
    · have hend : isLineEnd c = false := by
        cases hend : isLineEnd c with
        | false => rfl
        | true => exact absurd (h c (.head _) hend) hc
      rw [Position.past_of_not_isLineEnd hend]
      by_cases hmem : '\n' ∈ t
      · simp [hmem, hc, lastLine_cons hc hmem]
      · simp [hmem, hc, Ne.symm hc, Nat.add_assoc, Nat.add_comm 1]

theorem OnlyFeeds.positionAt_length {t : Text} (h : OnlyFeeds t) :
    positionAt t t.length = ⟨(lines t).length, (lastLine t).length + 1⟩ := by
  rw [positionAt, List.take_length, h.behind, length_lines, Nat.add_comm]
  by_cases hmem : '\n' ∈ t
  · simp [hmem, Position.first]
  · simp [hmem, Position.first, lastLine_of_not_mem hmem, Nat.add_comm]

theorem OnlyFeeds.line_le {t : Text} (h : OnlyFeeds t) (o : Nat) :
    (positionAt t o).line ≤ (lines t).length := by
  have htake : OnlyFeeds (t.take o) := fun c hc => h c (List.mem_of_mem_take hc)
  have hcount : (t.take o).count '\n' ≤ t.count '\n' := (List.take_sublist o t).count_le _
  rw [positionAt, htake.behind, length_lines]
  show 1 + (t.take o).count '\n' ≤ t.count '\n' + 1
  omega

theorem OnlyFeeds.getLast?_ne {t : Text} (h : OnlyFeeds t) : t.getLast? ≠ some '\r' := by
  intro hlast
  have hfeed := h '\r' (List.mem_of_getLast? hlast) (by decide)
  exact absurd hfeed (by decide)

end ScriptDiagnosis.Script
