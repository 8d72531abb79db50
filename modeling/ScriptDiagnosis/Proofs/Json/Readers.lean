/-
  ScriptDiagnosis/Proofs/Json/Readers.lean
  ========================================
  The readers of arrays and objects by their schemes.  Both are brackets around nothing or around
  a row (`bracketed`), and a row is parts with commas between them (`row`); the part of an array is
  a value (`item`), that of an object a name, a colon and a value (`entry`).  What is said about
  the two schemes serves both, and nothing behind this module unfolds a reader.
-/
import ScriptDiagnosis.Proofs.Json.Lexemes

namespace ScriptDiagnosis.Json
open Text

variable {α β : Type}

/-! ### Chains of readers -/

section Chains

variable {x : Except Fault α} {a : α} {fits fits' : Prop}

theorem readsAs_of_eq (hx : x = .ok a) (hfits : fits) : ReadsAs x a fits :=
  ⟨fun _ => hx, fun hnot => absurd hfits hnot⟩

theorem readsAs_of_limit {f : Fault} (hf : f.IsLimit) (hx : x = .error f) (hnot : ¬ fits) :
    ReadsAs x a fits :=
  ⟨fun hfits => absurd hfits hnot, fun _ => ⟨f, hf, hx⟩⟩

/-- A chain of two readers finds what both find, if both fit; a limit that either meets is met by
    the chain. -/
theorem ReadsAs.bind {f : α → Except Fault β} {b : β} (hx : ReadsAs x a fits)
    (hf : ReadsAs (f a) b fits') : ReadsAs (x >>= f) b (fits ∧ fits') := by
  constructor
  · rintro ⟨hfits, hfits'⟩
    rw [hx.1 hfits]
    exact hf.1 hfits'
  -- the first reader that does not fit is where the chain stops
  · intro hnot
    by_cases hfits : fits
    · rw [hx.1 hfits]
      exact hf.2 fun hfits' => hnot ⟨hfits, hfits'⟩
    · obtain ⟨e, he, hxe⟩ := hx.2 hfits
      exact ⟨e, he, by rw [hxe]; rfl⟩

theorem ReadsAs.map {b : β} (hx : ReadsAs x a fits) {f : α → Except Fault β} (hf : f a = .ok b) :
    ReadsAs (x >>= f) b fits := by
  have hbind := hx.bind (readsAs_of_eq hf trivial)
  rwa [and_true] at hbind

end Chains

/-! ### Rows and brackets -/

/-- A row of parts up to its closing character: one part, then the end or a comma and more. -/
def row (close : Char) (part : Except Fault (α × Text))
    (more : Text → Except Fault (List α × Text)) : Except Fault (List α × Text) := do
  let (a, tail) ← part
  match tail with
  | c :: tail =>
    if c = close then pure ([a], tail)
    else if c = ',' then do
      let (as, tail) ← more (skipSpace tail)
      pure (a :: as, tail)
    else fail .expectingComma (c :: tail)
  | [] => fail .expectingComma []

/-- Nothing in brackets, or a row. -/
def bracketed (close : Char) (wrap : List α → Json)
    (inside : Text → Except Fault (List α × Text)) (t : Text) : Except Fault (Json × Text) :=
  match skipSpace t with
  | c :: tail =>
    if c = close then pure (wrap [], tail)
    else do
      let (as, tail) ← inside (c :: tail)
      pure (wrap as, tail)
  | [] => do
    let (as, tail) ← inside []
    pure (wrap as, tail)

section Rows

variable {close : Char} {part : Except Fault (α × Text)}
  {more inside : Text → Except Fault (List α × Text)} {wrap : List α → Json}
  {a : α} {as : List α} {t rest : Text} {fits fits' : Prop}

theorem row_last (h : ReadsAs part (a, close :: rest) fits) :
    ReadsAs (row close part more) ([a], rest) fits :=
  h.map (if_pos rfl)

theorem row_more (hclose : close ≠ ',') {sp : Text} (h : ReadsAs part (a, ',' :: (sp ++ t)) fits)
    (hsp : Spaces sp) (ht : Stops isSpace t) (hmore : ReadsAs (more t) (as, rest) fits') :
    ReadsAs (row close part more) (a :: as, rest) (fits ∧ fits') := by
  refine h.bind ?_
  dsimp only
  rw [if_neg hclose.symm, if_pos rfl, skipSpace_append hsp ht]
  exact hmore.map rfl

/-- Whatever is read as a row is one part and its end, or one part, a comma and a
    row. -/
theorem exists_part_of_row (h : row close part more = .ok (as, rest)) :
    ∃ a tail, part = .ok (a, tail) ∧
      ((tail = close :: rest ∧ as = [a]) ∨
        ∃ t bs, tail = ',' :: t ∧ more (skipSpace t) = .ok (bs, rest) ∧ as = a :: bs) := by
  obtain ⟨⟨a, tail⟩, hpart, h⟩ := bind_eq_ok_iff.mp h
  refine ⟨a, tail, hpart, ?_⟩
  -- behind a part there is the closing character, a comma, or a fault
  cases tail with
  | nil => cases h
  | cons c t =>
    dsimp only at h
    split at h
    · next hc =>
      cases h
      exact .inl ⟨by rw [hc], rfl⟩
    · split at h
      · next hc =>
        obtain ⟨⟨bs, tail⟩, hmore, h⟩ := bind_eq_ok_iff.mp h
        cases h
        exact .inr ⟨t, bs, by rw [hc], hmore, rfl⟩
      · cases h

theorem bracketed_empty {sp : Text} (hsp : Spaces sp) (hclose : isSpace close = false) :
    bracketed close wrap inside (sp ++ close :: rest) = .ok (wrap [], rest) := by
  rw [bracketed, skipSpace_append hsp (stops_cons hclose)]
  exact if_pos rfl

theorem bracketed_row {sp : Text} (hsp : Spaces sp) (ht : Stops isSpace t)
    (hclose : t.head? ≠ some close) (h : ReadsAs (inside t) (as, rest) fits) :
    ReadsAs (bracketed close wrap inside (sp ++ t)) (wrap as, rest) fits := by
  rw [bracketed, skipSpace_append hsp ht]
  cases t with
  | nil => exact h.map rfl
  | cons c t =>
    dsimp only
    rw [if_neg fun hc => hclose (congrArg some hc)]
    exact h.map rfl

/-- The two ways in which something in brackets can have been read. -/
theorem exists_inside_of_bracketed {v : Json} (h : bracketed close wrap inside t = .ok (v, rest)) :
    (skipSpace t = close :: rest ∧ v = wrap []) ∨
      ∃ as, inside (skipSpace t) = .ok (as, rest) ∧ v = wrap as := by
  rw [bracketed] at h
  split at h
  · next c tail heq =>
    split at h
    · next hc =>
      cases h
      exact .inl ⟨by rw [heq, hc], rfl⟩
    · obtain ⟨⟨as, tail⟩, hinside, h⟩ := bind_eq_ok_iff.mp h
      cases h
      exact .inr ⟨as, by rw [heq]; exact hinside, rfl⟩
  · next heq =>
    obtain ⟨⟨as, tail⟩, hinside, h⟩ := bind_eq_ok_iff.mp h
    cases h
    exact .inr ⟨as, by rw [heq]; exact hinside, rfl⟩

end Rows

/-! ### The readers as rows and brackets -/

variable {fuel depth : Nat} {t rest : Text}

/-- One item of an array with the white space behind it. -/
def item (fuel depth : Nat) (t : Text) : Except Fault (Json × Text) := do
  let (v, tail) ← value fuel depth t
  pure (v, skipSpace tail)

/-- One entry of an object with the white space behind it. -/
def entry (fuel depth : Nat) (t : Text) : Except Fault ((Text × Json) × Text) :=
  match t with
  | '\"' :: rest => do
    let (name, tail) ← stringBody rest
    match skipSpace tail with
    | ':' :: tail => do
      let (v, tail) ← value fuel depth (skipSpace tail)
      pure ((name, v), skipSpace tail)
    | other => fail .expectingColon other
  | _ => fail .expectingName t

theorem entry_eq {body tail more name : Text} (hname : stringBody body = .ok (name, tail))
    (hcolon : skipSpace tail = ':' :: more) :
    entry fuel depth ('\"' :: body) = value fuel depth (skipSpace more) >>= fun r =>
      pure ((name, r.1), skipSpace r.2) := by
  rw [entry, hname]
  simp only [bind, Except.bind, hcolon]

/-- An entry that was read, taken to pieces. -/
theorem exists_parts_of_entry {e : Text × Json} (h : entry fuel depth t = .ok (e, rest)) :
    ∃ body tail more left, t = '\"' :: body ∧ stringBody body = .ok (e.1, tail) ∧
      skipSpace tail = ':' :: more ∧ value fuel depth (skipSpace more) = .ok (e.2, left) ∧
      rest = skipSpace left := by
  rw [entry.eq_def] at h
  split at h
  · next body =>
    obtain ⟨⟨name, tail⟩, hname, h⟩ := bind_eq_ok_iff.mp h
    dsimp only at h
    split at h
    · next more hcolon =>
      obtain ⟨⟨v, left⟩, hv, h⟩ := bind_eq_ok_iff.mp h
      cases h
      exact ⟨body, tail, more, left, rfl, hname, hcolon, hv, rfl⟩
    · cases h
  · cases h

/-- The reader of items is a row whose part is an item. -/
theorem items_succ : items (fuel + 1) depth t =
    row ']' (item fuel depth t) (items fuel depth) := by
  rw [items.eq_2, row, item]
  cases hv : value fuel depth t with
  | error f => rfl
  | ok r =>
    obtain ⟨v, tail⟩ := r
    simp only [bind, Except.bind, pure, Except.pure]
    cases hskip : skipSpace tail with
    | nil => rfl
    | cons c tail' =>
      -- both sides ask the same two questions about the next character
      by_cases hclose : c = ']'
      · simp [hclose]
      · by_cases hcomma : c = ','
        · simp [hcomma]
        · simp [hclose, hcomma]

/-- The reader of members is a row whose part is an entry. It does not look so: the reader goes
    through name, colon and value itself. -/
theorem members_succ : members (fuel + 1) depth t =
    row '\x7d' (entry fuel depth t) (members fuel depth) := by
  rw [entry.eq_def]
  split
  · next behind =>
    rw [members.eq_2, row]
    cases hname : stringBody behind with
    | error f => rfl
    | ok r =>
      obtain ⟨name, tail⟩ := r
      simp only [bind, Except.bind, pure, Except.pure]
      cases hcolon : skipSpace tail with
      | nil => rfl
      | cons c tail' =>
        by_cases hc : c = ':'
        · subst hc
          cases hv : value fuel depth (skipSpace tail') with
          | error f => simp only [hv]
          | ok r =>
            obtain ⟨v, tail⟩ := r
            simp only [hv]
            cases hskip : skipSpace tail with
            | nil => rfl
            | cons c tail' =>
              by_cases hclose : c = '\x7d'
              · simp [hclose]
              · by_cases hcomma : c = ','
                · simp [hcomma]
                · simp [hclose, hcomma]
        · simp [hc, fail]
  -- without a quote both sides complain that a name is missing
  · next hquote =>
    rw [members.eq_3 _ _ _ hquote]
    rfl

theorem value_bracket : value (fuel + 1) (depth + 1) ('[' :: rest) =
    bracketed ']' .array (items fuel depth) rest := by
  rw [value.eq_7, bracketed]
  cases hskip : skipSpace rest with
  | nil => rfl
  | cons c tail =>
    by_cases hclose : c = ']'
    · simp [hclose]; rfl
    · simp [hclose]

theorem value_brace : value (fuel + 1) (depth + 1) ('\x7b' :: rest) =
    bracketed '\x7d' .object (members fuel depth) rest := by
  rw [value.eq_5, bracketed]
  cases hskip : skipSpace rest with
  | nil => rfl
  | cons c tail =>
    by_cases hclose : c = '\x7d'
    · simp [hclose]; rfl
    · simp [hclose]

/-- A kind of value that stands in brackets: how it is read, and when it fits. -/
structure Brackets (opening close : Char) (wrap : List α → Json)
    (inside : Nat → Nat → Text → Except Fault (List α × Text)) (fit : Nat → List α → Prop) :
    Prop where
  too_deep (fuel : Nat) (rest : Text) :
    ∃ f : Fault, f.IsLimit ∧ value (fuel + 1) 0 (opening :: rest) = .error f
  value_eq (fuel depth : Nat) (rest : Text) : value (fuel + 1) (depth + 1) (opening :: rest) =
    bracketed close wrap (inside fuel depth) rest
  not_fits (as : List α) : ¬ Fits 0 (wrap as)
  fits_iff (depth : Nat) (as : List α) : Fits (depth + 1) (wrap as) ↔ fit depth as
  fit_nil (depth : Nat) : fit depth []

theorem arrayBrackets : Brackets '[' ']' .array items FitItems :=
  ⟨fun _ _ => ⟨.tooDeep true, trivial, value.eq_6 _ _⟩, fun _ _ _ => value_bracket, fun _ => id,
    fun _ _ => Iff.rfl, fun _ => trivial⟩

theorem objectBrackets : Brackets '\x7b' '\x7d' .object members FitMembers :=
  ⟨fun _ _ => ⟨.tooDeep false, trivial, value.eq_4 _ _⟩, fun _ _ _ => value_brace, fun _ => id,
    fun _ _ => Iff.rfl, fun _ => trivial⟩

theorem value_of_head {c : Char} (hquote : c ≠ '\"') (hbrace : c ≠ '\x7b') (hbracket : c ≠ '[') :
    value (fuel + 1) depth (c :: t) =
      match word? (c :: t) with
      | some r => .ok r
      | none => number (c :: t) :=
  value.eq_8 _ _ _ nofun (fun _ h => hquote (List.head_eq_of_cons_eq h))
    (fun _ h => hbrace (List.head_eq_of_cons_eq h))
    (fun _ h => hbracket (List.head_eq_of_cons_eq h))

theorem value_of_word {w : Text × Json} (hw : w ∈ words) :
    value (fuel + 1) depth (w.1 ++ rest) = .ok (w.2, rest) := by
  obtain ⟨c, more, hc, hquote, hbrace, hbracket⟩ : ∃ c more, w.1 = c :: more ∧
      c ≠ '\"' ∧ c ≠ '\x7b' ∧ c ≠ '[' := by
    simp only [words, List.mem_cons, List.not_mem_nil, or_false] at hw
    rcases hw with rfl | rfl | rfl | rfl | rfl | rfl <;>
      exact ⟨_, _, rfl, by decide, by decide, by decide⟩
  have hword := word?_append hw rest
  rw [hc, List.cons_append] at hword ⊢
  rw [value_of_head hquote hbrace hbracket, hword]

/-- Among the words are three that look like numbers to some; none of them begins with a digit. -/
theorem value_of_spellsNumber {v : Json} (h : SpellsNumber t v) :
    value (fuel + 1) depth (t ++ rest) = number (t ++ rest) := by
  have hword := word?_of_spellsNumber h rest
  obtain ⟨negative, d, more, hd, rfl⟩ := h.exists_digit
  -- a minus sign and a digit are no quote and no bracket
  cases negative with
  | true =>
    rw [minus, if_pos rfl, List.singleton_append, List.cons_append] at hword ⊢
    rw [value_of_head (by decide) (by decide) (by decide), hword]
  | false =>
    rw [minus, if_neg Bool.false_ne_true, List.nil_append, List.cons_append] at hword ⊢
    rw [value_of_head (ne_of_isDecimalDigit hd (by decide)) (ne_of_isDecimalDigit hd (by decide))
      (ne_of_isDecimalDigit hd (by decide)), hword]

end ScriptDiagnosis.Json
