/-
  ScriptDiagnosis/Proofs/Json/Writing.lean
  ========================================
  What is written is spelled.  A value is written in any layout: where the grammar has white space
  a layout puts some, or none, so it may be compact, on one line, or indented by any step
  (`Layout`), and strings may or may not be held to ASCII.  The two styles of the printer are
  among these (`encode_eq`).  In every layout the text is spelled by the grammar as the value that
  was written (`Writable.isDocument`): escapes are undone, and a character that was written as
  two codes is that character again (`joinCodes_codes`).  So what the printer writes the reader
  reads back (`decode_encode`).
-/
import ScriptDiagnosis.Json.Printer
import ScriptDiagnosis.Proofs.Json.Reading

namespace ScriptDiagnosis.Json
open Text

/-! ### Codes in hexadecimal digits -/

theorem hexValue?_hexDigit {d : Nat} (h : d < 16) : hexValue? (hexDigit d) = some d := by
  revert d
  decide

theorem code?_hex {n : Nat} (h : n < 0x10000) :
    ∃ a b c d, hex 4 n = [a, b, c, d] ∧ code? a b c d = some n := by
  refine ⟨_, _, _, _, rfl, ?_⟩
  have hmod : ∀ k, k % 16 < 16 := fun k => Nat.mod_lt k (by decide)
  rw [code?, hexValue?_hexDigit (hmod _), hexValue?_hexDigit (hmod _), hexValue?_hexDigit (hmod _),
    hexValue?_hexDigit (hmod _)]
  dsimp only
  congr 1
  omega

theorem spellsCodes_codeEscape {n : Nat} (hn : n < 0x10000) {t : Text} {cs : List Nat}
    (h : SpellsCodes t cs) : SpellsCodes (codeEscape n ++ t) (n :: cs) := by
  obtain ⟨a, b, c, d, hhex, hcode⟩ := code?_hex hn
  rw [codeEscape, hhex]
  exact .code hcode h

/-! ### Characters and strings -/

/-- No character is half of a surrogate pair. -/
theorem toNat_valid (c : Char) :
    c.toNat < 0xd800 ∨ (0xdfff < c.toNat ∧ c.toNat < 0x110000) := c.valid

theorem charOfCode_toNat (c : Char) : charOfCode c.toNat = c := by
  have hvalid : c.toNat.isValidChar := c.valid
  rw [charOfCode, if_pos hvalid, Char.ofNat_toNat]

theorem isHighSurrogate_toNat (c : Char) : isHighSurrogate c.toNat = false := by
  have hvalid := toNat_valid c
  simp only [isHighSurrogate, Bool.and_eq_false_iff, decide_eq_false_iff_not]
  omega

theorem isLowSurrogate_toNat (c : Char) : isLowSurrogate c.toNat = false := by
  have hvalid := toNat_valid c
  simp only [isLowSurrogate, Bool.and_eq_false_iff, decide_eq_false_iff_not]
  omega

/-- The codes that a character is written with. -/
def codes (asciiOnly : Bool) (c : Char) : List Nat :=
  if asciiOnly && 0x10000 ≤ c.toNat then
    [0xd800 + (c.toNat - 0x10000) / 0x400, 0xdc00 + (c.toNat - 0x10000) % 0x400]
  else [c.toNat]

variable {asciiOnly : Bool}

theorem codes_of_lt {c : Char} (h : c.toNat < 0x10000) : codes asciiOnly c = [c.toNat] := by
  rw [codes, if_neg]
  simp [Nat.not_le.mpr h]

theorem spellsCodes_letter {x c : Char} (hx : escaped? x = some c) (hc : c.toNat < 0x10000)
    {t : Text} {cs : List Nat} (h : SpellsCodes t cs) :
    SpellsCodes ('\\' :: x :: t) (codes asciiOnly c ++ cs) := by
  rw [codes_of_lt hc]
  exact .letter hx h

/-- However a character is written, its codes are spelled: as itself, by a letter, by four digits
    or by eight. -/
theorem spellsCodes_writeChar (c : Char) {t : Text} {cs : List Nat} (h : SpellsCodes t cs) :
    SpellsCodes (writeChar asciiOnly c ++ t) (codes asciiOnly c ++ cs) := by
  rw [writeChar]
  -- the characters that have a letter, each by its own
  by_cases hquote : c = '\"'
  · rw [hquote]; exact spellsCodes_letter rfl (by decide) h
  by_cases hslash : c = '\\'
  · rw [hslash]; exact spellsCodes_letter rfl (by decide) h
  by_cases hlf : c = '\n'
  · rw [hlf]; exact spellsCodes_letter rfl (by decide) h
  by_cases hcr : c = '\r'
  · rw [hcr]; exact spellsCodes_letter rfl (by decide) h
  by_cases htab : c = '\t'
  · rw [htab]; exact spellsCodes_letter rfl (by decide) h
  by_cases hbackspace : c = '\x08'
  · rw [hbackspace]; exact spellsCodes_letter rfl (by decide) h
  by_cases hfeed : c = '\x0c'
  · rw [hfeed]; exact spellsCodes_letter rfl (by decide) h
  rw [if_neg hquote, if_neg hslash, if_neg hlf, if_neg hcr, if_neg htab, if_neg hbackspace,
    if_neg hfeed]
  split
  -- a control character has no letter, but four digits
  · next hcontrol =>
    have hlt : c.toNat < 0x10000 := by omega
    rw [codes_of_lt hlt]
    exact spellsCodes_codeEscape hlt h
  · next hcontrol =>
    split
    · next hascii =>
      simp only [Bool.and_eq_true, decide_eq_true_eq] at hascii
      split
      · next hlt =>
        rw [codes_of_lt hlt]
        exact spellsCodes_codeEscape hlt h
      · next hlt =>
        have hvalid := toNat_valid c
        rw [codes, if_pos (by simp [hascii.1, Nat.not_lt.mp hlt]), List.append_assoc]
        exact spellsCodes_codeEscape (by omega) (spellsCodes_codeEscape (by omega) h)
    · next hascii =>
      -- what is left stands for itself
      have hcodes : codes asciiOnly c = [c.toNat] := by
        rw [codes, if_neg]
        simp only [Bool.and_eq_true, decide_eq_true_eq] at hascii ⊢
        rintro ⟨htrue, hle⟩
        exact hascii ⟨htrue, by omega⟩
      rw [hcodes]
      exact .plain (Nat.not_lt.mp hcontrol) hquote hslash h

theorem spellsCodes_flatMap (t : Text) :
    SpellsCodes (t.flatMap (writeChar asciiOnly)) (t.flatMap (codes asciiOnly)) := by
  induction t with
  | nil => exact .nil
  | cons c t ih =>
    rw [List.flatMap_cons, List.flatMap_cons]
    exact spellsCodes_writeChar c ih

theorem joinCodes_cons {n : Nat} (h : isHighSurrogate n = false) (cs : List Nat) :
    joinCodes (n :: cs) = charOfCode n :: joinCodes cs := by
  cases cs with
  | nil => rfl
  | cons m cs => rw [joinCodes, h, Bool.false_and, if_neg Bool.false_ne_true]

/-- The two halves of a character outside the basic plane make it again. -/
theorem joinCodes_pair {c : Char} (h : 0x10000 ≤ c.toNat) (cs : List Nat) :
    joinCodes ((0xd800 + (c.toNat - 0x10000) / 0x400) ::
      (0xdc00 + (c.toNat - 0x10000) % 0x400) :: cs) = c :: joinCodes cs := by
  have hvalid := toNat_valid c
  have hhigh : isHighSurrogate (0xd800 + (c.toNat - 0x10000) / 0x400) = true := by
    simp only [isHighSurrogate, Bool.and_eq_true, decide_eq_true_eq]
    omega
  have hlow : isLowSurrogate (0xdc00 + (c.toNat - 0x10000) % 0x400) = true := by
    simp only [isLowSurrogate, Bool.and_eq_true, decide_eq_true_eq]
    omega
  have hcode : 0x10000 + (0xd800 + (c.toNat - 0x10000) / 0x400 - 0xd800) * 0x400 +
      (0xdc00 + (c.toNat - 0x10000) % 0x400 - 0xdc00) = c.toNat := by
    omega
  rw [joinCodes, hhigh, hlow, Bool.and_self, if_pos rfl, hcode, charOfCode_toNat]

/-- The codes of a text are joined to the text. -/
theorem joinCodes_codes (t : Text) : joinCodes (t.flatMap (codes asciiOnly)) = t := by
  induction t with
  | nil => rfl
  | cons c t ih =>
    rw [List.flatMap_cons, codes]
    split
    · next h =>
      simp only [Bool.and_eq_true, decide_eq_true_eq] at h
      rw [List.cons_append, List.singleton_append, joinCodes_pair h.2, ih]
    · rw [List.singleton_append, joinCodes_cons (isHighSurrogate_toNat c), charOfCode_toNat, ih]

theorem spellsString_writeString (t : Text) : SpellsString (writeString asciiOnly t) t :=
  ⟨_, _, spellsCodes_flatMap t, rfl, (joinCodes_codes t).symm⟩

/-! ### Integers -/

/-- The digits of a number have no zero in front, unless it is zero. -/
theorem isWhole_toDigits (n : Nat) : IsWhole (Nat.toDigits 10 n) := by
  have hdigits : ∀ c ∈ Nat.toDigits 10 n, isDecimalDigit c = true := by
    intro c hc
    have hdigit := Nat.isDigit_of_mem_toDigits (by decide) (by decide) hc
    simp only [Char.isDigit, Bool.and_eq_true, decide_eq_true_eq] at hdigit
    simp only [isDecimalDigit, Bool.and_eq_true, decide_eq_true_eq]
    exact hdigit
  have hne : Nat.toDigits 10 n ≠ [] := Nat.toDigits_ne_nil
  by_cases hhead : (Nat.toDigits 10 n).head? = some '0'
  · -- then what is behind the zero would be a shorter way to write the number
    refine .inl ?_
    obtain ⟨c, ds, hds⟩ := List.exists_cons_of_ne_nil hne
    rw [hds] at hhead hdigits ⊢
    cases hhead
    have hvalue : n = Nat.ofDigitChars 10 ds 0 := by
      rw [← Nat.ofDigitChars_ten_toDigits (n := n), hds, Nat.ofDigitChars_cons]
      rfl
    have hlt := ofDigitChars_lt fun c hc => hdigits c (List.mem_cons_of_mem _ hc)
    rw [← hvalue] at hlt
    by_cases hempty : ds = []
    · rw [hempty]
    · have hle := (Nat.length_toDigits_le_iff (by decide) (List.length_pos_iff.mpr hempty)).mpr hlt
      rw [hds, List.length_cons] at hle
      omega
  · exact .inr ⟨⟨hne, hdigits⟩, hhead⟩

theorem digitsValue_toDigits (n : Nat) : digitsValue (Nat.toDigits 10 n) = n := by
  rw [digitsValue_eq (isWhole_toDigits n).digits.2, Nat.ofDigitChars_ten_toDigits]

/-- Every integer is spelled as it is written. -/
theorem spellsNumber_ofInt (n : Int) : SpellsNumber (ofInt n) (.integer n) := by
  have hnumber := SpellsNumber.integer (decide (n < 0)) (isWhole_toDigits n.natAbs)
  rw [digitsValue_toDigits] at hnumber
  by_cases hn : n < 0
  · have hsigned : signed (decide (n < 0)) n.natAbs = n := by
      rw [decide_eq_true hn, signed, if_pos rfl]
      omega
    rw [hsigned, decide_eq_true hn] at hnumber
    rw [ofInt, if_pos hn]
    exact hnumber
  · have hsigned : signed (decide (n < 0)) n.natAbs = n := by
      rw [decide_eq_false hn, signed, if_neg Bool.false_ne_true]
      omega
    rw [hsigned, decide_eq_false hn] at hnumber
    rw [ofInt, if_neg hn]
    exact hnumber

/-! ### Layouts -/

/-- The white space that a writer puts inside a bracket, behind a comma and behind a colon; the
    first two may depend on the level. -/
structure Layout where
  edge : Nat → Text
  comma : Nat → Text
  colon : Text
  edge_spaces (level : Nat) : Spaces (edge level)
  comma_spaces (level : Nat) : Spaces (comma level)
  colon_spaces : Spaces colon

namespace Layout

/-- No white space at all. -/
def compact : Layout := ⟨fun _ => [], fun _ => [], [], nofun, nofun, nofun⟩

/-- All on one line, with a blank behind each comma and colon. -/
def oneLine : Layout :=
  ⟨fun _ => [], fun _ => [' '], [' '], nofun, fun _ => by decide, by decide⟩

theorem spaces_indentation {step : Text} (h : Spaces step) (level : Nat) :
    Spaces ('\n' :: (List.replicate level step).flatten) := by
  intro c hc
  rcases List.mem_cons.mp hc with rfl | hc
  · rfl
  · obtain ⟨s, hs, hc⟩ := List.mem_flatten.mp hc
    rw [List.eq_of_mem_replicate hs] at hc
    exact h c hc

/-- One part a line, each level indented by one step more. -/
def indented (step : Text) (h : Spaces step) : Layout :=
  ⟨fun level => '\n' :: (List.replicate level step).flatten,
    fun level => '\n' :: (List.replicate level step).flatten, [' '],
    spaces_indentation h, spaces_indentation h, by decide⟩

mutual

def write (l : Layout) (asciiOnly : Bool) (level : Nat) : Json → Text
  | null => "null"
  | bool b => if b then "true" else "false"
  | integer n => ofInt n
  | decimal t => t
  | string t => writeString asciiOnly t
  | array [] => ['[', ']']
  | array (v :: vs) =>
    '[' :: (l.edge (level + 1) ++ (l.write asciiOnly (level + 1) v ++
      (l.writeItems asciiOnly (level + 1) vs ++ l.edge level) ++ [']']))
  | object [] => ['\x7b', '\x7d']
  | object ((k, v) :: ms) =>
    '\x7b' :: (l.edge (level + 1) ++ (writeString asciiOnly k ++
      ':' :: (l.colon ++ (l.write asciiOnly (level + 1) v ++
        (l.writeMembers asciiOnly (level + 1) ms ++ l.edge level))) ++ ['\x7d']))

/-- The items of an array behind the first. -/
def writeItems (l : Layout) (asciiOnly : Bool) (level : Nat) : List Json → Text
  | [] => []
  | v :: vs =>
    ',' :: (l.comma level ++ (l.write asciiOnly level v ++ l.writeItems asciiOnly level vs))

/-- The members of an object behind the first. -/
def writeMembers (l : Layout) (asciiOnly : Bool) (level : Nat) : List (Text × Json) → Text
  | [] => []
  | (k, v) :: ms =>
    ',' :: (l.comma level ++ (writeString asciiOnly k ++
      ':' :: (l.colon ++ (l.write asciiOnly level v ++ l.writeMembers asciiOnly level ms))))

end

/-- The layout of a style. -/
def ofStyle (s : Style) : Layout :=
  if s.indented then indented [' ', ' '] (by decide) else oneLine

end Layout

section Styles

variable (s : Style) (level : Nat)

theorem newLine_eq : newLine level = '\n' :: (List.replicate level [' ', ' ']).flatten := by
  rw [newLine]
  congr 1
  induction level with
  | zero => rfl
  | succ level ih => rw [List.replicate_succ, List.flatten_cons, ← ih, Nat.mul_succ]; rfl

theorem edge_eq : edge s level = (Layout.ofStyle s).edge level := by
  rw [edge, Layout.ofStyle]
  split
  · exact newLine_eq level
  · rfl

theorem between_eq : between s level = ',' :: (Layout.ofStyle s).comma level := by
  rw [between, Layout.ofStyle]
  split
  · exact congrArg _ (newLine_eq level)
  · rfl

theorem colon_eq : (Layout.ofStyle s).colon = [' '] := by
  rw [Layout.ofStyle]
  split <;> rfl

end Styles

mutual

/-- A style is a layout: which white space stands at the edges, behind commas and behind colons.
    -/
theorem write_eq (s : Style) (level : Nat) :
    (v : Json) → write s level v = (Layout.ofStyle s).write s.asciiOnly level v
  | null | bool _ | integer _ | decimal _ | string _ | array [] | object [] => rfl
  | array (v :: vs) => by
    rw [write, Layout.write, write_eq s (level + 1) v, writeItems_eq s (level + 1) vs, edge_eq,
      edge_eq]
    simp only [List.append_assoc, List.cons_append]
  | object ((k, v) :: ms) => by
    rw [write, Layout.write, write_eq s (level + 1) v, writeMembers_eq s (level + 1) ms, edge_eq,
      edge_eq, colon_eq]
    simp only [List.append_assoc, List.cons_append, List.nil_append]

theorem writeItems_eq (s : Style) (level : Nat) :
    (vs : List Json) → writeItems s level vs = (Layout.ofStyle s).writeItems s.asciiOnly level vs
  | [] => rfl
  | v :: vs => by
    rw [writeItems, Layout.writeItems, write_eq s level v, writeItems_eq s level vs, between_eq]
    simp only [List.append_assoc, List.cons_append]

theorem writeMembers_eq (s : Style) (level : Nat) :
    (ms : List (Text × Json)) →
      writeMembers s level ms = (Layout.ofStyle s).writeMembers s.asciiOnly level ms
  | [] => rfl
  | (k, v) :: ms => by
    rw [writeMembers, Layout.writeMembers, write_eq s level v, writeMembers_eq s level ms,
      between_eq, colon_eq]
    simp only [List.append_assoc, List.cons_append, List.nil_append]

end

theorem encode_eq (s : Style) (v : Json) :
    encode s v = (Layout.ofStyle s).write s.asciiOnly 0 v :=
  write_eq s 0 v

/-! ### What is written is spelled -/

/-- Every decimal in the value is a number, or a word for one. -/
inductive Writable : Json → Prop
  | null : Writable null
  | bool (b : Bool) : Writable (bool b)
  | integer (n : Int) : Writable (integer n)
  | decimal {t : Text} (h : SpellsNumber t (.decimal t) ∨ (t, Json.decimal t) ∈ words) :
      Writable (decimal t)
  | string (t : Text) : Writable (string t)
  | array {vs : List Json} (h : ∀ v ∈ vs, Writable v) : Writable (array vs)
  | object {ms : List (Text × Json)} (h : ∀ m ∈ ms, Writable m.2) : Writable (object ms)

section Written

variable {l : Layout} {level : Nat} {sp : Text}

/-- Items with commas between them, each spelled, are spelled as a row. -/
theorem spells_items (hsp : Spaces sp) {vs : List Json} {v : Json}
    (h : ∀ w ∈ v :: vs, Spells (l.write asciiOnly level w) (.value w)) :
    Spells (l.write asciiOnly level v ++ (l.writeItems asciiOnly level vs ++ sp))
      (.items (v :: vs)) := by
  induction vs generalizing v with
  | nil => exact .lastItem (h v (.head _)) hsp
  | cons w vs ih =>
    have hv := h v (.head _)
    have hrest := ih fun u hu => h u (List.mem_cons_of_mem _ hu)
    have hitem := Spells.item hv spaces_nil (l.comma_spaces level) hrest
    rw [List.append_nil] at hitem
    simp only [Layout.writeItems, List.cons_append, List.append_assoc]
    exact hitem

theorem spells_entry (hsp : Spaces sp) {k : Text} {v : Json}
    (h : Spells (l.write asciiOnly level v) (.value v)) :
    Spells (writeString asciiOnly k ++ ':' :: (l.colon ++ (l.write asciiOnly level v ++ sp)))
      (.entry k v) := by
  have hk : SpellsString (writeString asciiOnly k) k := spellsString_writeString k
  have hentry := Spells.entry hk spaces_nil l.colon_spaces h hsp
  rwa [List.append_nil] at hentry

theorem spells_members (hsp : Spaces sp) {ms : List (Text × Json)} {k : Text} {v : Json}
    (h : ∀ m ∈ (k, v) :: ms, Spells (l.write asciiOnly level m.2) (.value m.2)) :
    Spells (writeString asciiOnly k ++ ':' :: (l.colon ++ (l.write asciiOnly level v ++
      (l.writeMembers asciiOnly level ms ++ sp)))) (.members ((k, v) :: ms)) := by
  induction ms generalizing k v with
  | nil => exact .lastMember (spells_entry hsp (h _ (.head _)))
  | cons m ms ih =>
    obtain ⟨k', w⟩ := m
    have hentry := spells_entry (k := k) spaces_nil (h _ (.head _))
    have hrest := ih fun u hu => h u (List.mem_cons_of_mem _ hu)
    have hmember := Spells.member hentry (l.comma_spaces level) hrest
    simp only [Layout.writeMembers, List.cons_append, List.append_assoc, List.nil_append]
      at hmember ⊢
    exact hmember

/-- **What is written is spelled,** in any layout and at any level. -/
theorem Writable.spells {v : Json} (h : Writable v) :
    ∀ level, Spells (l.write asciiOnly level v) (.value v) := by
  induction h with
  | null => exact fun _ => .word (w := ("null", .null)) (by simp [words])
  | bool b =>
    intro level
    cases b with
    | false => exact .word (w := ("false", .bool false)) (by simp [words])
    | true => exact .word (w := ("true", .bool true)) (by simp [words])
  | integer n => exact fun _ => .number (spellsNumber_ofInt n)
  | decimal h =>
    intro level
    rcases h with h | h
    · exact .number h
    · exact .word h
  | string t => exact fun _ => .string (spellsString_writeString t)
  -- the items are one level further in than their brackets
  | @array vs _ ih =>
    intro level
    cases vs with
    | nil => exact .emptyArray spaces_nil
    | cons v vs =>
      exact .array (l.edge_spaces _) (spells_items (l.edge_spaces level) fun w hw => ih w hw _)
  | @object ms _ ih =>
    intro level
    cases ms with
    | nil => exact .emptyObject spaces_nil
    | cons m ms =>
      obtain ⟨k, v⟩ := m
      exact .object (l.edge_spaces _) (spells_members (l.edge_spaces level) fun w hw => ih w hw _)

theorem Writable.isDocument {v : Json} (h : Writable v) (hsp : Spaces sp) :
    IsDocument (l.write asciiOnly 0 v ++ sp) v :=
  ⟨[], _, sp, spaces_nil, h.spells 0, hsp, rfl⟩

/-- **What is written is decoded again,** if it meets no limit. -/
theorem decode_write {depth : Nat} {v : Json} (h : Writable v) (hfits : Fits depth v)
    (hsp : Spaces sp) : decodeWithin depth (l.write asciiOnly 0 v ++ sp) = .ok v :=
  decodeWithin_eq_ok_iff.mpr ⟨h.isDocument hsp, hfits⟩

end Written

/-- What the printer writes is read back, whatever white space is behind it. -/
theorem decode_encode (s : Style) {depth : Nat} {v : Json} (h : Writable v) (hfits : Fits depth v)
    {sp : Text} (hsp : Spaces sp) : decodeWithin depth (encode s v ++ sp) = .ok v := by
  rw [encode_eq]
  exact decode_write h hfits hsp

end ScriptDiagnosis.Json
