/-
  ScriptDiagnosis/Proofs/Text/Decoding.lean
  =========================================
  **Bytes are read as a text exactly if they are UTF-8,** and then as the text that they are the
  bytes of (`decodeUtf8_eq_ok_iff`, `isUtf8_iff`).  The first byte of a sequence and the bounds of
  the second are what leaves one form for each code and none for the halves of surrogate pairs: a
  sequence that has begun goes on to its end just if its bytes are those of a character
  (`encodeChar_eq_sequence_iff`).
-/
import ScriptDiagnosis.Proofs.Except
import ScriptDiagnosis.Text.Utf8

namespace ScriptDiagnosis.Text

/-! ### Codes and their bytes -/

/-- A number is the code of a character: it is no half of a surrogate pair, and not too large. -/
def IsCode (n : Nat) : Prop := n < 0xd800 ∨ (0xdfff < n ∧ n < 0x110000)

/-- The bytes that a code is written in, as numbers. -/
def codeBytes (n : Nat) : List Nat :=
  if n < 0x80 then [n]
  else if n < 0x800 then [0xc0 + n / 0x40, 0x80 + n % 0x40]
  else if n < 0x10000 then [0xe0 + n / 0x1000, 0x80 + n / 0x40 % 0x40, 0x80 + n % 0x40]
  else [0xf0 + n / 0x40000, 0x80 + n / 0x1000 % 0x40, 0x80 + n / 0x40 % 0x40, 0x80 + n % 0x40]

theorem codeBytes_of_lt {n : Nat} (h : n < 0x80) : codeBytes n = [n] := if_pos h

/-- Only a code below 128 has a first byte below 128. -/
theorem lt_of_head_codeBytes {n first : Nat} {rest : List Nat} (h : codeBytes n = first :: rest)
    (hfirst : first < 0x80) : n < 0x80 := by
  rw [codeBytes] at h
  repeat' split at h
  all_goals
    obtain ⟨heq, -⟩ := List.cons.inj h
    omega

theorem isCode_toNat (c : Char) : IsCode c.toNat := c.valid

theorem exists_char {n : Nat} (h : IsCode n) : ∃ c : Char, c.toNat = n := by
  have hvalid : n.isValidChar := h
  refine ⟨Char.ofNat n, ?_⟩
  rw [Char.ofNat, dif_pos hvalid]
  rfl

/-- The bytes of a character are those that its code asks for. -/
theorem map_toNat_encodeChar (c : Char) :
    (String.utf8EncodeChar c).map UInt8.toNat = codeBytes c.toNat := by
  have hcode := isCode_toNat c
  have hval : c.val.toNat = c.toNat := rfl
  rw [IsCode] at hcode
  simp only [String.utf8EncodeChar, codeBytes, hval]
  generalize c.toNat = n at hcode
  split
  · rw [if_pos (by omega)]
    simp only [List.map_cons, List.map_nil, UInt8.toNat_ofNat', List.cons.injEq, and_true]
    omega
  split
  · rw [if_neg (by omega), if_pos (by omega)]
    simp only [List.map_cons, List.map_nil, UInt8.toNat_ofNat', List.cons.injEq, and_true]
    omega
  split
  · rw [if_neg (by omega), if_neg (by omega), if_pos (by omega)]
    simp only [List.map_cons, List.map_nil, UInt8.toNat_ofNat', List.cons.injEq, and_true]
    omega
  · rw [if_neg (by omega), if_neg (by omega), if_neg (by omega)]
    simp only [List.map_cons, List.map_nil, UInt8.toNat_ofNat', List.cons.injEq, and_true]
    omega

theorem encodeChar_eq_iff {c : Char} {bytes : List UInt8} :
    String.utf8EncodeChar c = bytes ↔ codeBytes c.toNat = bytes.map UInt8.toNat := by
  rw [← map_toNat_encodeChar]
  exact (List.map_inj_right fun _ _ => UInt8.toNat_inj.mp).symm

/-! ### Sequences -/

/-- A sequence with one byte more. -/
def Sequence.next (s : Sequence) (b : UInt8) : Sequence :=
  ⟨s.first, s.byte, s.lacks - 1, s.code * 64 + (b.toNat - 0x80), 0x80, 0xbf⟩

/-- Bytes that go on a sequence to its end, and the code that it comes to. -/
inductive Completes : Sequence → List UInt8 → Nat → Prop
  | last {s : Sequence} {b : UInt8} (hlow : s.low ≤ b.toNat) (hhigh : b.toNat ≤ s.high)
    (hlacks : s.lacks = 1) : Completes s [b] (s.next b).code
  | more {s : Sequence} {b : UInt8} {tail : List UInt8} {code : Nat} (hlow : s.low ≤ b.toNat)
    (hhigh : b.toNat ≤ s.high) (hlacks : s.lacks ≠ 1) (h : Completes (s.next b) tail code) :
    Completes s (b :: tail) code

/-- A sequence that lacks one byte is completed by one, within its bounds. -/
theorem completes_last_iff {s : Sequence} (hlacks : s.lacks = 1) {tail : List UInt8} {code : Nat} :
    Completes s tail code ↔
      ∃ b : UInt8, tail = [b] ∧ s.low ≤ b.toNat ∧ b.toNat ≤ s.high ∧ code = (s.next b).code := by
  constructor
  · intro h
    cases h with
    | last hlow hhigh _ => exact ⟨_, rfl, hlow, hhigh, rfl⟩
    | more _ _ hnot _ => exact absurd hlacks hnot
  · rintro ⟨b, rfl, hlow, hhigh, hcode⟩
    rw [hcode]
    exact .last hlow hhigh hlacks

theorem completes_more_iff {s : Sequence} (hlacks : s.lacks ≠ 1) {tail : List UInt8} {code : Nat} :
    Completes s tail code ↔ ∃ (b : UInt8) (rest : List UInt8), tail = b :: rest ∧
      s.low ≤ b.toNat ∧ b.toNat ≤ s.high ∧ Completes (s.next b) rest code := by
  constructor
  · intro h
    cases h with
    | last _ _ hone => exact absurd hone hlacks
    | more hlow hhigh _ h => exact ⟨_, _, rfl, hlow, hhigh, h⟩
  · rintro ⟨b, rest, rfl, hlow, hhigh, h⟩
    exact .more hlow hhigh hlacks h

/-- A sequence that has begun is decoded if bytes that complete it follow, and then the rest. -/
theorem decodeFrom_sequence_iff {offset : Nat} {s : Sequence} {bytes : List UInt8} {t : Text} :
    decodeFrom offset (some s) bytes = .ok t ↔
      ∃ tail rest code t', bytes = tail ++ rest ∧ Completes s tail code ∧
        decodeFrom (offset + tail.length) none rest = .ok t' ∧ Char.ofNat code :: t' = t := by
  -- on the bytes, each of which ends the sequence or goes on with it
  induction bytes generalizing offset s t with
  | nil =>
    rw [decodeFrom]
    constructor
    · intro h
      cases h
    · rintro ⟨tail, rest, code, t', hbytes, hcompletes, -⟩
      obtain ⟨rfl, -⟩ := List.nil_eq_append_iff.mp hbytes
      cases hcompletes
  | cons b bytes ih =>
    have hoffset : ∀ tail : List UInt8,
        offset + (b :: tail).length = offset + 1 + tail.length := by
      intro tail
      rw [List.length_cons, Nat.add_comm tail.length, Nat.add_assoc]
    rw [decodeFrom]
    dsimp only
    constructor
    · intro h
      split at h
      · next hbounds =>
        obtain ⟨hlow, hhigh⟩ := hbounds
        split at h
        · next hlacks =>
          obtain ⟨t', hrest, rfl⟩ := map_eq_ok_iff.mp h
          exact ⟨[b], bytes, _, t', rfl, .last hlow hhigh hlacks, hrest, rfl⟩
        · next hlacks =>
          obtain ⟨tail, rest, code, t', rfl, hcompletes, hrest, rfl⟩ := ih.mp h
          rw [← hoffset] at hrest
          exact ⟨b :: tail, rest, code, t', rfl, .more hlow hhigh hlacks hcompletes, hrest, rfl⟩
      · cases h
    · rintro ⟨tail, rest, code, t', hbytes, hcompletes, hrest, rfl⟩
      cases hcompletes with
      | last hlow hhigh hlacks =>
        cases hbytes
        rw [if_pos ⟨hlow, hhigh⟩, if_pos hlacks]
        exact map_eq_ok_iff.mpr ⟨t', hrest, rfl⟩
      | more hlow hhigh hlacks hcompletes =>
        cases hbytes
        rw [if_pos ⟨hlow, hhigh⟩, if_neg hlacks]
        rw [hoffset] at hrest
        exact ih.mpr ⟨_, rest, code, t', rfl, hcompletes, hrest, rfl⟩

/-- What a sequence comes to is a code, and it is written in these bytes. -/
theorem codeBytes_of_completes {offset n : Nat} {s : Sequence} {tail : List UInt8} {code : Nat}
    (hs : sequence? offset n = some s) (h : Completes s tail code) :
    IsCode code ∧ codeBytes code = n :: tail.map UInt8.toNat := by
  rw [sequence?] at hs
  split at hs
  · cases hs
  split at hs
  · cases hs
    obtain ⟨b, rfl, hlow, hhigh, hcode⟩ := (completes_last_iff rfl).mp h
    simp only [Sequence.next] at hlow hhigh hcode
    rw [IsCode]
    refine ⟨by omega, ?_⟩
    rw [codeBytes, if_neg (by omega), if_pos (by omega)]
    simp only [List.map_cons, List.map_nil, List.cons.injEq, and_true]
    omega
  split at hs
  · cases hs
    obtain ⟨b, _, rfl, hlow, hhigh, h⟩ := (completes_more_iff (by simp)).mp h
    obtain ⟨b', rfl, hlow', hhigh', hcode⟩ := (completes_last_iff rfl).mp h
    simp only [Sequence.next] at hlow hhigh hlow' hhigh' hcode
    rw [IsCode]
    -- the bounds leave out what has a shorter form, and the halves of surrogate pairs
    have hfirst : 0x80 ≤ b.toNat ∧ b.toNat ≤ 0xbf ∧ (n = 0xe0 → 0xa0 ≤ b.toNat) ∧
        (n = 0xed → b.toNat ≤ 0x9f) := by
      split at hlow <;> split at hhigh <;> omega
    refine ⟨by omega, ?_⟩
    rw [codeBytes, if_neg (by omega), if_neg (by omega), if_pos (by omega)]
    simp only [List.map_cons, List.map_nil, List.cons.injEq, and_true]
    omega
  split at hs
  · cases hs
    obtain ⟨b, _, rfl, hlow, hhigh, h⟩ := (completes_more_iff (by simp)).mp h
    obtain ⟨b', _, rfl, hlow', hhigh', h⟩ :=
      (completes_more_iff (by simp [Sequence.next])).mp h
    obtain ⟨b'', rfl, hlow'', hhigh'', hcode⟩ := (completes_last_iff rfl).mp h
    simp only [Sequence.next] at hlow hhigh hlow' hhigh' hlow'' hhigh'' hcode
    rw [IsCode]
    -- the same for four bytes, where the bounds also keep to the last plane
    have hfirst : 0x80 ≤ b.toNat ∧ b.toNat ≤ 0xbf ∧ (n = 0xf0 → 0x90 ≤ b.toNat) ∧
        (n = 0xf4 → b.toNat ≤ 0x8f) := by
      split at hlow <;> split at hhigh <;> omega
    refine ⟨by omega, ?_⟩
    rw [codeBytes, if_neg (by omega), if_neg (by omega), if_neg (by omega)]
    simp only [List.map_cons, List.map_nil, List.cons.injEq, and_true]
    omega
  · cases hs


/-- The bytes of a code that are more than one begin a sequence and go on to its end. -/
theorem completes_of_codeBytes (offset : Nat) {n : Nat} {tail : List UInt8} {code : Nat}
    (hcode : IsCode code) (hn : 0x80 ≤ n) (h : codeBytes code = n :: tail.map UInt8.toNat) :
    ∃ s, sequence? offset n = some s ∧ Completes s tail code := by
  rw [IsCode] at hcode
  -- the first byte is none that stands alone
  have hmany : ¬ code < 0x80 := by
    intro hone
    rw [codeBytes_of_lt hone] at h
    obtain ⟨rfl, -⟩ := List.cons.inj h
    exact absurd hone (Nat.not_lt.mpr hn)
  rw [codeBytes, if_neg hmany] at h
  split at h
  · obtain ⟨hfirst, h⟩ := List.cons.inj h
    obtain ⟨b, rfl, hb⟩ := List.map_eq_singleton_iff.mp h.symm
    refine ⟨_, by rw [sequence?, if_neg (by omega), if_pos (by omega)], ?_⟩
    refine (completes_last_iff rfl).mpr ⟨b, rfl, ?_⟩
    simp only [Sequence.next]
    omega
  split at h
  · obtain ⟨hfirst, h⟩ := List.cons.inj h
    obtain ⟨b, rest, rfl, hb, h⟩ := List.map_eq_cons_iff.mp h.symm
    obtain ⟨b', rfl, hb'⟩ := List.map_eq_singleton_iff.mp h
    refine ⟨_, by rw [sequence?, if_neg (by omega), if_neg (by omega), if_pos (by omega)], ?_⟩
    refine (completes_more_iff (by simp)).mpr ⟨b, _, rfl, ?_, ?_, ?_⟩
    · dsimp only
      split <;> omega
    · dsimp only
      split <;> omega
    refine (completes_last_iff rfl).mpr ⟨b', rfl, ?_⟩
    simp only [Sequence.next]
    omega
  · obtain ⟨hfirst, h⟩ := List.cons.inj h
    obtain ⟨b, rest, rfl, hb, h⟩ := List.map_eq_cons_iff.mp h.symm
    obtain ⟨b', rest, rfl, hb', h⟩ := List.map_eq_cons_iff.mp h
    obtain ⟨b'', rfl, hb''⟩ := List.map_eq_singleton_iff.mp h
    refine ⟨_, by rw [sequence?, if_neg (by omega), if_neg (by omega), if_neg (by omega),
      if_pos (by omega)], ?_⟩
    refine (completes_more_iff (by simp)).mpr ⟨b, _, rfl, ?_, ?_, ?_⟩
    · dsimp only
      split <;> omega
    · dsimp only
      split <;> omega
    refine (completes_more_iff (by simp [Sequence.next])).mpr ⟨b', _, rfl, ?_, ?_, ?_⟩
    · simp only [Sequence.next]
      omega
    · simp only [Sequence.next]
      omega
    refine (completes_last_iff rfl).mpr ⟨b'', rfl, ?_⟩
    simp only [Sequence.next]
    omega

/-! ### Texts -/

theorem encodeChar_eq_singleton_iff {b : UInt8} (hb : b.toNat < 0x80) {c : Char}
    {tail : List UInt8} :
    String.utf8EncodeChar c = b :: tail ↔ tail = [] ∧ Char.ofNat b.toNat = c := by
  rw [encodeChar_eq_iff, List.map_cons]
  constructor
  · intro h
    rw [codeBytes_of_lt (lt_of_head_codeBytes h hb)] at h
    obtain ⟨hfirst, htail⟩ := List.cons.inj h
    rw [← hfirst, Char.ofNat_toNat]
    exact ⟨List.map_eq_nil_iff.mp htail.symm, rfl⟩
  · rintro ⟨rfl, rfl⟩
    obtain ⟨c, hc⟩ := exists_char (n := b.toNat) (.inl (by omega))
    rw [← hc, Char.ofNat_toNat]
    rw [← hc] at hb
    exact codeBytes_of_lt hb

theorem encodeChar_eq_sequence_iff (offset : Nat) {b : UInt8} (hb : 0x80 ≤ b.toNat) {c : Char}
    {tail : List UInt8} : String.utf8EncodeChar c = b :: tail ↔
      ∃ s, sequence? offset b.toNat = some s ∧ Completes s tail c.toNat := by
  rw [encodeChar_eq_iff, List.map_cons]
  constructor
  · exact completes_of_codeBytes offset (isCode_toNat c) hb
  · rintro ⟨s, hs, hcompletes⟩
    exact (codeBytes_of_completes hs hcompletes).2

/-- A text begins with the character whose bytes come first. -/
theorem decodeFrom_cons_iff {offset : Nat} {b : UInt8} {bytes : List UInt8} {t : Text} :
    decodeFrom offset none (b :: bytes) = .ok t ↔
      ∃ c tail rest t', String.utf8EncodeChar c = b :: tail ∧ bytes = tail ++ rest ∧
        decodeFrom (offset + 1 + tail.length) none rest = .ok t' ∧ c :: t' = t := by
  rw [decodeFrom]
  split
  · next hb =>
    rw [map_eq_ok_iff]
    simp only [encodeChar_eq_singleton_iff hb]
    constructor
    · rintro ⟨t', hrest, rfl⟩
      exact ⟨_, [], bytes, t', ⟨rfl, rfl⟩, rfl, hrest, rfl⟩
    · rintro ⟨c, tail, rest, t', ⟨rfl, rfl⟩, rfl, hrest, rfl⟩
      exact ⟨t', hrest, rfl⟩
  · next hb =>
    -- a byte that does not stand alone begins a sequence, or nothing
    simp only [encodeChar_eq_sequence_iff offset (Nat.not_lt.mp hb)]
    constructor
    · intro h
      split at h
      · next s hs =>
        obtain ⟨tail, rest, code, t', rfl, hcompletes, hrest, rfl⟩ := decodeFrom_sequence_iff.mp h
        obtain ⟨c, rfl⟩ := exists_char (codeBytes_of_completes hs hcompletes).1
        rw [Char.ofNat_toNat]
        exact ⟨c, tail, rest, t', ⟨s, hs, hcompletes⟩, rfl, hrest, rfl⟩
      · cases h
    · rintro ⟨c, tail, rest, t', ⟨s, hs, hcompletes⟩, rfl, hrest, rfl⟩
      rw [hs]
      refine decodeFrom_sequence_iff.mpr ⟨tail, rest, _, t', rfl, hcompletes, hrest, ?_⟩
      rw [Char.ofNat_toNat]

/-- Bytes are read as a text exactly if they are what it is written in. -/
theorem decodeFrom_eq_ok_iff {offset : Nat} {bytes : List UInt8} {t : Text} :
    decodeFrom offset none bytes = .ok t ↔ bytes = t.flatMap String.utf8EncodeChar := by
  -- on the text, with all the bytes of a character at a time
  induction t generalizing offset bytes with
  | nil =>
    cases bytes with
    | nil => simp [decodeFrom]
    | cons b bytes => simp [decodeFrom_cons_iff]
  | cons c t ih =>
    rw [List.flatMap_cons]
    constructor
    · intro h
      cases bytes with
      | nil =>
        rw [decodeFrom] at h
        cases h
      | cons b bytes =>
        obtain ⟨c, tail, rest, t', hencode, rfl, hrest, heq⟩ := decodeFrom_cons_iff.mp h
        cases heq
        rw [hencode, ← ih.mp hrest]
        rfl
    · rintro rfl
      obtain ⟨b, tail, hencode⟩ :=
        List.exists_cons_of_ne_nil (String.utf8EncodeChar_ne_nil (c := c))
      rw [hencode, List.cons_append, decodeFrom_cons_iff]
      exact ⟨c, tail, _, t, hencode, rfl, ih.mpr rfl, rfl⟩

/-- **A text is what its bytes decode to, and nothing else is.** -/
theorem decodeUtf8_eq_ok_iff {bytes : List UInt8} {t : Text} :
    decodeUtf8 bytes = .ok t ↔ bytes = t.flatMap String.utf8EncodeChar :=
  decodeFrom_eq_ok_iff

/-- The bytes of half a surrogate pair are no text. -/
example : decodeUtf8 [0xed, 0xa0, 0x80] = .error ⟨.invalidContinuation, 0, 0, 0xed⟩ := by rfl

/-- The bytes are UTF-8. -/
def IsUtf8 (bytes : List UInt8) : Prop := bytes.toByteArray.IsValidUTF8

instance (bytes : List UInt8) : Decidable (IsUtf8 bytes) :=
  inferInstanceAs (Decidable bytes.toByteArray.IsValidUTF8)

theorem isUtf8_iff {bytes : List UInt8} : IsUtf8 bytes ↔ ∃ t, decodeUtf8 bytes = .ok t := by
  simp only [decodeUtf8_eq_ok_iff]
  constructor
  · rintro ⟨t, ht⟩
    have hdata := congrArg ByteArray.data ht
    rw [List.utf8Encode, List.data_toByteArray, List.data_toByteArray] at hdata
    exact ⟨t, List.toArray_inj hdata⟩
  · rintro ⟨t, rfl⟩
    exact ⟨t, rfl⟩

/-- Bytes that are no text have a fault. -/
theorem not_isUtf8_iff {bytes : List UInt8} :
    ¬ IsUtf8 bytes ↔ ∃ f, decodeUtf8 bytes = .error f := by
  rw [isUtf8_iff]
  cases decodeUtf8 bytes <;> simp

end ScriptDiagnosis.Text
