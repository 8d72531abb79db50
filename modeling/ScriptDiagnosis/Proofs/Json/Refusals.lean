/-
  ScriptDiagnosis/Proofs/Json/Refusals.lean
  =========================================
  Texts that the decoder refuses, of every length.  A row of too many digits and a row of too
  many opening brackets meet a limit, and neither is complained about as a fault of the text,
  although the row of brackets is no JSON at all.  Something behind a document is a fault of the
  text (`decode_append`): a letter behind a number and white space, say, as far from its beginning
  as there is white space.
-/
import ScriptDiagnosis.Proofs.Json.Reading

namespace ScriptDiagnosis.Json
open Text

theorem skipSpace_replicate {c : Char} (h : isSpace c = false) (n : Nat) :
    skipSpace (List.replicate n c) = List.replicate n c := by
  cases n with
  | zero => rfl
  | succ n => simp [skipSpace, List.replicate_succ, h]

theorem head?_replicate_ne {c : Char} (h : c ≠ '\ufeff') (n : Nat) :
    (List.replicate n c).head? ≠ some '\ufeff' := by
  cases n with
  | zero => simp
  | succ n => simp [List.replicate_succ, h]

/-! ### Digits -/

theorem wholeDigits_ones (n : Nat) :
    wholeDigits (List.replicate (n + 1) '1') = List.replicate (n + 1) '1' := by
  have hdigit : isDecimalDigit '1' = true := by decide
  simp [wholeDigits, List.replicate_succ, hdigit]

/-- An integer with too many digits is refused, and the refusal says how many there are. -/
theorem number_ones {n : Nat} (h : maxDigits < n + 1) :
    number (List.replicate (n + 1) '1') = .error (.tooManyDigits (n + 1)) := by
  have hdigits := wholeDigits_ones n
  rw [List.replicate_succ] at hdigits ⊢
  rw [number]
  · simp only [hdigits, List.length_cons, List.length_replicate, List.drop_succ_cons,
      List.drop_replicate, Nat.sub_self, List.replicate_zero]
    simp [fraction, exponent, h]
  · intro rest heq
    cases heq

/-- So is a document that consists of one. -/
theorem decode_ones (depth : Nat) {n : Nat} (h : maxDigits < n) :
    decodeWithin depth (List.replicate n '1') = .error (.tooManyDigits n) := by
  obtain ⟨m, rfl⟩ : ∃ m, n = m + 1 := ⟨n - 1, by omega⟩
  have hword : word? (List.replicate (m + 1) '1') = none := by
    simp [word?, words, List.replicate_succ]
  have hvalue : value (2 * (List.replicate (m + 1) '1').length + 2) depth
      (List.replicate (m + 1) '1') = .error (.tooManyDigits (m + 1)) := by
    rw [value, hword]
    · exact number_ones h
    all_goals simp [List.replicate_succ]
  rw [decodeWithin, if_neg (head?_replicate_ne (by decide) _), skipSpace_replicate (by decide),
    hvalue]
  rfl

/-! ### Nesting -/

/-- A bracket more than there are levels, and the text is too deep, whether or not they are
    closed. -/
theorem value_brackets (depth n fuel : Nat) (h : depth < n) (hfuel : 2 * depth + 1 ≤ fuel) :
    value fuel depth (List.replicate n '[') = .error (.tooDeep true) := by
  induction depth generalizing n fuel with
  | zero =>
    obtain ⟨m, rfl⟩ : ∃ m, n = m + 1 := ⟨n - 1, by omega⟩
    obtain ⟨fuel, rfl⟩ : ∃ k, fuel = k + 1 := ⟨fuel - 1, by omega⟩
    rw [List.replicate_succ, value]
  | succ depth ih =>
    -- one level is a value and the first item of its array
    obtain ⟨m, rfl⟩ : ∃ m, n = m + 2 := ⟨n - 2, by omega⟩
    obtain ⟨fuel, rfl⟩ : ∃ k, fuel = k + 2 := ⟨fuel - 2, by omega⟩
    have hinner : value fuel depth (List.replicate (m + 1) '[') = .error (.tooDeep true) :=
      ih (m + 1) fuel (by omega) (by omega)
    have hitems : items (fuel + 1) depth (List.replicate (m + 1) '[') =
        .error (.tooDeep true) := by
      rw [items, hinner]
      rfl
    rw [List.replicate_succ, value, skipSpace_replicate (by decide), hitems]
    simp [List.replicate_succ, bind, Except.bind]

theorem decode_brackets {depth n : Nat} (h : depth < n) :
    decodeWithin depth (List.replicate n '[') = .error (.tooDeep true) := by
  have hvalue : value (2 * (List.replicate n '[').length + 2) depth
      (List.replicate n '[') = .error (.tooDeep true) := by
    apply value_brackets depth n _ h
    rw [List.length_replicate]
    omega
  rw [decodeWithin, if_neg (head?_replicate_ne (by decide) _), skipSpace_replicate (by decide),
    hvalue]
  rfl

/-! ### Something behind a document -/

/-- A document that fits, with something behind it: the complaint is about that. -/
theorem decode_append {depth : Nat} {doc rest : Text} {v : Json} (hdoc : IsDocument doc v)
    (hfits : Fits depth v) (hstops : Stops goesOn rest) (hrest : skipSpace rest ≠ []) :
    decodeWithin depth (doc ++ rest) =
      .error (.malformed .extraData (skipSpace rest).length) := by
  -- what is appended cannot put a byte order mark in front
  have hmark : (doc ++ rest).head? ≠ some '\ufeff' := by
    have hne : doc ≠ [] := by
      obtain ⟨sp, t, sp', _, ht, _, rfl⟩ := hdoc
      simp [ht.begins.1]
    rw [List.head?_append_of_ne_nil doc hne]
    exact head?_of_isDocument hdoc
  obtain ⟨sp, t, sp', hsp, ht, hsp', rfl⟩ := hdoc
  have hskip : skipSpace (sp ++ (t ++ sp') ++ rest) = t ++ (sp' ++ rest) := by
    rw [List.append_assoc, List.append_assoc]
    exact skipSpace_append hsp (ht.stops_space (sp' ++ rest))
  -- the value is read up to the white space behind it, and that is skipped with the rest
  have hvalue := (ht.reads (2 * (sp ++ (t ++ sp') ++ rest).length + 2) depth (sp' ++ rest)
    (by simp only [List.length_append]; omega) (stops_goesOn hsp' hstops)).1 hfits
  have hbehind : skipSpace (sp' ++ rest) = skipSpace rest := List.dropWhile_append_of_pos hsp'
  rw [decodeWithin, if_neg hmark, hskip, hvalue]
  simp only [bind, Except.bind, hbehind]
  cases hleft : skipSpace rest with
  | nil => exact absurd hleft hrest
  | cons c left => rfl

/-- The complaint is about the letter at the end, wherever that is. -/
theorem decode_extra (depth n : Nat) :
    decodeWithin depth ('1' :: (List.replicate n ' ' ++ ['x'])) =
      .error (.malformed .extraData 1) := by
  have hone : SpellsNumber ['1'] (.integer 1) :=
    .integer false (.inr ⟨⟨nofun, List.forall_mem_singleton.mpr (by decide)⟩, by decide⟩)
  have hdoc : IsDocument ['1'] (.integer 1) :=
    ⟨[], ['1'], [], spaces_nil, .number hone, spaces_nil, rfl⟩
  have hfits : Fits depth (.integer 1) := Nat.one_lt_pow (by decide) (by decide)
  have hspaces : Spaces (List.replicate n ' ') := by
    intro c hc
    rw [List.eq_of_mem_replicate hc]
    rfl
  have hletter : skipSpace (List.replicate n ' ' ++ ['x']) = ['x'] :=
    skipSpace_append hspaces (stops_cons (by decide))
  have hend : Stops goesOn (List.replicate n ' ' ++ ['x']) :=
    stops_goesOn hspaces (stops_cons (by decide))
  have hrefused := decode_append hdoc hfits hend (by rw [hletter]; exact nofun)
  rw [hletter] at hrefused
  exact hrefused

end ScriptDiagnosis.Json
