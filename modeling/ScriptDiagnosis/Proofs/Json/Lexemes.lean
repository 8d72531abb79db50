/-
  ScriptDiagnosis/Proofs/Json/Lexemes.lean
  ========================================
  The readers of the smallest parts: white space, strings, numbers and words.  Each takes from
  the beginning of a text exactly what the grammar says, in both directions: what it takes is
  spelled (`spellsString_of_stringBody`, `spellsNumber_of_number`), and what is spelled it takes,
  whatever stands behind a string or a word, and behind a number anything that does not go on
  with it (`stringBody_append`, `number_append`).
-/
import Mathlib.Data.List.Basic
import ScriptDiagnosis.Proofs.Except
import ScriptDiagnosis.Proofs.Json.Grammar

namespace ScriptDiagnosis.Json
open Text

/-! ### White space -/

theorem skipSpace_append {sp t : Text} (hsp : Spaces sp) (ht : Stops isSpace t) :
    skipSpace (sp ++ t) = t :=
  dropWhile_append_of_stops hsp ht

theorem exists_skipSpace (t : Text) : ∃ sp, Spaces sp ∧ t = sp ++ skipSpace t :=
  ⟨t.takeWhile isSpace, mem_takeWhile, List.takeWhile_append_dropWhile.symm⟩

theorem Spaces.skipSpace {sp : Text} (h : Spaces sp) : Json.skipSpace sp = [] := by
  have happend := skipSpace_append h stops_nil
  rwa [List.append_nil] at happend

/-! ### Strings -/

variable {opening : Nat}

theorem stringCodes_plain {c : Char} (hcontrol : 0x20 ≤ c.toNat) (hquote : c ≠ '\"')
    (hslash : c ≠ '\\') (t : Text) :
    stringCodes opening (c :: t) =
      stringCodes opening t >>= fun r => pure (c.toNat :: r.1, r.2) := by
  rw [stringCodes.eq_6 _ _ _ hquote (fun h => absurd h hslash)
    (fun _ _ _ _ _ _ h => absurd h hslash) (fun _ _ h => absurd h hslash),
    if_neg (Nat.not_lt.mpr hcontrol)]

theorem stringCodes_letter {x ch : Char} (hx : escaped? x = some ch) (t : Text) :
    stringCodes opening ('\\' :: x :: t) =
      stringCodes opening t >>= fun r => pure (ch.toNat :: r.1, r.2) := by
  have hu : x ≠ 'u' := by
    rintro rfl
    cases hx
  rw [stringCodes.eq_5 _ _ _ (fun _ _ _ _ _ _ h => absurd h hu), if_neg hu, hx]

theorem stringCodes_code {a b c d e : Char} {n : Nat} (hn : code? a b c d = some n) (t : Text) :
    stringCodes opening ('\\' :: 'u' :: a :: b :: c :: d :: e :: t) =
      stringCodes opening (e :: t) >>= fun r => pure (n :: r.1, r.2) := by
  rw [stringCodes.eq_4, hn]

/-- The codes that are spelled up to a quote are read up to it, whatever follows. -/
theorem stringCodes_append {inner : Text} {codes : List Nat} (h : SpellsCodes inner codes)
    (rest : Text) : stringCodes opening (inner ++ '\"' :: rest) = .ok (codes, rest) := by
  induction h with
  | nil => rfl
  | plain hcontrol hquote hslash _ ih =>
    rw [List.cons_append, stringCodes_plain hcontrol hquote hslash, ih]
    rfl
  | letter hx _ ih =>
    rw [List.cons_append, List.cons_append, stringCodes_letter hx, ih]
    rfl
  | @code a b c d n t codes hn _ ih =>
    -- something stands behind the digits, if only the closing quote
    obtain ⟨e, behind, hbehind⟩ : ∃ e behind, t ++ '\"' :: rest = e :: behind := by
      cases t with
      | nil => exact ⟨_, _, rfl⟩
      | cons e t => exact ⟨_, _, rfl⟩
    simp only [List.cons_append]
    rw [hbehind] at ih ⊢
    rw [stringCodes_code hn, ih]
    rfl

/-- Conversely, whatever codes are read were spelled up to a quote. -/
theorem spellsCodes_of_stringCodes {t rest : Text} {codes : List Nat}
    (h : stringCodes opening t = .ok (codes, rest)) :
    ∃ inner, SpellsCodes inner codes ∧ t = inner ++ '\"' :: rest := by
  -- on the reader's own cases: four of them read on, the others are faults
  induction t using stringCodes.induct generalizing codes with
  | case1 => cases h
  | case2 behind =>
    cases h
    exact ⟨[], .nil, rfl⟩
  | case3 => cases h
  | case4 a b c d e behind hnone =>
    rw [stringCodes.eq_4, hnone] at h
    cases h
  | case5 a b c d e behind n hn ih =>
    rw [stringCodes_code hn] at h
    obtain ⟨⟨more, tail⟩, hmore, h⟩ := bind_eq_ok_iff.mp h
    cases h
    obtain ⟨inner, hinner, hbehind⟩ := ih hmore
    exact ⟨_, .code hn hinner, by rw [hbehind]; rfl⟩
  | case6 behind hshort =>
    rw [stringCodes.eq_5 _ _ _ hshort, if_pos rfl] at h
    cases h
  | case7 x behind hshort hu hnone =>
    rw [stringCodes.eq_5 _ _ _ hshort, if_neg hu, hnone] at h
    cases h
  | case8 x behind _ _ ch hx ih =>
    rw [stringCodes_letter hx] at h
    obtain ⟨⟨more, tail⟩, hmore, h⟩ := bind_eq_ok_iff.mp h
    cases h
    obtain ⟨inner, hinner, hbehind⟩ := ih hmore
    exact ⟨_, .letter hx hinner, by rw [hbehind]; rfl⟩
  | case9 x behind hquote hend hcode hescape hcontrol =>
    rw [stringCodes.eq_6 _ _ _ hquote hend hcode hescape, if_pos hcontrol] at h
    cases h
  | case10 x behind hquote hend hcode hescape hcontrol ih =>
    have hslash : x ≠ '\\' := by
      intro hx
      cases behind with
      | nil => exact hend hx rfl
      | cons y behind => exact hescape y behind hx rfl
    rw [stringCodes_plain (Nat.not_lt.mp hcontrol) hquote hslash] at h
    obtain ⟨⟨more, tail⟩, hmore, h⟩ := bind_eq_ok_iff.mp h
    cases h
    obtain ⟨inner, hinner, hbehind⟩ := ih hmore
    exact ⟨_, .plain (Nat.not_lt.mp hcontrol) hquote hslash hinner, by rw [hbehind]; rfl⟩

theorem SpellsString.exists_body {t s : Text} (h : SpellsString t s) :
    ∃ body, t = '\"' :: body ∧ ∀ rest, stringBody (body ++ rest) = .ok (s, rest) := by
  obtain ⟨inner, codes, hcodes, rfl, rfl⟩ := h
  refine ⟨inner ++ ['\"'], rfl, fun rest => ?_⟩
  rw [List.append_assoc, List.singleton_append, stringBody, stringCodes_append hcodes]
  rfl

theorem spellsString_of_stringBody {t s rest : Text} (h : stringBody t = .ok (s, rest)) :
    ∃ k, SpellsString k s ∧ '\"' :: t = k ++ rest := by
  rw [stringBody] at h
  obtain ⟨⟨codes, tail⟩, hcodes, h⟩ := bind_eq_ok_iff.mp h
  cases h
  obtain ⟨inner, hinner, rfl⟩ := spellsCodes_of_stringCodes hcodes
  exact ⟨_, ⟨inner, codes, hinner, rfl, rfl⟩, by simp⟩

/-! ### Numbers -/

/-- What a number may go on with. -/
def goesOn (c : Char) : Bool := isDecimalDigit c || c = '.' || c = 'e' || c = 'E'

theorem digits_stop {t : Text} (h : Stops goesOn t) : Stops isDecimalDigit t :=
  h.weaken fun c hc => by simp [goesOn, hc]

theorem fraction_of_stops {t : Text} (h : Stops goesOn t) : fraction t = ([], t) := by
  rw [fraction.eq_def]
  split
  · exact absurd (h _ rfl) (by decide)
  · rfl

theorem exponent_of_stops {t : Text} (h : Stops goesOn t) : exponent t = ([], t) := by
  cases t with
  | nil => rfl
  | cons c t =>
    have hc := h c rfl
    simp only [goesOn, Bool.or_eq_false_iff, decide_eq_false_iff_not] at hc
    simp [exponent, hc]

theorem fraction_append {frac t : Text} (h : IsFraction frac) (ht : Stops isDecimalDigit t) :
    fraction (frac ++ t) = (frac, t) := by
  obtain ⟨ds, ⟨hne, hds⟩, rfl⟩ := h
  rw [List.cons_append, fraction, takeWhile_append_of_stops hds ht,
    dropWhile_append_of_stops hds ht]
  simp [hne]

def isSignChar (c : Char) : Bool := c = '+' || c = '-'

/-- An exponent needs digits: a letter with a sign and no digits behind it is left alone. -/
theorem exponent_eq {e : Char} (he : e = 'e' ∨ e = 'E') {sign digits : Text}
    (hsign : IsSign sign) (hplain : sign = [] → Stops isSignChar digits) :
    exponent (e :: (sign ++ digits)) =
      if (digits.takeWhile isDecimalDigit).isEmpty then ([], e :: (sign ++ digits))
      else (e :: (sign ++ digits.takeWhile isDecimalDigit), digits.dropWhile isDecimalDigit) := by
  have he : (decide (e = 'e') || decide (e = 'E')) = true := by simpa using he
  rcases hsign with rfl | rfl | rfl
  · have hstops := hplain rfl
    rw [List.nil_append, exponent.eq_3, if_pos he]
    · rfl
    · rintro r rfl
      exact absurd (hstops _ rfl) (by decide)
    · rintro r rfl
      exact absurd (hstops _ rfl) (by decide)
  · rw [List.singleton_append, exponent.eq_1, if_pos he]
    rfl
  · rw [List.singleton_append, exponent.eq_2, if_pos he]
    rfl

theorem exists_sign (t : Text) :
    ∃ sign digits, IsSign sign ∧ (sign = [] → Stops isSignChar digits) ∧ t = sign ++ digits := by
  cases t with
  | nil => exact ⟨[], [], .inl rfl, fun _ => stops_nil, rfl⟩
  | cons c t =>
    by_cases hplus : c = '+'
    · exact ⟨['+'], t, .inr (.inl rfl), nofun, by rw [hplus]; rfl⟩
    · by_cases hminus : c = '-'
      · exact ⟨['-'], t, .inr (.inr rfl), nofun, by rw [hminus]; rfl⟩
      · exact ⟨[], c :: t, .inl rfl, fun _ => stops_cons (by simp [isSignChar, hplus, hminus]), rfl⟩

theorem ne_of_isDecimalDigit {d c : Char} (hd : isDecimalDigit d = true)
    (hc : isDecimalDigit c = false) : d ≠ c := by
  rintro rfl
  rw [hd] at hc
  cases hc

theorem isSignChar_of_isDecimalDigit {d : Char} (h : isDecimalDigit d = true) :
    isSignChar d = false := by
  have hne := fun c => ne_of_isDecimalDigit (c := c) h
  simp [isSignChar, hne '+' (by decide), hne '-' (by decide)]

theorem exponent_append {exp t : Text} (h : IsExponent exp) (ht : Stops isDecimalDigit t) :
    exponent (exp ++ t) = (exp, t) := by
  obtain ⟨e, sign, ds, he, hsign, ⟨hne, hds⟩, rfl⟩ := h
  have hplain : sign = [] → Stops isSignChar (ds ++ t) := fun _ =>
    stops_append hne (fun c hc => isSignChar_of_isDecimalDigit (hds c hc)) t
  rw [List.cons_append, List.append_assoc, exponent_eq he hsign hplain,
    takeWhile_append_of_stops hds ht, dropWhile_append_of_stops hds ht, if_neg (by simp [hne])]

theorem wholeDigits_append {ds t : Text} (h : IsWhole ds) (ht : Stops isDecimalDigit t) :
    wholeDigits (ds ++ t) = ds := by
  rcases h with rfl | ⟨⟨hne, hds⟩, hzero⟩
  · rfl
  · obtain ⟨d, more, rfl⟩ := List.exists_cons_of_ne_nil hne
    have htake := takeWhile_append_of_stops hds ht
    rw [wholeDigits.eq_def]
    split
    · next heq => cases heq; exact absurd rfl hzero
    · exact htake

theorem IsWhole.digits {ds : Text} (h : IsWhole ds) : Digits ds := by
  rcases h with rfl | ⟨hds, _⟩
  · exact ⟨by decide, List.forall_mem_singleton.mpr (by decide)⟩
  · exact hds

theorem exists_fraction (t : Text) :
    ∃ frac rest, fraction t = (frac, rest) ∧ t = frac ++ rest ∧ (frac = [] ∨ IsFraction frac) := by
  rw [fraction.eq_def]
  split
  · next behind =>
    dsimp only
    split
    · exact ⟨_, _, rfl, rfl, .inl rfl⟩
    · next hne =>
      refine ⟨_, _, rfl, ?_, .inr ⟨_, ⟨by simpa using hne, mem_takeWhile⟩, rfl⟩⟩
      rw [List.cons_append, List.takeWhile_append_dropWhile]
  · exact ⟨_, _, rfl, rfl, .inl rfl⟩

theorem exists_exponent (t : Text) :
    ∃ exp rest, exponent t = (exp, rest) ∧ t = exp ++ rest ∧ (exp = [] ∨ IsExponent exp) := by
  cases t with
  | nil => exact ⟨_, _, rfl, rfl, .inl rfl⟩
  | cons e behind =>
    -- only behind one of the two letters can there be an exponent
    by_cases he : e = 'e' ∨ e = 'E'
    · obtain ⟨sign, digits, hsign, hplain, rfl⟩ := exists_sign behind
      rw [exponent_eq he hsign hplain]
      split
      · exact ⟨_, _, rfl, rfl, .inl rfl⟩
      · next hne =>
        refine ⟨_, _, rfl, ?_,
          .inr ⟨e, sign, _, he, hsign, ⟨by simpa using hne, mem_takeWhile⟩, rfl⟩⟩
        rw [List.cons_append, List.append_assoc, List.takeWhile_append_dropWhile]
    · refine ⟨[], e :: behind, ?_, rfl, .inl rfl⟩
      rw [exponent.eq_def]
      exact if_neg (by simpa using he)

/-- The digits of an integer are a prefix of the text: none, a single zero, or a row that does
    not begin with one. -/
theorem exists_wholeDigits (t : Text) :
    ∃ rest, t = wholeDigits t ++ rest ∧ (wholeDigits t = [] ∨ IsWhole (wholeDigits t)) := by
  rw [wholeDigits.eq_def]
  split
  · next behind => exact ⟨behind, rfl, .inr (.inl rfl)⟩
  · next hzero =>
    refine ⟨t.dropWhile isDecimalDigit, List.takeWhile_append_dropWhile.symm, ?_⟩
    by_cases hne : t.takeWhile isDecimalDigit = []
    · exact .inl hne
    · refine .inr (.inr ⟨⟨hne, mem_takeWhile⟩, ?_⟩)
      intro hhead
      cases t with
      | nil => exact hne rfl
      | cons c behind =>
        rw [List.takeWhile_cons] at hhead hne
        split at hhead
        · cases hhead
          exact hzero behind rfl
        · cases hhead

/-! ### The size of an integer -/

theorem digitValue?_of_isDecimalDigit {c : Char} (h : isDecimalDigit c = true) :
    digitValue? c = some (c.toNat - '0'.toNat) := by
  simp only [isDecimalDigit, Bool.and_eq_true, decide_eq_true_eq] at h
  obtain ⟨hlow, hhigh⟩ := h
  have hlow : 0x30 ≤ c.toNat := hlow
  have hhigh : c.toNat ≤ 0x39 := hhigh
  have hzero : '0'.toNat = 0x30 := rfl
  rw [digitValue?, digitRanges, List.find?_cons_of_pos (by simp [hlow, hhigh]), Option.map_some,
    hzero]
  congr 1
  omega

theorem digitsValue_eq {ds : Text} (h : ∀ c ∈ ds, isDecimalDigit c = true) :
    digitsValue ds = Nat.ofDigitChars 10 ds 0 := by
  rw [digitsValue, Nat.ofDigitChars_eq_foldl]
  refine List.foldl_ext _ _ _ fun n c hc => ?_
  rw [digitValue?_of_isDecimalDigit (h c hc)]

/-- A number of so many digits is less than that power of ten. -/
theorem ofDigitChars_lt {ds : Text} (h : ∀ c ∈ ds, isDecimalDigit c = true) :
    Nat.ofDigitChars 10 ds 0 < 10 ^ ds.length := by
  induction ds with
  | nil => decide
  | cons c ds ih =>
    have hrest := ih fun c hc => h c (List.mem_cons_of_mem _ hc)
    have hc : c.toNat - '0'.toNat ≤ 9 := by
      have hdigit := h c (.head _)
      simp only [isDecimalDigit, Bool.and_eq_true, decide_eq_true_eq] at hdigit
      have hhigh : c.toNat ≤ '9'.toNat := hdigit.2
      have hzero : '0'.toNat = 48 := rfl
      have hnine : '9'.toNat = 57 := rfl
      omega
    rw [Nat.ofDigitChars_cons, Nat.ofDigitChars_eq_ofDigitChars_zero, List.length_cons,
      Nat.mul_zero, Nat.zero_add]
    -- the first digit is at most nine
    calc 10 ^ ds.length * (c.toNat - '0'.toNat) + Nat.ofDigitChars 10 ds 0
        < 10 ^ ds.length * 9 + 10 ^ ds.length :=
          Nat.add_lt_add_of_le_of_lt (Nat.mul_le_mul_left _ hc) hrest
      _ = 10 ^ (ds.length + 1) := by rw [Nat.pow_succ]; omega

/-- It is at least the power before, unless it begins with a zero. -/
theorem le_ofDigitChars {c : Char} (hc : isDecimalDigit c = true) (hzero : c ≠ '0') (ds : Text) :
    10 ^ ds.length ≤ Nat.ofDigitChars 10 (c :: ds) 0 := by
  have hpos : 1 ≤ c.toNat - '0'.toNat := by
    simp only [isDecimalDigit, Bool.and_eq_true, decide_eq_true_eq] at hc
    have hlow : '0'.toNat ≤ c.toNat := hc.1
    have hne : c.toNat ≠ '0'.toNat := fun heq => hzero (Char.toNat_inj.mp heq)
    omega
  rw [Nat.ofDigitChars_cons, Nat.ofDigitChars_eq_ofDigitChars_zero, Nat.mul_zero, Nat.zero_add]
  calc 10 ^ ds.length = 10 ^ ds.length * 1 := (Nat.mul_one _).symm
    _ ≤ 10 ^ ds.length * (c.toNat - '0'.toNat) := Nat.mul_le_mul_left _ hpos
    _ ≤ _ := Nat.le_add_right _ _

/-- A whole number has at most so many digits exactly when it is below that power of ten. -/
theorem length_le_iff {ds : Text} (h : IsWhole ds) {k : Nat} (hk : 0 < k) :
    ds.length ≤ k ↔ digitsValue ds < 10 ^ k := by
  rw [digitsValue_eq h.digits.2]
  constructor
  · intro hle
    exact Nat.lt_of_lt_of_le (ofDigitChars_lt h.digits.2) (Nat.pow_le_pow_right (by decide) hle)
  · intro hlt
    rcases h with rfl | ⟨⟨hne, hds⟩, hzero⟩
    · exact hk
    · obtain ⟨c, more, rfl⟩ := List.exists_cons_of_ne_nil hne
      have hle := le_ofDigitChars (hds c (.head _)) (by simpa using hzero) more
      have hpow := Nat.lt_of_le_of_lt hle hlt
      exact (Nat.pow_lt_pow_iff_right (by decide)).mp hpow

theorem natAbs_signed (negative : Bool) (n : Nat) : (signed negative n).natAbs = n := by
  cases negative
  · rfl
  · exact Int.natAbs_neg n

/-! ### Whole numbers and decimals -/

/-- The reader of numbers with the sign taken off. -/
theorem number_eq {negative : Bool} {body : Text}
    (hbody : negative = false → body.head? ≠ some '-') :
    number (minus negative ++ body) =
      if (wholeDigits body).isEmpty then fail .expectingValue (minus negative ++ body)
      else match fraction (body.drop (wholeDigits body).length) with
        | (frac, rest) => match exponent rest with
          | (exp, rest) =>
            if frac.isEmpty && exp.isEmpty then
              if (wholeDigits body).length > maxDigits then
                .error (.tooManyDigits (wholeDigits body).length)
              else .ok (.integer (signed negative (digitsValue (wholeDigits body))), rest)
            else .ok (.decimal (minus negative ++ wholeDigits body ++ frac ++ exp), rest) := by
  cases negative with
  | true => exact number.eq_1 body
  | false =>
    refine number.eq_2 body ?_
    rintro rest rfl
    exact hbody rfl rfl

theorem exists_minus (t : Text) :
    ∃ negative body, (negative = false → body.head? ≠ some '-') ∧ t = minus negative ++ body := by
  by_cases h : t.head? = some '-'
  · cases t with
    | nil => cases h
    | cons c t => cases h; exact ⟨true, t, nofun, rfl⟩
  · exact ⟨false, t, fun _ => h, rfl⟩

theorem head?_ne_minus {ds : Text} (h : IsWhole ds) (t : Text) : (ds ++ t).head? ≠ some '-' := by
  obtain ⟨hne, hds⟩ := h.digits
  obtain ⟨d, more, rfl⟩ := List.exists_cons_of_ne_nil hne
  intro hhead
  cases hhead
  exact absurd (hds _ (.head _)) (by decide)

/-- A number that is spelled is read where nothing of it goes on, if its digits are not too many.
    -/
theorem number_append {t rest : Text} {v : Json} (h : SpellsNumber t v)
    (hrest : Stops goesOn rest) (depth : Nat) :
    ReadsAs (number (t ++ rest)) (v, rest) (Fits depth v) := by
  cases h with
  | integer negative hds =>
    next ds =>
    have hwhole := wholeDigits_append hds (digits_stop hrest)
    have hne := hds.digits.1
    rw [List.append_assoc, number_eq fun _ => head?_ne_minus hds rest, hwhole,
      if_neg (by simpa using hne), List.drop_left, fraction_of_stops hrest]
    dsimp only
    rw [exponent_of_stops hrest]
    -- the limit on digits is a limit on the size of the number
    have hsize := length_le_iff hds (show 0 < maxDigits by decide)
    have hfits : Fits depth (.integer (signed negative (digitsValue ds))) ↔
        ds.length ≤ maxDigits := by
      rw [Fits, natAbs_signed, hsize]
    rw [hfits]
    constructor
    · intro hle
      simp [Nat.not_lt.mpr hle]
    · intro hlt
      exact ⟨.tooManyDigits ds.length, trivial, by simp [Nat.not_le.mp hlt]⟩
  | decimal negative hds hfrac hexp hne =>
    next ds frac exp =>
    -- first the exponent, then the fraction before it, then the digits before both
    have hexpRest : exponent (exp ++ rest) = (exp, rest) := by
      rcases hexp with rfl | hexp
      · exact exponent_of_stops hrest
      · exact exponent_append hexp (digits_stop hrest)
    have hexpStops : Stops isDecimalDigit (exp ++ rest) := by
      rcases hexp with rfl | ⟨e, sign, es, rfl | rfl, _, _, rfl⟩
      · exact digits_stop hrest
      · exact stops_cons (by decide)
      · exact stops_cons (by decide)
    have hfracRest : fraction (frac ++ (exp ++ rest)) = (frac, exp ++ rest) := by
      rcases hfrac with rfl | hfrac
      · rw [List.nil_append, fraction.eq_2]
        intro behind hbehind
        rcases hexp with rfl | ⟨e, sign, es, rfl | rfl, _, _, rfl⟩
        · exact absurd (hrest '.' (by rw [← List.nil_append rest, hbehind]; rfl)) (by decide)
        · cases hbehind
        · cases hbehind
      · exact fraction_append hfrac hexpStops
    have hfracStops : Stops isDecimalDigit (frac ++ (exp ++ rest)) := by
      rcases hfrac with rfl | ⟨fs, _, rfl⟩
      · exact hexpStops
      · exact stops_cons (by decide)
    have hempty : ¬ (frac.isEmpty && exp.isEmpty) = true := by
      rw [Bool.and_eq_true, List.isEmpty_iff, List.isEmpty_iff]
      exact fun h => hne.elim (· h.1) (· h.2)
    simp only [List.append_assoc]
    rw [number_eq fun _ => head?_ne_minus hds _, wholeDigits_append hds hfracStops,
      if_neg (by simpa using hds.digits.1), List.drop_left, hfracRest]
    dsimp only
    rw [hexpRest]
    dsimp only
    rw [if_neg hempty]
    exact ⟨fun _ => by simp only [List.append_assoc], fun hfits => absurd trivial hfits⟩

/-- Conversely, whatever is read as a number was spelled, and its digits were not too many. -/
theorem spellsNumber_of_number {t rest : Text} {v : Json} (h : number t = .ok (v, rest)) :
    ∃ s, SpellsNumber s v ∧ t = s ++ rest ∧ ∀ depth, Fits depth v := by
  obtain ⟨negative, body, hbody, rfl⟩ := exists_minus t
  obtain ⟨behind, hbehind, hwhole⟩ := exists_wholeDigits body
  rw [number_eq hbody] at h
  split at h
  · cases h
  · next hne =>
    have hds : IsWhole (wholeDigits body) := by
      rcases hwhole with hnil | hds
      · rw [hnil] at hne; exact absurd rfl hne
      · exact hds
    have hdrop : body.drop (wholeDigits body).length = behind := by
      have hdropped := congrArg (List.drop (wholeDigits body).length) hbehind
      rwa [List.drop_left] at hdropped
    rw [hdrop] at h
    -- the text, cut where each of the three readers stops
    obtain ⟨frac, r, hfrac, hr, hfraction⟩ := exists_fraction behind
    obtain ⟨exp, r', hexp, hr', hexponent⟩ := exists_exponent r
    rw [hfrac] at h
    dsimp only at h
    rw [hexp] at h
    dsimp only at h
    split at h
    · next hempty =>
      simp only [Bool.and_eq_true, List.isEmpty_iff] at hempty
      obtain ⟨rfl, rfl⟩ := hempty
      split at h
      · cases h
      · next hle =>
        cases h
        refine ⟨_, .integer negative hds, ?_, fun depth => ?_⟩
        · rw [List.append_assoc, ← List.nil_append rest, ← hr', ← List.nil_append r, ← hr,
            ← hbehind]
        · rw [Fits, natAbs_signed, ← length_le_iff hds (by decide)]
          exact Nat.not_lt.mp hle
    · next hempty =>
      cases h
      refine ⟨_, .decimal negative hds hfraction hexponent ?_, ?_, fun _ => trivial⟩
      · rw [Bool.and_eq_true, List.isEmpty_iff, List.isEmpty_iff] at hempty
        exact Decidable.not_and_iff_not_or_not.mp hempty
      · conv => lhs; rw [hbehind, hr, hr']
        simp only [List.append_assoc]

/-! ### Words -/

theorem word?_append {w : Text × Json} (hw : w ∈ words) (rest : Text) :
    word? (w.1 ++ rest) = some (w.2, rest) := by
  simp only [words, List.mem_cons, List.not_mem_nil, or_false] at hw
  rcases hw with rfl | rfl | rfl | rfl | rfl | rfl <;> rfl

theorem exists_word {t rest : Text} {v : Json} (h : word? t = some (v, rest)) :
    ∃ w ∈ words, w.2 = v ∧ t = w.1 ++ rest := by
  obtain ⟨w, hw, heq⟩ := Option.map_eq_some_iff.mp h
  cases heq
  have hbegins := List.find?_some hw
  obtain ⟨behind, rfl⟩ := List.isPrefixOf_iff_prefix.mp hbegins
  exact ⟨w, List.mem_of_find?_eq_some hw, rfl, by rw [List.drop_left]⟩

theorem fits_of_word {w : Text × Json} (hw : w ∈ words) (depth : Nat) : Fits depth w.2 := by
  simp only [words, List.mem_cons, List.not_mem_nil, or_false] at hw
  rcases hw with rfl | rfl | rfl | rfl | rfl | rfl <;> trivial

/-- A number begins with a digit, behind a minus sign or not. -/
theorem SpellsNumber.exists_digit {t : Text} {v : Json} (h : SpellsNumber t v) :
    ∃ negative d more, isDecimalDigit d = true ∧ t = minus negative ++ d :: more := by
  cases h with
  | integer negative hds =>
    obtain ⟨hne, hall⟩ := hds.digits
    obtain ⟨d, more, rfl⟩ := List.exists_cons_of_ne_nil hne
    exact ⟨negative, d, more, hall d (.head _), rfl⟩
  | decimal negative hds hfrac hexp hsome =>
    next ds frac exp =>
    obtain ⟨hne, hall⟩ := hds.digits
    obtain ⟨d, more, rfl⟩ := List.exists_cons_of_ne_nil hne
    exact ⟨negative, d, more ++ (frac ++ exp), hall d (.head _), by simp⟩

/-- No number is taken for a word. -/
theorem word?_of_spellsNumber {t : Text} {v : Json} (h : SpellsNumber t v) (rest : Text) :
    word? (t ++ rest) = none := by
  obtain ⟨negative, d, more, hd, rfl⟩ := h.exists_digit
  have hne := fun c hc => (ne_of_isDecimalDigit (c := c) hd hc).symm
  have hn := hne 'n' (by decide)
  have ht := hne 't' (by decide)
  have hf := hne 'f' (by decide)
  have hN := hne 'N' (by decide)
  have hI := hne 'I' (by decide)
  have hminus := hne '-' (by decide)
  cases negative <;> simp [word?, words, minus, hn, ht, hf, hN, hI, hminus]

end ScriptDiagnosis.Json
