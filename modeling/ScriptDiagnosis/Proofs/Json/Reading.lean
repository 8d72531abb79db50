/-
  ScriptDiagnosis/Proofs/Json/Reading.lean
  ========================================
  The reader against the grammar.  The main statements:

      decodeWithin depth doc = .ok v  ↔  IsDocument doc v ∧ Fits depth v  (decodeWithin_eq_ok_iff)
      IsDocument doc v  →  a value that does not fit is a limit       (decodeWithin_of_isDocument)

  They hold for every number of levels.  What is spelled is read, by induction on the rules of the
  grammar (`Spells.reads`); what is read is spelled, by induction on the steps of the reader
  (`sound`).
-/
import ScriptDiagnosis.Proofs.Json.Readers

namespace ScriptDiagnosis.Json
open Text

variable {α : Type} {fuel depth : Nat} {t rest : Text}

/-! ### What is spelled is read -/

/-- Where no value and no name begins. -/
def beginsNothing (c : Char) : Bool := isSpace c || c = ']' || c = '\x7d' || c = '\ufeff'

theorem begins_append {p : Char → Bool} (h : t ≠ [] ∧ Stops p t) (rest : Text) :
    t ++ rest ≠ [] ∧ Stops p (t ++ rest) := by
  obtain ⟨hne, hstops⟩ := h
  obtain ⟨c, more, rfl⟩ := List.exists_cons_of_ne_nil hne
  exact ⟨nofun, stops_cons (hstops c rfl)⟩

theorem SpellsString.begins {k s : Text} (h : SpellsString k s) :
    k ≠ [] ∧ Stops beginsNothing k := by
  obtain ⟨inner, codes, _, rfl, _⟩ := h
  exact ⟨List.cons_ne_nil _ _, stops_cons (by decide)⟩

/-- Whatever is spelled begins with a character that begins something: no white space and no
    closing bracket. -/
theorem Spells.begins {p : Phrase} (h : Spells t p) : t ≠ [] ∧ Stops beginsNothing t := by
  induction h with
  | word hw =>
    simp only [words, List.mem_cons, List.not_mem_nil, or_false] at hw
    rcases hw with rfl | rfl | rfl | rfl | rfl | rfl
    all_goals exact ⟨List.cons_ne_nil _ _, stops_cons (by decide)⟩
  | number h =>
    obtain ⟨negative, d, more, hd, rfl⟩ := h.exists_digit
    cases negative with
    | true => exact ⟨List.cons_ne_nil _ _, stops_cons (by decide)⟩
    | false =>
      -- a digit is none of the characters in question
      have hne := fun c => ne_of_isDecimalDigit (c := c) hd
      refine ⟨List.cons_ne_nil _ _, stops_cons ?_⟩
      simp [beginsNothing, isSpace, hne ' ' (by decide), hne '\t' (by decide),
        hne '\n' (by decide), hne '\r' (by decide), hne ']' (by decide), hne '\x7d' (by decide),
        hne '\ufeff' (by decide)]
  | string h => exact h.begins
  | emptyArray _ | array _ _ _ | emptyObject _ | object _ _ _ =>
    exact ⟨List.cons_ne_nil _ _, stops_cons (by decide)⟩
  | lastItem _ _ ih => exact begins_append ih _
  | item _ _ _ _ ih _ => exact begins_append (begins_append ih _) _
  | entry hk _ _ _ _ _ => exact begins_append (begins_append hk.begins _) _
  | lastMember _ ih => exact ih
  | member _ _ _ ih _ => exact begins_append ih _

theorem Spells.stops_space {p : Phrase} (h : Spells t p) (rest : Text) :
    Stops isSpace (t ++ rest) :=
  (begins_append h.begins rest).2.weaken fun c hc => by simp [beginsNothing, hc]

/-- White space, or anything else that a number does not go on with, stands behind it. -/
theorem stops_goesOn {sp : Text} (hsp : Spaces sp) (h : Stops goesOn rest) :
    Stops goesOn (sp ++ rest) := by
  cases sp with
  | nil => exact h
  | cons c sp =>
    have hc := hsp c (.head _)
    simp only [isSpace, Bool.or_eq_true, decide_eq_true_eq] at hc
    rcases hc with ((rfl | rfl) | rfl) | rfl <;> exact stops_cons (by decide)

/-- What the readers make of a text that spells a phrase, with enough steps for its length and
    something behind it that can stand there. -/
def Reads (t : Text) : Phrase → Prop
  | .value v => ∀ fuel depth rest, 2 * t.length ≤ fuel → Stops goesOn rest →
      ReadsAs (value fuel depth (t ++ rest)) (v, rest) (Fits depth v)
  | .items vs => ∀ fuel depth rest, 2 * t.length < fuel →
      ReadsAs (items fuel depth (t ++ ']' :: rest)) (vs, rest) (FitItems depth vs)
  | .entry name v => ∀ fuel depth rest, 2 * t.length ≤ fuel → Stops goesOn rest →
      Stops isSpace rest →
      ReadsAs (entry fuel depth (t ++ rest)) ((name, v), rest) (Fits depth v)
  | .members ms => ∀ fuel depth rest, 2 * t.length < fuel →
      ReadsAs (members fuel depth (t ++ '\x7d' :: rest)) (ms, rest) (FitMembers depth ms)

/-- A value has at least one character, and so at least one step. -/
theorem reads_value {v : Json}
    (h : ∀ fuel depth rest, 2 * t.length ≤ fuel + 1 → Stops goesOn rest →
      ReadsAs (value (fuel + 1) depth (t ++ rest)) (v, rest) (Fits depth v)) (hne : t ≠ []) :
    Reads t (.value v) := by
  intro fuel depth rest hfuel hrest
  have hpos := List.length_pos_iff.mpr hne
  obtain ⟨fuel, rfl⟩ := Nat.exists_eq_succ_of_ne_zero (show fuel ≠ 0 by omega)
  exact h fuel depth rest hfuel hrest

theorem reads_item {v : Json} {sp : Text} (h : Reads t (.value v)) (hsp : Spaces sp)
    (hfuel : 2 * t.length ≤ fuel) (hgoes : Stops goesOn rest) (hspace : Stops isSpace rest) :
    ReadsAs (item fuel depth (t ++ (sp ++ rest))) (v, rest) (Fits depth v) := by
  refine (h fuel depth _ hfuel (stops_goesOn hsp hgoes)).map ?_
  dsimp only
  rw [skipSpace_append hsp hspace]
  rfl

theorem reads_items_last {v : Json} {sp : Text} (h : Reads t (.value v)) (hsp : Spaces sp) :
    Reads (t ++ sp) (.items [v]) := by
  intro fuel depth rest hfuel
  rw [List.length_append] at hfuel
  obtain ⟨fuel, rfl⟩ := Nat.exists_eq_succ_of_ne_zero (Nat.ne_zero_of_lt hfuel)
  rw [items_succ, List.append_assoc, FitItems, FitItems, and_true]
  exact row_last (reads_item h hsp (by omega) (stops_cons (by decide)) (stops_cons (by decide)))

/-- One item more; the fuel for it and the fuel for the rest are both there. -/
theorem reads_items_more {v : Json} {vs : List Json} {sp sp' more : Text}
    (h : Reads t (.value v)) (hsp : Spaces sp) (hsp' : Spaces sp')
    (hspells : Spells more (.items vs)) (hmore : Reads more (.items vs)) :
    Reads (t ++ sp ++ ',' :: (sp' ++ more)) (.items (v :: vs)) := by
  intro fuel depth rest hfuel
  simp only [List.length_append, List.length_cons] at hfuel
  obtain ⟨fuel, rfl⟩ := Nat.exists_eq_succ_of_ne_zero (Nat.ne_zero_of_lt hfuel)
  simp only [List.append_assoc, List.cons_append]
  rw [items_succ, FitItems]
  exact row_more (by decide)
    (reads_item h hsp (by omega) (stops_cons (by decide)) (stops_cons (by decide)))
    hsp' (hspells.stops_space _) (hmore fuel depth rest (by omega))

/-- A name, a colon and a value, with white space between them, make an entry. -/
theorem reads_entry {k name : Text} {v : Json} {sp sp' sp'' : Text} (hk : SpellsString k name)
    (hsp : Spaces sp) (hsp' : Spaces sp') (hspells : Spells t (.value v))
    (h : Reads t (.value v)) (hsp'' : Spaces sp'') :
    Reads (k ++ sp ++ ':' :: (sp' ++ (t ++ sp''))) (.entry name v) := by
  intro fuel depth rest hfuel hgoes hspace
  obtain ⟨body, rfl, hbody⟩ := hk.exists_body
  simp only [List.length_append, List.length_cons] at hfuel
  have hv := h fuel depth _ (by omega) (stops_goesOn hsp'' hgoes)
  have htail : skipSpace (sp ++ ':' :: (sp' ++ (t ++ (sp'' ++ rest)))) =
      ':' :: (sp' ++ (t ++ (sp'' ++ rest))) := skipSpace_append hsp (stops_cons (by decide))
  simp only [List.append_assoc, List.cons_append]
  rw [entry_eq (hbody _) htail, skipSpace_append hsp' (hspells.stops_space _)]
  refine hv.map ?_
  dsimp only
  rw [skipSpace_append hsp'' hspace]
  rfl

theorem reads_members_last {name : Text} {v : Json} (h : Reads t (.entry name v)) :
    Reads t (.members [(name, v)]) := by
  intro fuel depth rest hfuel
  obtain ⟨fuel, rfl⟩ := Nat.exists_eq_succ_of_ne_zero (Nat.ne_zero_of_lt hfuel)
  rw [members_succ, FitMembers, FitMembers, and_true]
  exact row_last (h fuel depth _ (by omega) (stops_cons (by decide)) (stops_cons (by decide)))

theorem reads_members_more {name sp more : Text} {v : Json} {ms : List (Text × Json)}
    (h : Reads t (.entry name v)) (hsp : Spaces sp) (hspells : Spells more (.members ms))
    (hmore : Reads more (.members ms)) :
    Reads (t ++ ',' :: (sp ++ more)) (.members ((name, v) :: ms)) := by
  intro fuel depth rest hfuel
  simp only [List.length_append, List.length_cons] at hfuel
  obtain ⟨fuel, rfl⟩ := Nat.exists_eq_succ_of_ne_zero (Nat.ne_zero_of_lt hfuel)
  simp only [List.append_assoc, List.cons_append]
  rw [members_succ, FitMembers]
  exact row_more (by decide)
    (h fuel depth _ (by omega) (stops_cons (by decide)) (stops_cons (by decide)))
    hsp (hspells.stops_space _) (hmore fuel depth rest (by omega))

section InBrackets

variable {opening close : Char} {wrap : List α → Json}
  {inside : Nat → Nat → Text → Except Fault (List α × Text)} {fit : Nat → List α → Prop}

theorem Brackets.reads_nothing (h : Brackets opening close wrap inside fit) {sp : Text}
    (hsp : Spaces sp) (hclose : isSpace close = false) :
    Reads (opening :: (sp ++ [close])) (.value (wrap [])) := by
  refine reads_value (fun fuel depth rest _ _ => ?_) nofun
  simp only [List.append_assoc, List.cons_append, List.nil_append]
  cases depth with
  | zero =>
    obtain ⟨f, hf, hdeep⟩ := h.too_deep fuel (sp ++ close :: rest)
    exact readsAs_of_limit hf hdeep (h.not_fits [])
  | succ depth =>
    rw [h.value_eq]
    exact readsAs_of_eq (bracketed_empty hsp hclose) ((h.fits_iff depth []).mpr (h.fit_nil depth))

/-- Brackets around a row are read as a value, one level further down. -/
theorem Brackets.reads_row (h : Brackets opening close wrap inside fit) {sp : Text} {as : List α}
    (hsp : Spaces sp) (hclose : beginsNothing close = true)
    (hbegins : t ≠ [] ∧ Stops beginsNothing t)
    (hinside : ∀ fuel depth rest, 2 * t.length < fuel →
      ReadsAs (inside fuel depth (t ++ close :: rest)) (as, rest) (fit depth as)) :
    Reads (opening :: (sp ++ (t ++ [close]))) (.value (wrap as)) := by
  refine reads_value (fun fuel depth rest hfuel _ => ?_) nofun
  simp only [List.length_append, List.length_cons, List.length_nil] at hfuel
  simp only [List.append_assoc, List.cons_append, List.nil_append]
  -- at the last level brackets are too deep, whatever they hold
  cases depth with
  | zero =>
    obtain ⟨f, hf, hdeep⟩ := h.too_deep fuel (sp ++ (t ++ close :: rest))
    exact readsAs_of_limit hf hdeep (h.not_fits as)
  | succ depth =>
    have hstops := (begins_append hbegins (close :: rest)).2
    have hspace : Stops isSpace (t ++ close :: rest) :=
      hstops.weaken fun c hc => by simp [beginsNothing, hc]
    have hhead : (t ++ close :: rest).head? ≠ some close := by
      intro hhead
      rw [hstops close hhead] at hclose
      cases hclose
    rw [h.value_eq, h.fits_iff]
    exact bracketed_row hsp hspace hhead (hinside fuel depth rest (by omega))

end InBrackets

theorem reads_string {s : Text} (h : SpellsString t s) : Reads t (.value (.string s)) := by
  refine reads_value (fun fuel depth rest _ _ => ?_) h.begins.1
  obtain ⟨body, rfl, hbody⟩ := h.exists_body
  rw [List.cons_append, value.eq_3, hbody]
  exact readsAs_of_eq rfl trivial

/-- **What the grammar spells is read,** whatever follows, by any fuel that is enough for its
    length. -/
theorem Spells.reads {p : Phrase} (h : Spells t p) : Reads t p := by
  -- on the rules of the grammar, one lemma for each
  induction h with
  | word hw =>
    refine reads_value (fun fuel depth rest _ _ => ?_) (Spells.word hw).begins.1
    exact readsAs_of_eq (value_of_word hw) (fits_of_word hw depth)
  | number h =>
    refine reads_value (fun fuel depth rest _ hrest => ?_) (Spells.number h).begins.1
    rw [value_of_spellsNumber h]
    exact number_append h hrest depth
  | string h => exact reads_string h
  | emptyArray hsp => exact arrayBrackets.reads_nothing hsp (by decide)
  | array hsp h ih => exact arrayBrackets.reads_row hsp (by decide) h.begins ih
  | emptyObject hsp => exact objectBrackets.reads_nothing hsp (by decide)
  | object hsp h ih => exact objectBrackets.reads_row hsp (by decide) h.begins ih
  | lastItem _ hsp ih => exact reads_items_last ih hsp
  | item _ hsp hsp' hrest ih ihrest => exact reads_items_more ih hsp hsp' hrest ihrest
  | entry hk hsp hsp' h hsp'' ih => exact reads_entry hk hsp hsp' h ih hsp''
  | lastMember _ ih => exact reads_members_last ih
  | member _ hsp hrest ih ihrest => exact reads_members_more ih hsp hrest ihrest

/-! ### What is read is spelled -/

/-- What the readers find with so many steps stands at the beginning of the text, spelled, and
    fits. -/
structure Sound (fuel : Nat) : Prop where
  value : ∀ {depth : Nat} {t rest : Text} {v : Json}, value fuel depth t = .ok (v, rest) →
    ∃ s, Spells s (.value v) ∧ t = s ++ rest ∧ Fits depth v
  items : ∀ {depth : Nat} {t rest : Text} {vs : List Json},
    items fuel depth t = .ok (vs, rest) →
    ∃ s, Spells s (.items vs) ∧ t = s ++ ']' :: rest ∧ FitItems depth vs
  members : ∀ {depth : Nat} {t rest : Text} {ms : List (Text × Json)},
    members fuel depth t = .ok (ms, rest) →
    ∃ s, Spells s (.members ms) ∧ t = s ++ '\x7d' :: rest ∧ FitMembers depth ms

theorem Sound.item (h : Sound fuel) {v : Json} (hitem : item fuel depth t = .ok (v, rest)) :
    ∃ s sp, Spells s (.value v) ∧ Spaces sp ∧ t = s ++ (sp ++ rest) ∧ Fits depth v := by
  obtain ⟨⟨w, tail⟩, hv, hitem⟩ := bind_eq_ok_iff.mp hitem
  cases hitem
  obtain ⟨s, hs, rfl, hfits⟩ := h.value hv
  obtain ⟨sp, hsp, htail⟩ := exists_skipSpace tail
  exact ⟨s, sp, hs, hsp, by rw [← htail], hfits⟩

/-- Items that are read with one unit of fuel more were spelled. -/
theorem Sound.items_succ (h : Sound fuel) {vs : List Json}
    (hitems : Json.items (fuel + 1) depth t = .ok (vs, rest)) :
    ∃ s, Spells s (.items vs) ∧ t = s ++ ']' :: rest ∧ FitItems depth vs := by
  rw [Json.items_succ] at hitems
  obtain ⟨v, tail, hitem, hend⟩ := exists_part_of_row hitems
  obtain ⟨s, sp, hs, hsp, rfl, hfits⟩ := h.item hitem
  rcases hend with ⟨rfl, rfl⟩ | ⟨more, ws, rfl, hmore, rfl⟩
  · exact ⟨s ++ sp, .lastItem hs hsp, (List.append_assoc ..).symm, hfits, trivial⟩
  · obtain ⟨s', hs', hskip, hfits'⟩ := h.items hmore
    obtain ⟨sp', hsp', hmore⟩ := exists_skipSpace more
    refine ⟨_, .item hs hsp hsp' hs', ?_, hfits, hfits'⟩
    rw [hmore, hskip]
    simp only [List.append_assoc, List.cons_append]

theorem Sound.entry (h : Sound fuel) {e : Text × Json}
    (hentry : entry fuel depth t = .ok (e, rest)) :
    ∃ s, Spells s (.entry e.1 e.2) ∧ t = s ++ rest ∧ Fits depth e.2 := by
  obtain ⟨body, tail, more, left, rfl, hname, hcolon, hv, rfl⟩ := exists_parts_of_entry hentry
  obtain ⟨k, hk, hbody⟩ := spellsString_of_stringBody hname
  obtain ⟨sp, hsp, htail⟩ := exists_skipSpace tail
  obtain ⟨sp', hsp', hmore⟩ := exists_skipSpace more
  obtain ⟨s, hs, hskip, hfits⟩ := h.value hv
  obtain ⟨sp'', hsp'', hleft⟩ := exists_skipSpace left
  refine ⟨_, .entry hk hsp hsp' hs hsp'', ?_, hfits⟩
  rw [hbody, htail, hcolon, hmore, hskip]
  simp only [List.append_assoc, List.cons_append]
  rw [← hleft]

theorem Sound.members_succ (h : Sound fuel) {ms : List (Text × Json)}
    (hmembers : Json.members (fuel + 1) depth t = .ok (ms, rest)) :
    ∃ s, Spells s (.members ms) ∧ t = s ++ '\x7d' :: rest ∧ FitMembers depth ms := by
  rw [Json.members_succ] at hmembers
  obtain ⟨⟨name, v⟩, tail, hentry, hend⟩ := exists_part_of_row hmembers
  obtain ⟨s, hs, rfl, hfits⟩ := h.entry hentry
  rcases hend with ⟨rfl, rfl⟩ | ⟨more, ns, rfl, hmore, rfl⟩
  · exact ⟨s, .lastMember hs, rfl, hfits, trivial⟩
  · obtain ⟨s', hs', hskip, hfits'⟩ := h.members hmore
    obtain ⟨sp, hsp, hmore⟩ := exists_skipSpace more
    refine ⟨_, .member hs hsp hs', ?_, hfits, hfits'⟩
    rw [hmore, hskip]
    simp only [List.append_assoc, List.cons_append]

/-- What is found in brackets is spelled if their inside is. -/
theorem Brackets.sound {opening close : Char} {wrap : List α → Json}
    {inside : Nat → Nat → Text → Except Fault (List α × Text)} {fit : Nat → List α → Prop}
    {phrase : List α → Phrase} (h : Brackets opening close wrap inside fit) {v : Json}
    (hv : Json.value (fuel + 1) depth (opening :: t) = .ok (v, rest))
    (hnothing : ∀ sp, Spaces sp → Spells (opening :: (sp ++ [close])) (.value (wrap [])))
    (hrow : ∀ sp s as, Spaces sp → Spells s (phrase as) →
      Spells (opening :: (sp ++ (s ++ [close]))) (.value (wrap as)))
    (hinside : ∀ {depth t as}, inside fuel depth t = .ok (as, rest) →
      ∃ s, Spells s (phrase as) ∧ t = s ++ close :: rest ∧ fit depth as) :
    ∃ s, Spells s (.value v) ∧ opening :: t = s ++ rest ∧ Fits depth v := by
  cases depth with
  | zero =>
    obtain ⟨f, _, hdeep⟩ := h.too_deep fuel t
    rw [hdeep] at hv
    cases hv
  | succ depth =>
    rw [h.value_eq] at hv
    obtain ⟨sp, hsp, ht⟩ := exists_skipSpace t
    -- the white space that was skipped goes back behind the opening bracket
    rcases exists_inside_of_bracketed hv with ⟨hskip, rfl⟩ | ⟨as, has, rfl⟩
    · have hfits := (h.fits_iff depth []).mpr (h.fit_nil depth)
      exact ⟨_, hnothing sp hsp, by rw [ht, hskip]; simp, hfits⟩
    · obtain ⟨s, hs, hskip, hfits⟩ := hinside has
      exact ⟨_, hrow sp s as hsp hs, by rw [ht, hskip]; simp, (h.fits_iff depth as).mpr hfits⟩

/-- A value that is read with one unit of fuel more was spelled. -/
theorem Sound.value_succ (h : Sound fuel) {v : Json}
    (hv : Json.value (fuel + 1) depth t = .ok (v, rest)) :
    ∃ s, Spells s (.value v) ∧ t = s ++ rest ∧ Fits depth v := by
  cases t with
  | nil => rw [value.eq_2] at hv; cases hv
  | cons c t =>
    -- by the first character, in the order in which the reader looks at it
    by_cases hquote : c = '\"'
    · subst hquote
      rw [value.eq_3] at hv
      obtain ⟨⟨s, tail⟩, hbody, hv⟩ := bind_eq_ok_iff.mp hv
      cases hv
      obtain ⟨k, hk, ht⟩ := spellsString_of_stringBody hbody
      exact ⟨k, .string hk, ht, trivial⟩
    by_cases hbrace : c = '\x7b'
    · subst hbrace
      exact objectBrackets.sound hv (fun _ => .emptyObject)
        (fun _ _ _ => .object) h.members
    by_cases hbracket : c = '['
    · subst hbracket
      exact arrayBrackets.sound hv (fun _ => .emptyArray)
        (fun _ _ _ => .array) h.items
    rw [value_of_head hquote hbrace hbracket] at hv
    split at hv
    · next hword =>
      cases hv
      obtain ⟨w, hw, rfl, ht⟩ := exists_word hword
      exact ⟨w.1, .word hw, ht, fits_of_word hw depth⟩
    · obtain ⟨s, hs, ht, hfits⟩ := spellsNumber_of_number hv
      exact ⟨s, .number hs, ht, hfits depth⟩

/-- **What is read is spelled by the grammar,** with any fuel. -/
theorem sound (fuel : Nat) : Sound fuel := by
  induction fuel with
  | zero =>
    constructor
    · intro depth t rest v h; rw [value.eq_1] at h; cases h
    · intro depth t rest vs h; rw [items.eq_1] at h; cases h
    · intro depth t rest ms h; rw [members.eq_1] at h; cases h
  | succ fuel ih => exact ⟨ih.value_succ, ih.items_succ, ih.members_succ⟩

/-! ### Documents -/

theorem head?_of_isDocument {doc : Text} {v : Json} (h : IsDocument doc v) :
    doc.head? ≠ some '\ufeff' := by
  obtain ⟨sp, t, sp', hsp, ht, _, rfl⟩ := h
  intro hhead
  cases sp with
  | nil => exact absurd ((begins_append ht.begins sp').2 _ hhead) (by decide)
  | cons c sp =>
    cases hhead
    exact absurd (hsp _ (.head _)) (by decide)

/-- A document is decoded, or a limit is met. -/
theorem decodeWithin_of_isDocument (depth : Nat) {doc : Text} {v : Json} (h : IsDocument doc v) :
    ReadsAs (decodeWithin depth doc) v (Fits depth v) := by
  rw [decodeWithin, if_neg (head?_of_isDocument h)]
  obtain ⟨sp, t, sp', hsp, ht, hsp', rfl⟩ := h
  rw [skipSpace_append hsp (ht.stops_space sp')]
  have hrest : Stops goesOn sp' := by
    have hgoes := stops_goesOn hsp' stops_nil
    rwa [List.append_nil] at hgoes
  have hv := ht.reads (2 * (sp ++ (t ++ sp')).length + 2) depth sp'
    (by simp only [List.length_append]; omega) hrest
  refine hv.map ?_
  dsimp only
  rw [hsp'.skipSpace]
  rfl

/-- **The reader and the grammar agree** on all documents that fit, and the reader accepts no
    others. -/
theorem decodeWithin_eq_ok_iff {doc : Text} {v : Json} :
    decodeWithin depth doc = .ok v ↔ IsDocument doc v ∧ Fits depth v := by
  constructor
  · intro h
    rw [decodeWithin] at h
    split at h
    · cases h
    · obtain ⟨⟨w, rest⟩, hv, h⟩ := bind_eq_ok_iff.mp h
      dsimp only at h
      split at h
      · next hrest =>
        cases h
        -- the white space before and behind, both skipped, are put back
        obtain ⟨sp, hsp, hdoc⟩ := exists_skipSpace doc
        obtain ⟨t, ht, hskip, hfits⟩ := (sound _).value hv
        obtain ⟨sp', hsp', hspaces⟩ := exists_skipSpace rest
        rw [hrest, List.append_nil] at hspaces
        refine ⟨⟨sp, t, sp', hsp, ht, hsp', ?_⟩, hfits⟩
        rw [hspaces] at hskip
        rw [← hskip, ← hdoc]
      · cases h
  · rintro ⟨hdoc, hfits⟩
    exact (decodeWithin_of_isDocument depth hdoc).1 hfits

theorem decode_eq_ok_iff {doc : Text} {v : Json} :
    decode doc = .ok v ↔ IsDocument doc v ∧ Fits maxDepth v :=
  decodeWithin_eq_ok_iff

end ScriptDiagnosis.Json
