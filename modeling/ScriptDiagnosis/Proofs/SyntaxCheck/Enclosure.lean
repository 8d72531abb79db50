/-
  ScriptDiagnosis/Proofs/SyntaxCheck/Enclosure.lean
  =================================================
  No snippet gets out of its wrapper unseen.  All that the check asks of a program is how many
  statements it has.  That is enough: the brace at the end of the source belongs to a statement, so
  the wrapper is the only one exactly when it reaches that brace, and a wrapper that ends before it
  ends at a brace of the snippet, which is what the verdict shows (`body_accepted_iff`).

  The tokens and the statements of a source are given by where they stand.  What is asked of them
  is what holds of every script: statements follow each other, and every token is in one.
-/
import ScriptDiagnosis.Proofs.SyntaxCheck.Relocation

namespace ScriptDiagnosis.SyntaxCheck
open Text Script

/-! ### Tokens and statements -/

/-- A stretch of a source, by offsets. -/
structure Stretch (source : Text) where
  start : Nat
  stop : Nat
  start_lt_stop : start < stop := by decide
  stop_le_length : stop ≤ source.length := by decide
  deriving DecidableEq

/-- Is it a closing brace? -/
def Stretch.IsBrace {source : Text} (t : Stretch source) : Prop :=
  t.stop = t.start + 1 ∧ source[t.start]? = some '\x7d'

/-- The tokens of a source, and its statements at the top level.  A token belongs to one statement
    only, since statements do not overlap. -/
structure Reading (source : Text) where
  tokens : List (Stretch source)
  statements : List (Stretch source)
  ordered : statements.Pairwise fun a b => a.stop ≤ b.start
  covered : ∀ t ∈ tokens, ∃ s ∈ statements, s.start ≤ t.start ∧ t.stop ≤ s.stop

/-- The place behind a stretch, with columns from zero. -/
def endPlace (source : Text) (stop : Nat) : Place :=
  ⟨(positionAt source stop).line, (positionAt source stop).column - 1⟩

def Reading.answer {source : Text} (r : Reading source) : ParserAnswer :=
  .program (r.statements.map fun s => endPlace source s.stop)

/-- A wrapped source is read with the function around the snippet as its first statement, and the
    brace at its end is a token. -/
structure Wraps {snippet : Text} (r : Reading (sourceFor .functionBody snippet))
    (wrapper : Stretch (sourceFor .functionBody snippet)) : Prop where
  first : r.statements.head? = some wrapper
  closed : ∃ t ∈ r.tokens, t.IsBrace ∧ t.stop = wrapper.stop
  last : ∃ t ∈ r.tokens, t.stop = (sourceFor .functionBody snippet).length

section Wrapped

variable {parse : Text → ParserAnswer} {snippet : Text}
  {r : Reading (sourceFor .functionBody snippet)}
  {wrapper : Stretch (sourceFor .functionBody snippet)}

/-- The wrapper is the first statement. -/
theorem Wraps.exists_others (h : Wraps r wrapper) :
    ∃ others, r.statements = wrapper :: others := by
  have hfirst := h.first
  cases hstatements : r.statements with
  | nil =>
    rw [hstatements] at hfirst
    cases hfirst
  | cons s others =>
    rw [hstatements] at hfirst
    cases hfirst
    exact ⟨others, rfl⟩

/-- The wrapper is alone exactly when it reaches the end of the source. -/
theorem Wraps.alone_iff (h : Wraps r wrapper) :
    r.statements.length = 1 ↔ wrapper.stop = (sourceFor .functionBody snippet).length := by
  obtain ⟨others, hstatements⟩ := h.exists_others
  obtain ⟨t, ht, hstop⟩ := h.last
  obtain ⟨s, hs, _, hle⟩ := r.covered t ht
  have hordered := r.ordered
  rw [hstatements] at hs hordered ⊢
  cases others with
  | nil =>
    -- The statement that holds the last token can only be the wrapper.
    rcases List.mem_singleton.mp hs with rfl
    have hend := s.stop_le_length
    constructor
    · intro _
      omega
    · intro _
      rfl
  | cons s' others =>
    have hbefore := (List.pairwise_cons.mp hordered).1 s' (.head _)
    have hstart := s'.start_lt_stop
    have hend := s'.stop_le_length
    constructor
    · intro hlength
      cases hlength
    · intro hwhole
      omega

/-! ### The brace that closes the wrapper -/

/-- A brace of a wrapped source, other than its last, is one of the snippet. -/
theorem brace_in_snippet {k : Nat}
    (hbrace : (sourceFor .functionBody snippet)[k]? = some '\x7d')
    (hk : k + 1 ≠ (sourceFor .functionBody snippet).length) :
    ∃ o, o < snippet.length ∧ snippet[o]? = some '\x7d' ∧ k = wrapperHead.length + o := by
  have hlength : (sourceFor .functionBody snippet).length =
      wrapperHead.length + (snippet.length + 2) := by
    rw [sourceFor, List.append_assoc, List.length_append, List.length_append]
    rfl
  rw [sourceFor, List.append_assoc] at hbrace
  -- the head holds no such brace
  rcases Nat.lt_or_ge k wrapperHead.length with hhead | hge
  · rw [List.getElem?_append_left hhead] at hbrace
    have hmem : '\x7d' ∈ wrapperHead := List.mem_of_getElem? hbrace
    exact absurd hmem (by decide)
  · obtain ⟨o, rfl⟩ := Nat.exists_eq_add_of_le hge
    rw [List.getElem?_append_right hge, Nat.add_sub_cancel_left] at hbrace
    rcases Nat.lt_or_ge o snippet.length with hin | htail
    · rw [List.getElem?_append_left hin] at hbrace
      exact ⟨o, hin, hbrace, rfl⟩
    · rw [List.getElem?_append_right htail] at hbrace
      -- The tail is a line feed and the last brace.
      rcases hoffset : o - snippet.length with _ | _ | n
      · rw [hoffset] at hbrace
        cases hbrace
      · omega
      · rw [hoffset] at hbrace
        cases hbrace

theorem Wraps.exists_brace (h : Wraps r wrapper)
    (hearly : wrapper.stop ≠ (sourceFor .functionBody snippet).length) :
    ∃ o, o < snippet.length ∧ snippet[o]? = some '\x7d' ∧
      wrapper.stop = wrapperHead.length + o + 1 := by
  obtain ⟨t, _, ⟨hlength, hbrace⟩, hstop⟩ := h.closed
  rw [← hstop, hlength] at hearly
  obtain ⟨o, ho, hchar, hstart⟩ := brace_in_snippet hbrace hearly
  exact ⟨o, ho, hchar, by omega⟩

/-- The end of a brace of the snippet, as the parser gives it: one line further down, and at the
    column of the brace itself, since columns count from zero there and ends are exclusive. -/
theorem endPlace_brace {o : Nat} (ho : o < snippet.length) (hchar : snippet[o]? = some '\x7d') :
    endPlace (sourceFor .functionBody snippet) (wrapperHead.length + o + 1) =
      ⟨(positionAt snippet o).line + 1, (positionAt snippet o).column⟩ := by
  have hsource : (sourceFor .functionBody snippet)[wrapperHead.length + o]? = some '\x7d' := by
    rw [sourceFor, List.append_assoc, List.getElem?_append_right (Nat.le_add_right _ _),
      Nat.add_sub_cancel_left, List.getElem?_append_left ho, hchar]
  rw [endPlace, positionAt_succ hsource (by decide), positionAt_snippet (Nat.le_of_lt ho) (.inl ho)]
  simp [Position.down]

/-- A reading is accepted if it has one statement, and otherwise refused where the first one
    ends. -/
theorem check_of_reading (hparse : parse (sourceFor .functionBody snippet) = r.answer) :
    check parse .functionBody snippet =
      if r.statements.length = 1 then .ok ⟨true, okMessage, none, none⟩
      else earlyEnd (r.statements.map fun s =>
        endPlace (sourceFor .functionBody snippet) s.stop) := by
  rw [check, hparse, Reading.answer, verdict]
  by_cases hlength : r.statements.length = 1 <;> simp [hlength]

/-- **Enclosure.**  A wrapped snippet is valid exactly when the function around it ends at its own
    brace.  Otherwise it is faulted at the brace of the snippet that ends it, and the message names
    the line of that brace. -/
theorem body_accepted_iff (hwraps : Wraps r wrapper)
    (hparse : parse (sourceFor .functionBody snippet) = r.answer) :
    ((∃ v, check parse .functionBody snippet = .ok v ∧ v.isValid = true) ↔
      wrapper.stop = (sourceFor .functionBody snippet).length) ∧
    (wrapper.stop ≠ (sourceFor .functionBody snippet).length →
      ∃ o, o < snippet.length ∧ snippet[o]? = some '\x7d' ∧
        wrapper.stop = wrapperHead.length + o + 1 ∧
        check parse .functionBody snippet =
          placed strayBrace (positionAt snippet o).line
            (some ((positionAt snippet o).column : Int)) ∧
        (writable (snippet.length + 1) = true →
          ∃ v, check parse .functionBody snippet = .ok v ∧ v.isValid = false ∧
            v.line = some ((positionAt snippet o).line : Int) ∧
            v.column = some ((positionAt snippet o).column : Int) ∧
            v.message = lineMessage (positionAt snippet o).line strayBrace)) := by
  have hcheck := check_of_reading hparse
  -- the early end once, for the position and for the verdict that says it
  have hearly : wrapper.stop ≠ (sourceFor .functionBody snippet).length →
      ∃ o, o < snippet.length ∧ snippet[o]? = some '\x7d' ∧
        wrapper.stop = wrapperHead.length + o + 1 ∧
        check parse .functionBody snippet =
          placed strayBrace (positionAt snippet o).line
            (some ((positionAt snippet o).column : Int)) := by
    intro hstop
    obtain ⟨o, ho, hchar, hwrapper⟩ := hwraps.exists_brace hstop
    obtain ⟨others, hstatements⟩ := hwraps.exists_others
    have hline := (line_positionAt snippet o).1
    refine ⟨o, ho, hchar, hwrapper, ?_⟩
    rw [hcheck, if_neg (mt hwraps.alone_iff.mp hstop), hstatements, List.map_cons, earlyEnd_cons,
      hwrapper, endPlace_brace ho hchar]
    have hmax : max (((positionAt snippet o).line : Int) + 1 - 1) 1 =
        (positionAt snippet o).line := by
      omega
    rw [hmax]
  refine ⟨⟨?_, ?_⟩, ?_⟩
  · rintro ⟨v, hv, hvalid⟩
    by_contra hstop
    obtain ⟨o, _, _, _, hplaced⟩ := hearly hstop
    rw [hplaced] at hv
    unfold placed at hv
    split at hv
    · cases hv
      cases hvalid
    · cases hv
  · intro hwhole
    rw [hcheck, if_pos (hwraps.alone_iff.mpr hwhole)]
    exact ⟨_, rfl, rfl⟩
  · intro hstop
    obtain ⟨o, ho, hchar, hwrapper, hplaced⟩ := hearly hstop
    refine ⟨o, ho, hchar, hwrapper, hplaced, fun hsize => ?_⟩
    have hline := (line_positionAt snippet o).2
    rw [hplaced, placed_of_writable (writable_of_le_length hsize hline)]
    exact ⟨_, rfl, rfl, rfl, rfl, rfl⟩

end Wrapped

/-- A snippet that closes the wrapper and opens a block for the brace that is left. -/
def escaping : Text := "\x7d\x7b"

/-- `function`, `anonymous`, `(`, `)` and four braces; a function and a block. -/
def escapingReading : Reading (sourceFor .functionBody escaping) where
  tokens := [.mk 0 8, .mk 9 18, .mk 18 19, .mk 19 20, .mk 21 22, .mk 23 24, .mk 24 25, .mk 26 27]
  statements := [.mk 0 24, .mk 24 27]
  ordered := by decide
  covered := by decide

theorem parseScript_of_program {source : Text} {ends : List Mark}
    (h : readScript source = .ok ends) :
    parseScript source = .program (ends.map fun m => ⟨m.line, m.column⟩) := by
  rw [parseScript, h]

theorem body_accepted_escaping :
    Wraps escapingReading (.mk 0 24) ∧
    parseScript (sourceFor .functionBody escaping) = escapingReading.answer ∧
    ∃ v, check parseScript .functionBody escaping = .ok v ∧ v.isValid = false ∧
      v.line = some 1 ∧ v.column = some 1 := by
  have hwraps : Wraps escapingReading (.mk 0 24) := by
    refine ⟨rfl, ⟨.mk 23 24, by decide, ⟨rfl, rfl⟩, rfl⟩, ?_⟩
    exact ⟨.mk 26 27, by decide, rfl⟩
  have hread : readScript (sourceFor .functionBody escaping) = .ok [⟨24, 2, 1⟩, ⟨27, 3, 1⟩] := by
    decide +kernel
  have hparse : parseScript (sourceFor .functionBody escaping) = escapingReading.answer :=
    parseScript_of_program hread
  obtain ⟨_, hearly⟩ := body_accepted_iff hwraps hparse
  obtain ⟨o, ho, _, hstop, _, hresult⟩ := hearly (by decide)
  obtain ⟨v, hcheck, hinvalid, hline, hcolumn, _⟩ := hresult (by decide +kernel)
  have hstart : o = 0 := by
    have hstop : 24 = 23 + o + 1 := hstop
    omega
  subst hstart
  exact ⟨hwraps, hparse, v, hcheck, hinvalid, hline, hcolumn⟩

end ScriptDiagnosis.SyntaxCheck
