/-
  ScriptDiagnosis/Suggestion/Blocks.lean
  ======================================
  A reviewer's suggestion, split into blocks.  The text is cut at its markers, the leftmost
  first.  What stands before the first marker is a block without a label; each marker labels
  the content behind it.  A marker with no content before the next one, or before the end,
  is dropped.

  `cut` keeps every character: its pieces concatenate to the text.  `blocks?` walks over the
  pieces with the label that waits for its content.
-/
import ScriptDiagnosis.Suggestion.Marker

namespace ScriptDiagnosis.Suggestion
open Text

/-- A part of a suggestion; an empty label says that it stands before the first marker. -/
structure Block where
  label : Text
  content : Text
  deriving DecidableEq, Repr

/-! ### Cutting a text at its markers -/

/-- A text cut at its markers: what is before the first, and each marker with what follows
    it up to the next. -/
structure Cut where
  preamble : Text
  sections : List (Marker × Text)
  deriving DecidableEq, Repr

def cut (t : Text) : Cut :=
  match _h : marker? t with
  | some (m, rest) =>
    let c := cut rest
    ⟨[], (m, c.preamble) :: c.sections⟩
  | none =>
    match t with
    | [] => ⟨[], []⟩
    | x :: rest =>
      let c := cut rest
      ⟨x :: c.preamble, c.sections⟩
termination_by t.length
decreasing_by
  · exact marker?_length (by assumption)
  · simp

def Cut.text (c : Cut) : Text :=
  c.preamble ++ c.sections.flatMap fun s => s.1.text ++ s.2

/-! ### Labelling the pieces -/

/-- A piece of a suggestion. -/
inductive Piece
  | content (t : Text)
  | marker (t : Text)
  deriving DecidableEq, Repr

/-- The pieces of a cut text, in order. -/
def Cut.pieces (c : Cut) : List Piece :=
  .content c.preamble :: c.sections.flatMap fun s => [.marker s.1.text, .content s.2]

/-- The blocks of some pieces, where `active` is the label that waits for its content.  A
    blank piece changes nothing, and of several markers in a row the last counts. -/
def label (active : Option Text) : List Piece → Option (List Block)
  | [] => some []
  | .content t :: rest =>
    if (trim t).isEmpty then label active rest
    else (label none rest).map (⟨active.getD [], trim t⟩ :: ·)
  | .marker t :: rest =>
    if (trim t).isEmpty then label active rest
    else match canonicalLabel (trim t) with
      | none => none
      | some l => label (some l) rest

/-- The blocks of a suggestion; there are none if some marker has no label. -/
def blocks? (t : Text) : Option (List Block) := label none (cut t).pieces

def blocks (t : Text) : List Block := (blocks? t).getD []

end ScriptDiagnosis.Suggestion
