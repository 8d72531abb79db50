/-
  ScriptDiagnosis/Text/Basic.lean
  ===============================
  Text is a sequence of code points, and everything that is counted in it
  (columns, offsets, lengths) counts code points.  A list is the form that the
  readers and splitters of this library recurse on, so it is the form that they
  take and give; `String` appears where a literal is written down.
-/

namespace ScriptDiagnosis

/-- A sequence of code points. -/
abbrev Text := List Char

instance : Coe String Text := ⟨String.toList⟩

namespace Text

/-- A set of code points, as closed ranges in increasing order. -/
abbrev Ranges := List (Nat × Nat)

/-- Is the code point in one of the ranges? -/
def Ranges.covers (rs : Ranges) (n : Nat) : Bool :=
  rs.any fun r => r.1 ≤ n && n ≤ r.2

/-- Does the given text occur in this one? -/
def occurs (part : Text) : Text → Bool
  | [] => part.isEmpty
  | c :: rest => part.isPrefixOf (c :: rest) || occurs part rest

/-- The pieces between line feeds; a text without one is a single piece. -/
def lines : Text → List Text
  | [] => [[]]
  | c :: rest =>
    if c = '\n' then [] :: lines rest
    else match lines rest with
      | [] => [[c]]
      | l :: ls => (c :: l) :: ls

theorem lines_ne_nil (t : Text) : lines t ≠ [] := by
  cases t with
  | nil => simp [lines]
  | cons c rest =>
    unfold lines
    split
    · simp
    · split <;> simp

/-- The pieces, with the separator put between each two. -/
def join (separator : Text) : List Text → Text
  | [] => []
  | [t] => t
  | t :: ts => t ++ separator ++ join separator ts

/-- A number in decimal digits, with a minus sign when it is negative. -/
def ofInt (n : Int) : Text :=
  if n < 0 then '-' :: Nat.toDigits 10 n.natAbs else Nat.toDigits 10 n.natAbs

def ofNat (n : Nat) : Text := Nat.toDigits 10 n

end Text
end ScriptDiagnosis
