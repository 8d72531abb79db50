/-
  ScriptDiagnosis/Reply/CodeFence.lean
  ====================================
  Code fences.  A reply, or the code inside it, may come between a line of three backticks
  with a language's name and a line of three backticks.  Taking the fence off removes the
  opening line if the text begins with one, the closing line if the text ends with one (a
  line feed may follow it), and the white space around what is left.  Each end is looked
  at on its own, and only once.
-/
import ScriptDiagnosis.Text.Blank

namespace ScriptDiagnosis.Reply
open Text

/-- A letter of a language's name: an ASCII letter, or one that differs from an ASCII letter
    by case alone. -/
def isTagLetter (c : Char) : Bool :=
  let n := c.toNat
  ('a' ≤ c && c ≤ 'z') || ('A' ≤ c && c ≤ 'Z') || n = 0x130 || n = 0x131 || n = 0x17f ||
  n = 0x212a

def dropOpening (t : Text) : Text :=
  match t with
  | '\x60' :: '\x60' :: '\x60' :: rest =>
    match rest.dropWhile isTagLetter with
    | '\n' :: body => body
    | _ => t
  | _ => t

/-- What is left of a text in front of a closing fence line. -/
def dropClosing (t : Text) : Text :=
  match t.reverse with
  | '\x60' :: '\x60' :: '\x60' :: '\n' :: body => body.reverse
  | '\n' :: '\x60' :: '\x60' :: '\x60' :: '\n' :: body => body.reverse
  | _ => t

/-- The text without its fence and without the white space around it. -/
def unfence (t : Text) : Text := trim (dropClosing (dropOpening t))

end ScriptDiagnosis.Reply
