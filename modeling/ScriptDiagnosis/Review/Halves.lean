/-
  ScriptDiagnosis/Review/Halves.lean
  ==================================
  Halves of surrogate pairs.  A reply can name one by an escape, `\ud83d` say, with no other
  half beside it.  It is accepted like any other code, but it is no character, and the texts of
  this library show U+FFFD for it.  Nobody can write it in UTF-8, so it matters where one comes
  to stand.

  That is found out by comparison: the same reply is read a second time with each half replaced
  by a mark, a character of the private use area that is as far from all the others as the half
  itself.  Where the two readings differ, there is a half.
-/
import ScriptDiagnosis.Json.Printer
import ScriptDiagnosis.Review.Run

namespace ScriptDiagnosis.Review
open Text Json

/-- How far the mark of a half is from it. -/
def markDistance : Nat := 0x800

/-- Does a text begin with the escape of a low half? -/
def beginsWithLow : Text → Bool
  | '\\' :: 'u' :: a :: b :: c :: d :: _ => ((code? a b c d).map isLowSurrogate).getD false
  | _ => false

/-- A text with the escape of each half, where it is not one of a pair, replaced by the escape of
    its mark.  The flag says that a high half has just been passed that the text goes on to pair. -/
def markHalves (paired : Bool) : Text → Text
  | [] => []
  | '\\' :: 'u' :: a :: b :: c :: d :: rest =>
    match code? a b c d with
    | none => '\\' :: 'u' :: markHalves false (a :: b :: c :: d :: rest)
    | some n =>
      if isHighSurrogate n then
        if beginsWithLow rest then '\\' :: 'u' :: a :: b :: c :: d :: markHalves true rest
        else codeEscape (n + markDistance) ++ markHalves false rest
      else if isLowSurrogate n && !paired then
        codeEscape (n + markDistance) ++ markHalves false rest
      else '\\' :: 'u' :: a :: b :: c :: d :: markHalves false rest
  | '\\' :: x :: rest => '\\' :: x :: markHalves false rest
  | x :: rest => x :: markHalves false rest

/-- The same reply, with marks for its halves. -/
def CallResult.marked : CallResult → CallResult
  | replied reply => replied (reply.map (markHalves false))
  | failed f => failed f

def Call.marked (call : Call) : Call := { call with result := call.result.marked }

/-- A reviewer who replies with marks for halves, and otherwise does the same. -/
def Reviewer.marked (reviewer : Reviewer) : Reviewer := fun prompt attempt =>
  (reviewer prompt attempt).marked

end ScriptDiagnosis.Review
