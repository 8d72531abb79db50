/-
  ScriptDiagnosis/Text/Quoted.lean
  ================================
  A text in quotes, as error texts show it.  The quotes are single unless the text
  holds a single quote and no double one.  The backslash and the quote in use are
  escaped, line feed, carriage return and tab have their letters, and what does not
  print is written by its code in two, four or eight hexadecimal digits.
-/
import ScriptDiagnosis.Text.Hexadecimal
import ScriptDiagnosis.Text.Printable

namespace ScriptDiagnosis.Text

/-- The written form of one character between the given quotes. -/
def escapeChar (quote c : Char) : Text :=
  if c = quote || c = '\\' then ['\\', c]
  else if c = '\n' then ['\\', 'n']
  else if c = '\r' then ['\\', 'r']
  else if c = '\t' then ['\\', 't']
  else if isPrintable c then [c]
  else if c.toNat < 0x100 then '\\' :: 'x' :: hex 2 c.toNat
  else if c.toNat < 0x10000 then '\\' :: 'u' :: hex 4 c.toNat
  else '\\' :: 'U' :: hex 8 c.toNat

def quoteFor (t : Text) : Char :=
  if t.contains '\x27' && !t.contains '\"' then '\"' else '\x27'

def quoted (t : Text) : Text :=
  let q := quoteFor t
  q :: t.flatMap (escapeChar q) ++ [q]

end ScriptDiagnosis.Text
