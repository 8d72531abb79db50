/-
  ScriptDiagnosis/Script/Token.lean
  =================================
  The words of a script.  A token keeps where it starts and stops in the source
  and the line on which it *ends*: two neighbours stand on one line exactly when
  these lines agree, which is what decides where a semicolon may be left out.
-/

namespace ScriptDiagnosis.Script

inductive TokenKind
  | identifier
  | keyword
  | null
  | boolean
  | number
  | string
  | template
  | punctuator
  | pattern        -- a regular expression
  | endOfSource
  deriving DecidableEq, Repr

structure Token where
  kind : TokenKind
  /-- What the token stands for: the name, the punctuator, the contents of a string. -/
  value : String
  /-- The line on which the token ends. -/
  line : Nat
  start : Nat
  stop : Nat
  /-- Does it hold an octal escape, or is it an octal number without a letter? -/
  octal : Bool := false
  /-- Does it open a template? -/
  opensTemplate : Bool := false
  /-- Does it close a template? -/
  closesTemplate : Bool := false
  deriving DecidableEq, Repr

/-- Words that are never names. -/
def keywords : List String :=
  ["if", "in", "do", "var", "for", "new", "try", "let", "this", "else", "case", "void",
   "with", "enum", "while", "break", "catch", "throw", "const", "yield", "class", "super",
   "return", "typeof", "delete", "switch", "export", "import", "default", "finally",
   "extends", "function", "continue", "debugger", "instanceof"]

/-- Words that strict code may not use as names. -/
def strictWords : List String :=
  ["implements", "interface", "package", "private", "protected", "public", "static",
   "yield", "let"]

/-- Words kept for a later edition of the language. -/
def reservedWords : List String := ["enum", "export", "import", "super"]

/-- Names that strict code may read but not bind. -/
def restrictedNames : List String := ["eval", "arguments"]

/-- A word of one letter is never a keyword, nor is one that is not in the list. -/
def wordKind (w : String) : TokenKind :=
  if keywords.contains w then .keyword
  else if w = "null" then .null
  else if w = "true" || w = "false" then .boolean
  else .identifier

end ScriptDiagnosis.Script
