/-
  ScriptDiagnosis/Proofs/Json/Grammar.lean
  ========================================
  The grammar of JSON, said without a reader.  A text spells a value, the items of an array, one
  entry of an object or all its members (`Spells`); a document is a spelled value with white space
  around it.  White space may stand wherever the grammar has it, a string may be spelled with or
  without escapes, and members may repeat: many texts spell one value, and which text it was does
  not show in it.

  The grammar has no limits.  Those of the decoder are a property of the value (`Json.Fits`): how
  many levels it nests, and how large its integers are.
-/
import Mathlib.Algebra.Group.Nat.Defs
import ScriptDiagnosis.Json.Decoder
import ScriptDiagnosis.Proofs.Text.Runs

namespace ScriptDiagnosis.Json
open Text

/-! ### White space, strings, numbers -/

def Spaces (t : Text) : Prop := ∀ c ∈ t, isSpace c = true

instance (t : Text) : Decidable (Spaces t) :=
  decidable_of_iff (t.all isSpace = true) List.all_eq_true

theorem spaces_nil : Spaces [] := nofun

/-- The inside of a string, and the codes that it spells. -/
inductive SpellsCodes : Text → List Nat → Prop
  | nil : SpellsCodes [] []
  | plain {c : Char} {t : Text} {codes : List Nat} (hcontrol : 0x20 ≤ c.toNat)
      (hquote : c ≠ '\"') (hslash : c ≠ '\\') (h : SpellsCodes t codes) :
      SpellsCodes (c :: t) (c.toNat :: codes)
  | letter {x ch : Char} {t : Text} {codes : List Nat} (hx : escaped? x = some ch)
      (h : SpellsCodes t codes) : SpellsCodes ('\\' :: x :: t) (ch.toNat :: codes)
  | code {a b c d : Char} {n : Nat} {t : Text} {codes : List Nat}
      (hn : code? a b c d = some n) (h : SpellsCodes t codes) :
      SpellsCodes ('\\' :: 'u' :: a :: b :: c :: d :: t) (n :: codes)

/-- A string in its quotes.  Two codes that are the halves of a character are that one. -/
def SpellsString (t s : Text) : Prop :=
  ∃ inner codes, SpellsCodes inner codes ∧ t = '\"' :: (inner ++ ['\"']) ∧ s = joinCodes codes

def Digits (t : Text) : Prop := t ≠ [] ∧ ∀ c ∈ t, isDecimalDigit c = true

/-- The digits of a whole number: no zero stands in front of another digit. -/
def IsWhole (ds : Text) : Prop := ds = ['0'] ∨ (Digits ds ∧ ds.head? ≠ some '0')

def IsFraction (t : Text) : Prop := ∃ ds, Digits ds ∧ t = '.' :: ds

/-- What may stand between the letter of an exponent and its digits. -/
def IsSign (sign : Text) : Prop := sign = [] ∨ sign = ['+'] ∨ sign = ['-']

def IsExponent (t : Text) : Prop :=
  ∃ e sign ds, (e = 'e' ∨ e = 'E') ∧ IsSign sign ∧ Digits ds ∧ t = e :: (sign ++ ds)

def minus (negative : Bool) : Text := if negative then ['-'] else []

def signed (negative : Bool) (n : Nat) : Int := if negative then -n else n

/-- A number: an integer, or with a fraction or an exponent a decimal, which keeps its text. -/
inductive SpellsNumber : Text → Json → Prop
  | integer (negative : Bool) {ds : Text} (hds : IsWhole ds) :
      SpellsNumber (minus negative ++ ds) (.integer (signed negative (digitsValue ds)))
  | decimal (negative : Bool) {ds frac exp : Text} (hds : IsWhole ds)
      (hfrac : frac = [] ∨ IsFraction frac) (hexp : exp = [] ∨ IsExponent exp)
      (hne : frac ≠ [] ∨ exp ≠ []) :
      SpellsNumber (minus negative ++ ds ++ frac ++ exp)
        (.decimal (minus negative ++ ds ++ frac ++ exp))

/-! ### Values -/

/-- What a text can spell. -/
inductive Phrase
  | value (v : Json)
  | items (vs : List Json)
  | entry (name : Text) (v : Json)
  | members (ms : List (Text × Json))

/-- White space behind an item or an entry belongs to it, as does that around its colon. -/
inductive Spells : Text → Phrase → Prop
  | word {w : Text × Json} (hw : w ∈ words) : Spells w.1 (.value w.2)
  | number {t : Text} {v : Json} (h : SpellsNumber t v) : Spells t (.value v)
  | string {t s : Text} (h : SpellsString t s) : Spells t (.value (.string s))
  | emptyArray {sp : Text} (hsp : Spaces sp) : Spells ('[' :: (sp ++ [']'])) (.value (.array []))
  | array {sp t : Text} {vs : List Json} (hsp : Spaces sp) (h : Spells t (.items vs)) :
      Spells ('[' :: (sp ++ (t ++ [']']))) (.value (.array vs))
  | emptyObject {sp : Text} (hsp : Spaces sp) :
      Spells ('\x7b' :: (sp ++ ['\x7d'])) (.value (.object []))
  | object {sp t : Text} {ms : List (Text × Json)} (hsp : Spaces sp) (h : Spells t (.members ms)) :
      Spells ('\x7b' :: (sp ++ (t ++ ['\x7d']))) (.value (.object ms))
  | lastItem {t sp : Text} {v : Json} (h : Spells t (.value v)) (hsp : Spaces sp) :
      Spells (t ++ sp) (.items [v])
  | item {t sp sp' rest : Text} {v : Json} {vs : List Json} (h : Spells t (.value v))
      (hsp : Spaces sp) (hsp' : Spaces sp') (hrest : Spells rest (.items vs)) :
      Spells (t ++ sp ++ ',' :: (sp' ++ rest)) (.items (v :: vs))
  | entry {k t sp sp' sp'' name : Text} {v : Json} (hk : SpellsString k name) (hsp : Spaces sp)
      (hsp' : Spaces sp') (h : Spells t (.value v)) (hsp'' : Spaces sp'') :
      Spells (k ++ sp ++ ':' :: (sp' ++ (t ++ sp''))) (.entry name v)
  | lastMember {t name : Text} {v : Json} (h : Spells t (.entry name v)) :
      Spells t (.members [(name, v)])
  | member {t sp rest name : Text} {v : Json} {ms : List (Text × Json)}
      (h : Spells t (.entry name v)) (hsp : Spaces sp) (hrest : Spells rest (.members ms)) :
      Spells (t ++ ',' :: (sp ++ rest)) (.members ((name, v) :: ms))

/-- One value with white space around it. -/
def IsDocument (doc : Text) (v : Json) : Prop :=
  ∃ sp t sp', Spaces sp ∧ Spells t (.value v) ∧ Spaces sp' ∧ doc = sp ++ (t ++ sp')

/-! ### The limits of the decoder -/

mutual

/-- A value nests no more levels than these, and its integers have at most 4300 digits. -/
def Fits : Nat → Json → Prop
  | _, null | _, bool _ | _, decimal _ | _, string _ => True
  | _, integer n => n.natAbs < 10 ^ maxDigits
  | 0, array _ | 0, object _ => False
  | depth + 1, array vs => FitItems depth vs
  | depth + 1, object ms => FitMembers depth ms

def FitItems : Nat → List Json → Prop
  | _, [] => True
  | depth, v :: vs => Fits depth v ∧ FitItems depth vs

def FitMembers : Nat → List (Text × Json) → Prop
  | _, [] => True
  | depth, (_, v) :: ms => Fits depth v ∧ FitMembers depth ms

end

theorem fitMembers_iff {depth : Nat} {ms : List (Text × Json)} :
    FitMembers depth ms ↔ ∀ m ∈ ms, Fits depth m.2 := by
  induction ms with
  | nil => simp [FitMembers]
  | cons m ms ih => simp [FitMembers, ih]

/-- A fault that is not about the text but about what the decoder can hold. -/
def Fault.IsLimit : Fault → Prop
  | .malformed _ _ => False
  | .tooManyDigits _ | .tooDeep _ => True

/-- A reader finds this if it fits, and meets a limit if not. -/
def ReadsAs {α : Type} (x : Except Fault α) (a : α) (fits : Prop) : Prop :=
  (fits → x = .ok a) ∧ (¬ fits → ∃ f : Fault, f.IsLimit ∧ x = .error f)

end ScriptDiagnosis.Json
