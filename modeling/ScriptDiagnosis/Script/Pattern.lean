/-
  ScriptDiagnosis/Script/Pattern.lean
  ===================================
  Which regular expressions are well formed.  The body of a literal is first rid of
  its `\uHHHH` and `\u{H}` escapes, and what is left has to follow this grammar:

    * branches separated by `|`, each a row of items with an optional repetition
      (`*`, `+`, `?`, `{m}`, `{m,}`, `{,n}`, `{m,n}`, each with `?` or `+` behind it);
    * an item is a character, `.`, a set, an escape, an anchor or a group; an anchor
      or an item that is already repeated cannot be repeated;
    * a reference names a group that is closed where it stands;
    * what stands behind a place (`(?<=…)`, `(?<!…)`) has one width.

  Code points are numbers here, because a `\uHHHH` escape may name half of a
  surrogate pair.
-/
import ScriptDiagnosis.Script.Word
import ScriptDiagnosis.Text.Integer

namespace ScriptDiagnosis.Script.Pattern
open Text

/-! ### Pieces -/

/-- A character of a pattern, alone or behind a backslash. -/
inductive Piece
  | plain (n : Nat)
  | escaped (n : Nat)
  deriving DecidableEq, Repr

/-- The pieces of a pattern; none if a backslash ends it. -/
def pieces : List Nat → Option (List Piece)
  | [] => some []
  | n :: rest =>
    if n = '\\'.toNat then
      match rest with
      | [] => none
      | m :: rest => (pieces rest).map (.escaped m :: ·)
    else (pieces rest).map (.plain n :: ·)

/-- The character that a plain piece shows, NUL for any other piece. -/
def Piece.char : Piece → Char
  | .plain n => if n.isValidChar then Char.ofNat n else '\x00'
  | .escaped _ => '\x00'

def Piece.is (p : Piece) (c : Char) : Bool := p = .plain c.toNat

def Piece.codes : Piece → List Nat
  | .plain n => [n]
  | .escaped n => ['\\'.toNat, n]

/-! ### What is known while reading -/

/-- The least and greatest number of characters that a part matches. -/
structure Width where
  least : Nat
  most : Nat
  deriving DecidableEq, Repr

/-- Widths are not told apart from here on. -/
def Width.limit : Nat := Nat.pow 2 64

/-- A repetition without an upper bound, and the first bound that is too large. -/
def unboundedCount : Nat := 4294967295

def Width.add (a b : Width) : Width := ⟨a.least + b.least, a.most + b.most⟩

def Width.capped (w : Width) : Width := ⟨min w.least limit, min w.most limit⟩

def Width.either (a b : Width) : Width := ⟨min a.least b.least, max a.most b.most⟩

/-- Groups seen so far, from group 0; one that is still open has no width. -/
structure Seen where
  groups : Array (Option Width) := #[none]
  names : List (List Nat × Nat) := []
  /-- The number of groups where the outermost look behind began. -/
  behindFrom : Option Nat := none
  /-- Groups that a condition asks for, wherever they stand. -/
  asked : List Nat := []
  /-- Are blanks and comments skipped, for the whole pattern? -/
  spaced : Bool := false
  asciiOnly : Bool := false
  unicode : Bool := false
  /-- May nothing be repeated? -/
  unrepeated : Bool := false

/-- What is left to read, with what has been seen. -/
structure Rest where
  input : List Piece
  seen : Seen

abbrev Read := StateT Rest Option

def next? : Read (Option Piece) := return (← get).input.head?

def drop : Read Unit := modify fun r => { r with input := r.input.drop 1 }

/-- The next piece, which has to be there. -/
def take : Read Piece := do
  match ← next? with
  | some p =>
    drop
    pure p
  | none => failure

/-- Read a given character if it is next. -/
def accept (c : Char) : Read Bool := do
  match ← next? with
  | some p =>
    if p.is c then
      drop
      pure true
    else pure false
  | none => pure false

def require (c : Char) : Read Unit := do
  if !(← accept c) then failure

/-- At most so many characters that pass a test. -/
def takeWhile (p : Char → Bool) : Nat → Read (List Char)
  | 0 => pure []
  | n + 1 => do
    match ← next? with
    | some (.plain m) =>
      let c := Piece.char (.plain m)
      if p c then
        drop
        return c :: (← takeWhile p n)
      else pure []
    | _ => pure []

/-- Everything up to a closing character, which is read too; it has to be there, with
    something before it. -/
def takeUntil (close : Char) : Nat → Read (List Nat)
  | 0 => failure
  | fuel + 1 => do
    let p ← take
    if p.is close then pure []
    else return p.codes ++ (← takeUntil close fuel)

def takeName (close : Char) : Read (List Nat) := do
  let name ← takeUntil close ((← get).input.length + 1)
  if name.isEmpty then failure else pure name

/-- Letters by category that a group's name may not hold. -/
def notInNames : List Nat :=
  [0x37a, 0x2e2f, 0x309b, 0x309c, 0xfc5e, 0xfc5f, 0xfc60, 0xfc61, 0xfc62, 0xfc63, 0xfdfa,
   0xfdfb, 0xfe70, 0xfe72, 0xfe74, 0xfe76, 0xfe78, 0xfe7a, 0xfe7c, 0xfe7e, 0x200c, 0x200d,
   0x24, 0x5c]

/-- Letters that a group's name may not begin with. -/
def notFirstInNames : List Nat := [0xe33, 0xeb3, 0xff9e, 0xff9f]

/-- Is it a name that a group can have? -/
def isGroupName : List Nat → Bool
  | [] => false
  | n :: rest =>
    let asChar (m : Nat) : Char := if m.isValidChar then Char.ofNat m else '\x00'
    isNameStart (asChar n) && !notInNames.contains n && !notFirstInNames.contains n &&
    rest.all fun m => isNamePart (asChar m) && !notInNames.contains m

/-- May a group be referred to here?  It has to be closed, and not inside the look
    behind that the reference stands in. -/
def referTo (g : Nat) : Read Width := do
  let seen := (← get).seen
  match seen.groups[g]?.join with
  | none => failure
  | some w =>
    match seen.behindFrom with
    | some n => if g ≥ n then failure else pure w
    | none => pure w

/-! ### Escapes and sets -/

/-- A member of a set: one character, or a class of them. -/
inductive Member
  | one (n : Nat)
  | many
  deriving DecidableEq

def octalValue (ds : List Char) : Nat := ds.foldl (fun n c => 8 * n + (c.toNat - 0x30)) 0

def hexCode (count : Nat) : Read Nat := do
  let ds ← takeWhile isHexDigit count
  if ds.length = count then pure (hexNumber ds) else failure

/-- The escapes that mean the same inside and outside a set. -/
def commonEscape (c : Char) : Read (Option Member) := do
  if "dDsSwW".contains c then return some .many
  if c = 'a' then return some (.one 7)
  if c = 'f' then return some (.one 12)
  if c = 'n' then return some (.one 10)
  if c = 'r' then return some (.one 13)
  if c = 't' then return some (.one 9)
  if c = 'v' then return some (.one 11)
  if c = 'x' then return some (.one (← hexCode 2))
  if c = 'u' then return some (.one (← hexCode 4))
  if c = 'U' then
    let n ← hexCode 8
    if n > 0x10ffff then failure else return some (.one n)
  return none

def setEscape (n : Nat) : Read Member := do
  let c := Piece.char (.plain n)
  if c = 'b' then return .one 8
  match ← commonEscape c with
  | some m => return m
  | none =>
    if isOctalDigit c then
      let v := octalValue (c :: (← takeWhile isOctalDigit 2))
      if v > 0o377 then failure else return .one v
    else if isAsciiDigit c || isAsciiLetter c then failure
    else return .one n
where
  isOctalDigit (c : Char) : Bool := '0' ≤ c && c ≤ '7'

def member (p : Piece) : Read Member :=
  match p with
  | .plain n => pure (.one n)
  | .escaped n => setEscape n

/-- The members of a set up to its closing bracket; a bracket in first place is a member.
    A range has to run upwards between two characters. -/
def setMembers : Nat → Bool → Read Unit
  | 0, _ => failure
  | fuel + 1, first => do
    let p ← take
    if p.is ']' && !first then pure ()
    else
      let a ← member p
      if ← accept '-' then
        let q ← take
        if q.is ']' then pure ()
        else
          match a, ← member q with
          | .one lo, .one hi => if hi < lo then failure else setMembers fuel false
          | _, _ => failure
      else setMembers fuel false

/-! ### Rows and groups -/

/-- What a row's last item is, as far as a repetition asks. -/
inductive ItemKind
  | anchor
  | repeated
  | plain
  deriving DecidableEq

/-- A row: the width of all but its last item, and that item. -/
structure Row where
  before : Width := ⟨0, 0⟩
  last : Option (ItemKind × Width) := none

def Row.width (r : Row) : Width :=
  match r.last with
  | none => r.before
  | some (_, w) => r.before.add w

def Row.push (r : Row) (k : ItemKind) (w : Width) : Row := ⟨r.width, some (k, w)⟩

def oneWide : Width := ⟨1, 1⟩
def noWidth : Width := ⟨0, 0⟩

def rowEscape (r : Row) (n : Nat) : Read Row := do
  let c := Piece.char (.plain n)
  if "AbBZ".contains c then return r.push .anchor noWidth
  match ← commonEscape c with
  | some _ => return r.push .plain oneWide
  | none =>
    if c = '0' then
      let _ ← takeWhile (fun d => '0' ≤ d && d ≤ '7') 2
      return r.push .plain oneWide
    else if isAsciiDigit c then
      let octal (d : Char) : Bool := '0' ≤ d && d ≤ '7'
      match ← takeWhile isAsciiDigit 1 with
      | [] => return r.push .plain (← referTo (c.toNat - 0x30))
      | d :: _ =>
        let third ← if octal c && octal d then takeWhile octal 1 else pure []
        match third with
        | e :: _ =>
          if octalValue [c, d, e] > 0o377 then failure else return r.push .plain oneWide
        | [] => return r.push .plain (← referTo (10 * (c.toNat - 0x30) + (d.toNat - 0x30)))
    else if isAsciiLetter c then failure
    else return r.push .plain oneWide

/-- The bounds of a repetition in braces whose opening has been read; none, and nothing
    read, if what follows is no repetition. -/
def bounds : Read (Option (Nat × Nat)) := do
  let start ← get
  let fuel := start.input.length
  if (← next?) = some (.plain '\x7d'.toNat) then return none
  let lo ← takeWhile isAsciiDigit fuel
  let hi ← if ← accept ',' then takeWhile isAsciiDigit fuel else pure lo
  if !(← accept '\x7d') then
    set start
    return none
  let least := digitsValue lo
  let most := if hi.isEmpty then unboundedCount else digitsValue hi
  if !lo.isEmpty && least ≥ unboundedCount then failure
  if !hi.isEmpty && (most ≥ unboundedCount || most < least) then failure
  return some (least, most)

/-- Repeat the last item of a row. -/
def repeatLast (r : Row) (least most : Nat) : Read Row := do
  if (← get).seen.unrepeated then failure
  match r.last with
  | some (.plain, w) =>
    if !(← accept '?') then
      let _ ← accept '+'
    let most' := if most = unboundedCount && w.most ≠ 0 then Width.limit else w.most * most
    return { r with last := some (.repeated, ⟨w.least * least, most'⟩) }
  | _ => failure

def optionLetters : List Char := ['i', 'm', 's', 'x', 'a', 't', 'u']

/-- A row of option letters, the first of which has been read, and the character that ends
    it.  Only one of `a` and `u` may be there. -/
def optionRow : Nat → Char → List Char → Read (List Char × Char)
  | 0, _, _ => failure
  | fuel + 1, c, acc => do
    if !optionLetters.contains c then failure
    let acc := c :: acc
    if acc.contains 'a' && acc.contains 'u' then failure
    let d := (← take).char
    if d = ')' || d = '-' || d = ':' then pure (acc, d) else optionRow fuel d acc

/-- The option letters behind a minus sign, up to the colon. -/
def offRow : Nat → Char → List Char → Read (List Char)
  | 0, _, _ => failure
  | fuel + 1, c, acc => do
    if !optionLetters.contains c || c = 'a' || c = 'u' then failure
    let acc := c :: acc
    let d := (← take).char
    if d = ':' then pure acc else offRow fuel d acc

/-- How a parenthesis goes on. -/
inductive Opening
  | capture (name : Option (List Nat))
  | plain
  | atomic
  | comment
  | look (behind : Bool)
  | reference (w : Width)
  | condition (g : Nat)
  | options (spaced : Bool)                 -- for the whole pattern
  | scoped (on off : List Char)             -- for the group

def conditionGroup : Read Nat := do
  let name ← takeName ')'
  if isGroupName name then
    match (← get).seen.names.lookup name with
    | none => failure
    | some g => pure g
  else
    match readInteger (name.map fun n => charOfCode n) with
    | .ok (.ofNat g) =>
      if g = 0 then failure
      modify fun r => { r with seen := { r.seen with asked := g :: r.seen.asked } }
      pure g
    | _ => failure

def opening : Read Opening := do
  if !(← accept '?') then return .capture none
  let fuel := (← get).input.length + 1
  let c := (← take).char
  if c = ':' then return .plain
  if c = '>' then return .atomic
  if c = '#' then return .comment
  if c = '=' || c = '!' then return .look false
  if c = '<' then
    let d := (← take).char
    if d = '=' || d = '!' then return .look true else failure
  if c = '(' then return .condition (← conditionGroup)
  if c = 'P' then
    if ← accept '<' then
      let name ← takeName '>'
      if isGroupName name then return .capture (some name) else failure
    else if ← accept '=' then
      let name ← takeName ')'
      match (← get).seen.names.lookup name with
      | none => failure
      | some g => return .reference (← referTo g)
    else failure
  if c = '-' then
    let off ← offRow fuel (← take).char []
    if off.contains 't' then failure else return .scoped [] off
  let (on, stop) ← optionRow fuel c []
  if stop = ')' then
    modify fun r => { r with seen := { r.seen with
      spaced := r.seen.spaced || on.contains 'x'
      asciiOnly := r.seen.asciiOnly || on.contains 'a'
      unicode := r.seen.unicode || on.contains 'u'
      unrepeated := r.seen.unrepeated || on.contains 't' } }
    return .options (on.contains 'x')
  if on.contains 't' then failure
  if stop = ':' then return .scoped on []
  let off ← offRow fuel (← take).char []
  if off.contains 't' || on.any off.contains then failure
  return .scoped on off

def skipComment (close : Char) (mustClose : Bool) : Nat → Read Unit
  | 0 => failure
  | fuel + 1 => do
    match ← next? with
    | none => if mustClose then failure
    | some p =>
      drop
      if p.is close then pure () else skipComment close mustClose fuel

def openGroup (name : Option (List Nat)) : Read Nat := do
  let seen := (← get).seen
  let g := seen.groups.size
  let names ← match name with
    | none => pure seen.names
    | some n => if (seen.names.lookup n).isSome then failure else pure ((n, g) :: seen.names)
  modify fun r => { r with seen := { seen with groups := seen.groups.push none, names } }
  pure g

def closeGroup (g : Nat) (w : Width) : Read Unit :=
  modify fun r =>
    { r with seen := { r.seen with groups := r.seen.groups.setIfInBounds g (some w) } }

mutual

/-- Branches up to a closing parenthesis or the end.  `outermost` says that no group is
    open, so that an option set for the whole pattern holds from the next branch on. -/
def branches : Nat → Bool → Bool → Read Width
  | 0, _, _ => failure
  | fuel + 1, outermost, spaced => do
    let w ← row fuel spaced outermost {}
    moreBranches fuel outermost spaced w

def moreBranches : Nat → Bool → Bool → Width → Read Width
  | 0, _, _, _ => failure
  | fuel + 1, outermost, spaced, w => do
    if ← accept '|' then
      let whole := (← get).seen.spaced
      let spaced := if outermost then whole else spaced
      let v ← row fuel spaced false {}
      moreBranches fuel outermost spaced (w.either v)
    else pure w.capped

/-- A row of items.  `first` says that it opens the whole pattern, where alone options for
    all of it may stand. -/
def row : Nat → Bool → Bool → Row → Read Width
  | 0, _, _, _ => failure
  | fuel + 1, spaced, first, r => do
    match ← next? with
    | none => pure r.width.capped
    | some p =>
      if p.is '|' || p.is ')' then pure r.width.capped
      else
        drop
        let c := p.char
        if spaced && " \t\n\r\x0b\x0c".contains c then row fuel spaced first r
        else if spaced && c = '#' then
          skipComment '\n' false ((← get).input.length + 1)
          row fuel spaced first r
        else
          match p with
          | .escaped n =>
            let r ← rowEscape r n
            row fuel spaced first r
          | .plain _ =>
            if c = '[' then
              let _ ← accept '^'
              setMembers ((← get).input.length + 1) true
              row fuel spaced first (r.push .plain oneWide)
            else if c = '?' then
              row fuel spaced first (← repeatLast r 0 1)
            else if c = '*' then
              row fuel spaced first (← repeatLast r 0 unboundedCount)
            else if c = '+' then
              row fuel spaced first (← repeatLast r 1 unboundedCount)
            else if c = '\x7b' then
              match ← bounds with
              | none => row fuel spaced first (r.push .plain oneWide)
              | some (least, most) => row fuel spaced first (← repeatLast r least most)
            else if c = '^' || c = '$' then row fuel spaced first (r.push .anchor noWidth)
            else if c = '(' then
              match ← opening with
              | .comment =>
                skipComment ')' true ((← get).input.length + 1)
                row fuel spaced first r
              | .reference w => row fuel spaced first (r.push .plain w)
              | .options _ =>
                if !first || r.last.isSome then failure
                row fuel (← get).seen.spaced first r
              | .look behind =>
                let outer := (← get).seen.behindFrom
                if behind && outer.isNone then
                  modify fun s => { s with seen := { s.seen with
                    behindFrom := some s.seen.groups.size } }
                let w ← branches fuel false spaced
                if behind then
                  modify fun s => { s with seen := { s.seen with behindFrom := outer } }
                  if w.least ≠ w.most || w.least > unboundedCount then failure
                require ')'
                row fuel spaced first (r.push .plain noWidth)
              | .condition g =>
                if (← get).seen.behindFrom.isSome then
                  let _ ← referTo g
                let yes ← row fuel spaced false {}
                let w ← if ← accept '|' then
                    pure (yes.either (← row fuel spaced false {}))
                  else pure ⟨0, yes.most⟩
                if (← next?) = some (.plain '|'.toNat) then failure
                require ')'
                row fuel spaced first (r.push .plain w)
              | .capture name =>
                let g ← openGroup name
                let w ← branches fuel false spaced
                require ')'
                closeGroup g w
                row fuel spaced first (r.push .plain w)
              | .plain | .atomic =>
                let w ← branches fuel false spaced
                require ')'
                row fuel spaced first (r.push .plain w)
              | .scoped on off =>
                let inner := (spaced || on.contains 'x') && !off.contains 'x'
                let w ← branches fuel false inner
                require ')'
                row fuel spaced first (r.push .plain w)
            else row fuel spaced first (r.push .plain oneWide)

end

/-! ### The whole pattern -/

/-- Does a row of pieces follow the grammar to its end? -/
def wellFormedPieces (ps : List Piece) : Bool :=
  match (branches (4 * ps.length + 8) true false).run ⟨ps, {}⟩ with
  | none => false
  | some (_, rest) =>
    rest.input.isEmpty && !(rest.seen.asciiOnly && rest.seen.unicode) &&
    rest.seen.asked.all (· < rest.seen.groups.size)

def leadingHex (t : List Char) : List Char := t.takeWhile isHexDigit

/-- The digits of an escape whose `\u` has been read, and what follows it. -/
def codeEscape? (t : List Char) : Option (List Char × List Char) :=
  let four := t.take 4
  if four.length = 4 && four.all isHexDigit then some (four, t.drop 4)
  else match t with
    | '\x7b' :: r =>
      let ds := leadingHex r
      match r.drop ds.length with
      | '\x7d' :: tail => if ds.isEmpty then none else some (ds, tail)
      | _ => none
    | _ => none

/-- The body of a literal without its `\uHHHH` and `\u{H}` escapes.  A code beyond the
    sixteen-bit range is shown as U+FFFF; one beyond the last code point is a fault. -/
def unescape : Nat → List Char → Option (List Nat)
  | 0, _ => some []
  | _ + 1, [] => some []
  | fuel + 1, c :: rest =>
    let found := match c, rest with
      | '\\', 'u' :: t => codeEscape? t
      | _, _ => none
    match found with
    | none => (unescape fuel rest).map (c.toNat :: ·)
    | some (ds, tail) =>
      let n := hexNumber ds
      if n > 0x10ffff then none
      else (unescape fuel tail).map ((if n ≤ 0xffff then n else 0xffff) :: ·)

/-- Is the text between the slashes of a literal a well-formed regular expression? -/
def wellFormed (body : List Char) : Bool :=
  match (unescape (body.length + 1) body).bind pieces with
  | none => false
  | some ps => wellFormedPieces ps

end ScriptDiagnosis.Script.Pattern
