/-
  ScriptDiagnosis/Proofs/CommandLine/Flags.lean
  =============================================
  The flags that say how a check is shown.  Nothing in the reading of a command line looks at
  which of them are on already, so turning one on before the reading is turning it on afterwards
  (`Reading.read_withFlags`).  Hence flags that follow the command ask for the same check with
  those flags on, and for the same help or the same complaint where there is no check
  (`readArguments_flags`).
-/
import ScriptDiagnosis.CommandLine.Arguments
import ScriptDiagnosis.Proofs.Except

namespace ScriptDiagnosis.CommandLine
open Text

/-- The options, with more flags on. -/
def CheckOptions.withFlags (json debug : Bool) (o : CheckOptions) : CheckOptions :=
  { o with json := o.json || json, debug := o.debug || debug }

/-- What is known, with more flags on. -/
def Reading.withFlags (json debug : Bool) (r : Reading) : Reading :=
  { r with options := r.options.withFlags json debug }

/-- What is asked for, with more flags on if it is a check. -/
def Request.withFlags (json debug : Bool) : Request → Request
  | .check o => .check (o.withFlags json debug)
  | r => r

/-- The arguments that turn flags on. -/
def flagArguments (json debug : Bool) : List Text :=
  (if json then [("--json" : Text)] else []) ++ if debug then [("--debug" : Text)] else []

/-! ### Reading on -/

section Reading

variable (json debug : Bool)

theorem Reading.turnOn_withFlags (r : Reading) (s : Switch) :
    (r.withFlags json debug).turnOn s = (r.turnOn s).map (Reading.withFlags json debug) := by
  cases s <;> rfl

theorem Reading.readOption_withFlags (r : Reading) (s : Switch) (value : Option Text) :
    (r.withFlags json debug).readOption s value =
      (r.readOption s value).map (Reading.withFlags json debug) := by
  cases value with
  | none => exact Reading.turnOn_withFlags json debug r s
  | some v =>
    rw [Reading.readOption, Reading.readOption]
    split <;> rfl

theorem Reading.turnAllOn_withFlags (switches : List Switch) (r : Reading) :
    switches.foldlM Reading.turnOn (r.withFlags json debug) =
      (switches.foldlM Reading.turnOn r).map (Reading.withFlags json debug) := by
  induction switches generalizing r with
  | nil => rfl
  | cons s switches ih =>
    rw [List.foldlM_cons, List.foldlM_cons, Reading.turnOn_withFlags]
    cases r.turnOn s with
    | error e => rfl
    | ok r => exact ih r

theorem Reading.readLetters_withFlags (r : Reading) (s : Switch) (more : Text) :
    (r.withFlags json debug).readLetters s more =
      (r.readLetters s more).map (Reading.withFlags json debug) := by
  rw [Reading.readLetters, Reading.readLetters]
  cases bundled checkTable s more with
  | error e => rfl
  | ok switches => exact Reading.turnAllOn_withFlags json debug switches r

/-- **Reading on does not look at the flags.** -/
theorem Reading.read_withFlags (items : List Item) (r : Reading) :
    (r.withFlags json debug).read items = (r.read items).map (Reading.withFlags json debug) := by
  fun_induction Reading.read r items with
  | case1 r => rfl
  -- each question that the reader asks has the same answer with flags on
  | case2 r t rest hfile ih =>
    have hsame : (r.withFlags json debug).options.file.isNone = true := hfile
    rw [Reading.read, if_pos hsame]
    exact ih
  | case3 r t rest hfile ih =>
    have hsame : ¬ (r.withFlags json debug).options.file.isNone = true := hfile
    rw [Reading.read, if_neg hsame]
    exact ih
  | case4 r rest hends ih =>
    have hsame : ((r.withFlags json debug).options.file.isNone ||
        (r.withFlags json debug).atFile) = true := hends
    rw [Reading.read, if_pos hsame]
    exact ih
  | case5 r rest hends ih =>
    have hsame : ¬ ((r.withFlags json debug).options.file.isNone ||
        (r.withFlags json debug).atFile) = true := hends
    rw [Reading.read, if_neg hsame]
    exact ih
  | case6 r t rest ih => exact ih
  | case7 r v rest ih => exact ih
  | case8 r s value rest hnot r' hread ih =>
    rw [Reading.read, Reading.readOption_withFlags, hread]
    · exact ih
    · exact hnot
  | case9 r s value rest hnot e hread =>
    rw [Reading.read, Reading.readOption_withFlags, hread]
    · rfl
    · exact hnot
  | case10 r s more rest r' hread ih =>
    rw [Reading.read, Reading.readLetters_withFlags, hread]
    exact ih
  | case11 r s more rest e hread =>
    rw [Reading.read, Reading.readLetters_withFlags, hread]
    rfl

end Reading

/-! ### Whole command lines -/

/-- An argument that turns on flags, and which: the command knows it, the program does not. -/
structure IsFlag (t : Text) (json debug : Bool) : Prop where
  atTop : classify topTable t = .ok (.unknown t)
  ne : t ≠ ['-', '-']
  read : ∃ s, s ≠ .model ∧ classify checkTable t = .ok (.option s none) ∧
    Reading.readOption {} s none = .ok (Reading.withFlags json debug {})

theorem isFlag_json : IsFlag "--json" true false where
  atTop := rfl
  ne := by decide
  read := ⟨.json, by decide, rfl, rfl⟩

theorem isFlag_debug : IsFlag "--debug" false true where
  atTop := rfl
  ne := by decide
  read := ⟨.debug, by decide, rfl, rfl⟩

theorem classifyAll_cons {table : Table} {t : Text} {item : Item} (ht : t ≠ ['-', '-'])
    (hitem : classify table t = .ok item) (rest : List Text) :
    classifyAll table (t :: rest) = (classifyAll table rest).map (item :: ·) := by
  rw [classifyAll, if_neg ht, hitem]
  rfl

theorem length_classifyAll {table : Table} {args : List Text} {items : List Item}
    (h : classifyAll table args = .ok items) : items.length = args.length := by
  induction args generalizing items with
  | nil =>
    cases h
    rfl
  | cons t rest ih =>
    rw [classifyAll] at h
    split at h
    · cases h
      simp
    · obtain ⟨item, _, h⟩ := bind_eq_ok_iff.mp h
      obtain ⟨items, hrest, h⟩ := bind_eq_ok_iff.mp h
      cases h
      rw [List.length_cons, List.length_cons, ih hrest]

/-- Behind the command, the arguments are those of the command, provided that the program can tell
    what each of them is. -/
theorem readArguments_command (rest : List Text) :
    readArguments ("check" :: rest) =
      match classifyAll topTable rest with
      | .error f => .refused .program f
      | .ok _ => readCommand [] "check" rest := by
  have hcommand : classify topTable "check" = .ok (.plain "check") := rfl
  rw [readArguments, classifyAll_cons (by decide) hcommand]
  cases hrest : classifyAll topTable rest with
  | error f => rfl
  | ok items =>
    have hlength := length_classifyAll hrest
    show readCommand [] "check" ((rest.zip items).map Prod.fst) = _
    rw [List.map_fst_zip (Nat.le_of_eq hlength.symm)]

section Flag

variable {t : Text} {json debug : Bool}

/-- A flag is read first, and then the rest as it would be without it. -/
theorem IsFlag.readCheck (h : IsFlag t json debug) (rest : List Text) :
    readCheck (t :: rest) =
      (readCheck rest).map fun (o, extras) => (o.withFlags json debug, extras) := by
  obtain ⟨s, hmodel, hitem, hread⟩ := h.read
  rw [CommandLine.readCheck, CommandLine.readCheck, classifyAll_cons h.ne hitem]
  cases classifyAll checkTable rest with
  | error f => rfl
  | ok items =>
    show (Reading.read {} (.option s none :: items)).map _ = _
    rw [Reading.read, hread]
    · dsimp only
      rw [Reading.read_withFlags]
      cases Reading.read {} items <;> rfl
    · exact fun _ _ _ hs _ => hmodel hs

/-- So a flag behind the command turns itself on and changes nothing else. -/
theorem IsFlag.readArguments (h : IsFlag t json debug) (rest : List Text) :
    readArguments ("check" :: t :: rest) =
      (readArguments ("check" :: rest)).withFlags json debug := by
  rw [readArguments_command, readArguments_command, classifyAll_cons h.ne h.atTop]
  cases classifyAll topTable rest with
  | error f => rfl
  | ok items =>
    show readCommand [] "check" (t :: rest) = (readCommand [] "check" rest).withFlags json debug
    rw [readCommand, readCommand, if_pos rfl, if_pos rfl, h.readCheck]
    cases CommandLine.readCheck rest with
    | error stop => cases stop <;> rfl
    | ok asked =>
      obtain ⟨o, extras⟩ := asked
      show checkRequest (o.withFlags json debug) ([] ++ extras) =
        (checkRequest o ([] ++ extras)).withFlags json debug
      rw [checkRequest, checkRequest]
      split <;> rfl

end Flag

/-- Flags that follow the command ask for the same, with those flags on. -/
theorem readArguments_flags (json debug : Bool) (rest : List Text) :
    readArguments ("check" :: (flagArguments json debug ++ rest)) =
      (readArguments ("check" :: rest)).withFlags json debug := by
  have htwice : ∀ q : Request, (q.withFlags false debug).withFlags json false =
      q.withFlags json debug := by
    intro q
    cases q <;> simp [Request.withFlags, CheckOptions.withFlags]
  have hnone : ∀ q : Request, q.withFlags false false = q := by
    intro q
    cases q <;> simp [Request.withFlags, CheckOptions.withFlags]
  have hdebug : readArguments ("check" :: (flagArguments false debug ++ rest)) =
      (readArguments ("check" :: rest)).withFlags false debug := by
    cases debug with
    | false => exact (hnone _).symm
    | true => exact isFlag_debug.readArguments rest
  rw [← htwice, ← hdebug]
  cases json with
  | false => exact (hnone _).symm
  | true => exact isFlag_json.readArguments (flagArguments false debug ++ rest)

end ScriptDiagnosis.CommandLine
