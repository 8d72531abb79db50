/-
  ScriptDiagnosis/Proofs/Log/LastSetUp.lean
  =========================================
  **Records follow the last setup.**  After a first setup, whatever the loggers above this library
  were given before and whatever happens since, a record of this library is written once, to the
  stream of the last setup, if that setup's level heeds it, and nowhere else
  (`records_follow_last_setUp`).

  A history is a list of setups, of records and of levels that the provider's logger is given.
  What carries the proof is that of the loggers from the root of this library downwards no more is
  ever set than the root, and all of the root by each setup (`InForce`).  A record makes loggers,
  but changes none.
-/
import ScriptDiagnosis.Proofs.Log.Lineage

namespace ScriptDiagnosis.Log

/-! ### Histories -/

/-- What a setup lays down: the level, by whether everything is wanted, and the stream. -/
structure Setting where
  debug : Bool
  stream : Stream

namespace Setting

/-- The setting after something has happened. -/
def after (s : Setting) : Action → Setting
  | .setUp debug stream => ⟨debug, Routing.target stream⟩
  | _ => s

/-- The setting at the end of a history. -/
def last (s : Setting) (history : List Action) : Setting := history.foldl after s

/-- What is written when something happens. -/
def writes (s : Setting) : Action → List (Stream × Record)
  | .log record =>
    if (Routing.threshold s.debug).rank ≤ record.level.rank then [(s.stream, record)] else []
  | _ => []

/-- What is written in a history. -/
def writings (s : Setting) : List Action → List (Stream × Record)
  | [] => []
  | a :: history => s.writes a ++ (s.after a).writings history

end Setting

/-- The logger that a record is given to is the root of this library or stands below it. -/
def Routing.Takes (r : Routing) (record : Record) : Prop :=
  (r.loggers.ensure record.logger).InTree record.logger

/-- Every record of the history is given to a logger of this library. -/
def Routing.TakesAll (r : Routing) (history : List Action) : Prop :=
  ∀ before record later, history = before ++ .log record :: later → (r.run before).Takes record

/-- The names that stand for loggers of this library, whichever loggers there are. -/
def IsOfTree (name : Text) : Prop :=
  name = rootLogger ∨ ∃ rest : Text, name = rootLogger ++ '.' :: rest ∧ rest.head? ≠ some '.'

theorem isOfTree_checkLogger : IsOfTree checkLogger :=
  .inr ⟨"pipeline.stage1_syntax", by decide, by decide⟩

theorem isOfTree_reviewLogger : IsOfTree reviewLogger :=
  .inr ⟨"pipeline.stage2_semantic", by decide, by decide⟩

theorem isOfTree_diagnosisLogger : IsOfTree diagnosisLogger :=
  .inr ⟨"pipeline.runner", by decide, by decide⟩

theorem isOfTree_providerLogger : IsOfTree providerLogger :=
  .inr ⟨"tools.reviewer_tool", by decide, by decide⟩

/-! ### Loggers that are made and changed -/

namespace Loggers

variable {ls : Loggers} {name : Text}

@[simp] theorem named_ensure (ls : Loggers) (name : Text) : (ls.ensure name).named = ls.named := by
  rw [ensure]
  split <;> rfl

theorem mem_known_ensure (n : Text) (h : name ∈ ls.known) : name ∈ (ls.ensure n).known := by
  rw [ensure]
  split
  · exact h
  · exact .tail _ h

theorem mem_known_change (n : Text) (f : Logger → Logger) (h : name ∈ ls.known) :
    name ∈ (ls.change n f).known := mem_known_ensure n h

theorem named_change (f : Logger → Logger) (n : Text) :
    (ls.change name f).named n = if n = name then f (ls.named n) else ls.named n := by
  rw [change]
  simp

theorem named_change_of_ne (f : Logger → Logger) {n : Text} (h : n ≠ name) :
    (ls.change name f).named n = ls.named n := by
  rw [named_change, if_neg h]

theorem mem_known_change_self (f : Logger → Logger) (h : namesTop name = false) :
    name ∈ (ls.change name f).known := by
  show name ∈ (ls.ensure name).known
  rw [ensure]
  split
  · next hknown => simpa [h] using hknown
  · exact .head _

theorem Untouched.ensure (h : ls.Untouched) (name : Text) : (ls.ensure name).Untouched := by
  intro n hn
  rw [named_ensure]
  exact h n hn

theorem Untouched.change (h : ls.Untouched) (f : Logger → Logger)
    (hname : ¬ GoesOn name rootLogger) : (ls.change name f).Untouched := by
  intro n hn
  rw [named_change_of_ne f (by rintro rfl; exact hname hn)]
  exact h n hn

end Loggers

theorem not_goesOn_sdkLogger : ¬ GoesOn sdkLogger rootLogger := by
  rintro ⟨hbegins, _⟩
  exact absurd hbegins (by decide)

/-! ### The setting in force -/

/-- The root of this library is set up as the setting has it, and nothing below it is set. -/
structure InForce (s : Setting) (ls : Loggers) : Prop where
  root : ls.named rootLogger = ⟨Routing.threshold s.debug, [s.stream], false⟩
  known : rootLogger ∈ ls.known
  untouched : ls.Untouched

namespace InForce

variable {s : Setting} {ls : Loggers} {name : Text}

theorem ensure (h : InForce s ls) (name : Text) : InForce s (ls.ensure name) := by
  constructor
  · rw [Loggers.named_ensure]
    exact h.root
  · exact Loggers.mem_known_ensure name h.known
  · exact h.untouched.ensure name

/-- The provider's logger is not one of this library. -/
theorem change_sdkLogger (h : InForce s ls) (f : Logger → Logger) :
    InForce s (ls.change sdkLogger f) := by
  constructor
  · rw [Loggers.named_change_of_ne f (by decide)]
    exact h.root
  · exact Loggers.mem_known_change sdkLogger f h.known
  · exact h.untouched.change f not_goesOn_sdkLogger

theorem quieten (h : InForce s ls) : InForce s (Routing.quieten ls) :=
  h.change_sdkLogger fun l => { l with level := .warning }

theorem inTree (h : InForce s ls) (hname : IsOfTree name) : ls.InTree name := by
  rcases hname with rfl | ⟨rest, rfl, hdot⟩
  · exact Loggers.inTree_root ls
  · exact Loggers.inTree_child h.known hdot

theorem leastLevel_eq (h : InForce s ls) (hname : ls.InTree name) :
    ls.leastLevel name = Routing.threshold s.debug := by
  have hset : (ls.named rootLogger).level ≠ .notSet := by
    rw [h.root]
    show Routing.threshold s.debug ≠ .notSet
    cases s.debug <;> decide
  rw [Loggers.leastLevel_eq h.untouched hname hset, h.root]

theorem passed_eq (h : InForce s ls) (hname : ls.InTree name) :
    none ∉ ls.passed name ∧ ls.streams name = [s.stream] := by
  obtain ⟨htop, hstreams⟩ := Loggers.passed_eq h.untouched hname (by rw [h.root])
  rw [h.root] at hstreams
  exact ⟨htop, hstreams⟩

theorem heeds_eq (h : InForce s ls) (hname : ls.InTree name) (level : Level) :
    ls.heeds name level = decide ((Routing.threshold s.debug).rank ≤ level.rank) := by
  have hpos : 0 < (Routing.threshold s.debug).rank := by cases s.debug <;> decide
  rw [Loggers.heeds, h.leastLevel_eq hname, Bool.and_eq_decide, decide_eq_decide]
  simp only [decide_eq_true_eq]
  omega

end InForce

/-! ### Steps -/

namespace Routing

variable {s : Setting} {r : Routing}

/-- A setup does away with whatever the root was given before. -/
theorem inForce_setUp (h : r.loggers.Untouched) (debug : Bool) (stream : Option Stream) :
    InForce ⟨debug, target stream⟩ (r.setUp debug stream).loggers := by
  have hroot : ¬ GoesOn rootLogger rootLogger := fun hgoesOn => hgoesOn.2 rfl
  apply InForce.quieten
  constructor
  · rw [Loggers.named_change, if_pos rfl]
    rfl
  · exact Loggers.mem_known_change_self _ (by decide)
  · exact h.change _ hroot

theorem loggers_log (r : Routing) (record : Record) :
    (r.log record).loggers = r.loggers.ensure record.logger := by
  rw [log]
  split
  · split
    · split <;> rfl
    · rfl
  · rfl

/-- Whatever happens, nothing below the root of this library is set. -/
theorem untouched_act (h : r.loggers.Untouched) (a : Action) : (r.act a).loggers.Untouched := by
  cases a with
  | setUp debug stream => exact (inForce_setUp h debug stream).untouched
  | setProviderLevel level => exact h.change (fun l => { l with level }) not_goesOn_sdkLogger
  | log record =>
    rw [act, loggers_log]
    exact h.ensure record.logger

/-- Whatever happens, the setting that is then in force is that of the last setup. -/
theorem inForce_act (h : InForce s r.loggers) (a : Action) :
    InForce (s.after a) (r.act a).loggers := by
  cases a with
  | setUp debug stream => exact inForce_setUp h.untouched debug stream
  | setProviderLevel level => exact h.change_sdkLogger fun l => { l with level }
  | log record =>
    rw [act, loggers_log]
    exact h.ensure record.logger

/-- A record that this library takes is written to the one stream of the setting. -/
theorem log_of_takes (h : InForce s r.loggers) {record : Record} (htakes : r.Takes record) :
    (r.log record).written = r.written ++ s.writes (.log record) ∧
      (r.log record).bare = r.bare := by
  have hensured := h.ensure record.logger
  have hheeds := hensured.heeds_eq htakes record.level
  have hstreams := (hensured.passed_eq htakes).2
  rw [log]
  dsimp only
  rw [hheeds, hstreams, Setting.writes]
  split
  · next hlevel =>
    rw [if_pos (of_decide_eq_true hlevel)]
    exact ⟨rfl, rfl⟩
  · next hlevel =>
    rw [if_neg (by simpa using hlevel), List.append_nil]
    exact ⟨rfl, rfl⟩

theorem act_writes (h : InForce s r.loggers) {a : Action}
    (htakes : ∀ record, a = .log record → r.Takes record) :
    (r.act a).written = r.written ++ s.writes a ∧ (r.act a).bare = r.bare := by
  cases a with
  | setUp debug stream => exact ⟨(List.append_nil _).symm, rfl⟩
  | setProviderLevel level => exact ⟨(List.append_nil _).symm, rfl⟩
  | log record => exact log_of_takes h (htakes record rfl)

/-- A setup takes the provider's logger back to warnings, whatever level it has. -/
theorem sdkLevel_setUp (r : Routing) (debug : Bool) (stream : Option Stream) :
    ((r.setUp debug stream).loggers.named sdkLogger).level = .warning := by
  rw [setUp, quieten, quietLoggers, List.foldl_cons, List.foldl_nil, Loggers.named_change,
    if_pos rfl]

/-! ### Whole histories -/

theorem untouched_run (h : r.loggers.Untouched) (history : List Action) :
    (r.run history).loggers.Untouched := by
  induction history generalizing r with
  | nil => exact h
  | cons a history ih => exact ih (untouched_act h a)

/-- The setting in force after a history is the last one that was made in it. -/
theorem inForce_run (h : InForce s r.loggers) (history : List Action) :
    InForce (s.last history) (r.run history).loggers := by
  induction history generalizing s r with
  | nil => exact h
  | cons a history ih => exact ih (inForce_act h a)

theorem TakesAll.tail {a : Action} {history : List Action} (h : r.TakesAll (a :: history)) :
    (r.act a).TakesAll history := by
  rintro before record later rfl
  exact h (a :: before) record later rfl

/-- **A history writes what its settings say,** record by record. -/
theorem run_writes (h : InForce s r.loggers) {history : List Action} (htakes : r.TakesAll history) :
    (r.run history).written = r.written ++ s.writings history ∧ (r.run history).bare = r.bare := by
  induction history generalizing s r with
  | nil => exact ⟨(List.append_nil _).symm, rfl⟩
  | cons a history ih =>
    have hnow : ∀ record, a = .log record → r.Takes record := by
      rintro record rfl
      exact htakes [] record history rfl
    obtain ⟨hwritten, hbare⟩ := act_writes h hnow
    obtain ⟨hrest, hrestBare⟩ := ih (inForce_act h a) htakes.tail
    constructor
    · show ((r.act a).run history).written = _
      rw [hrest, hwritten, Setting.writings, List.append_assoc]
    · exact hrestBare.trans hbare

theorem takesAll_of_names (h : InForce s r.loggers) {history : List Action}
    (hnames : ∀ record, .log record ∈ history → IsOfTree record.logger) : r.TakesAll history := by
  rintro before record later rfl
  have hname := hnames record (List.mem_append_right _ (.head _))
  exact ((inForce_run h before).ensure record.logger).inTree hname

end Routing

/-- What is true after a history that a setup came before. -/
structure RoutingLaws (start : Routing) (s : Setting) (history : List Action) : Prop where
  /-- What has been written is every record that the last setup before it heeds, once. -/
  written : start.TakesAll history →
    (start.run history).written = start.written ++ s.writings history ∧
      (start.run history).bare = start.bare
  /-- So is a record that comes next, whatever else was logged in the history. -/
  next : ∀ record, (start.run history).Takes record →
    ((start.run history).log record).written =
        (start.run history).written ++ (s.last history).writes (.log record) ∧
      ((start.run history).log record).bare = (start.run history).bare ∧
      none ∉ ((start.run history).loggers.ensure record.logger).passed record.logger
  handlers : ((start.run history).loggers.named rootLogger).handlers = [(s.last history).stream]
  names : (∀ record, .log record ∈ history → IsOfTree record.logger) → start.TakesAll history
  quiet : ∀ debug stream,
    (((start.run history).setUp debug stream).loggers.named sdkLogger).level = .warning

/-- **Records follow the last setup,** over any history behind a first one, whatever happened
    earlier. -/
theorem records_follow_last_setUp {r : Routing} (h : r.loggers.Untouched) (earlier : List Action)
    (debug : Bool) (stream : Option Stream) (history : List Action) :
    RoutingLaws ((r.run earlier).setUp debug stream) ⟨debug, Routing.target stream⟩ history := by
  have hstart := Routing.inForce_setUp (Routing.untouched_run h earlier) debug stream
  have hforce := Routing.inForce_run hstart history
  constructor
  case written => exact fun htakes => Routing.run_writes hstart htakes
  case next =>
    intro record htakes
    obtain ⟨hwritten, hbare⟩ := Routing.log_of_takes hforce htakes
    exact ⟨hwritten, hbare, ((hforce.ensure record.logger).passed_eq htakes).1⟩
  case handlers => rw [hforce.root]
  case names => exact fun hnames => Routing.takesAll_of_names hstart hnames
  case quiet => exact fun debug stream => Routing.sdkLevel_setUp _ debug stream

/-- Loggers that others have used: the one above all has a handler, the root of this library an old
    one that it shares with it, and the provider's logger shows everything. -/
def worn : Loggers :=
  { top := { level := .warning, handlers := [.standardOutput] }
    known := [rootLogger, sdkLogger]
    named := fun name =>
      if name = rootLogger then { handlers := [.other 0] }
      else if name = sdkLogger then { level := .debug }
      else {} }

/-- Two setups, and records of which the second is not a warning. -/
def twoSetUps : List Action :=
  [.log ⟨.info, diagnosisLogger, "first", false⟩, .setProviderLevel .debug, .setUp false none,
    .log ⟨.info, diagnosisLogger, "second", false⟩, .log ⟨.warning, reviewLogger, "third", false⟩]

/-- Before the first setup a record goes to both handlers that are there. -/
theorem records_follow_last_setUp_worn :
    worn.Untouched ∧
    ((Routing.setUp true (some (.other 1)) (Routing.run { loggers := worn }
        [.log ⟨.warning, checkLogger, "early", false⟩])).run twoSetUps).written =
      [(.other 0, ⟨.warning, checkLogger, "early", false⟩),
        (.standardOutput, ⟨.warning, checkLogger, "early", false⟩),
        (.other 1, ⟨.info, diagnosisLogger, "first", false⟩),
        (.standardError, ⟨.warning, reviewLogger, "third", false⟩)] := by
  have hworn : worn.Untouched := by
    intro name hname
    have hroot : name ≠ rootLogger := fun heq => hname.2 heq.symm
    have hsdk : name ≠ sdkLogger := by
      rintro rfl
      exact not_goesOn_sdkLogger hname
    simp [worn, hroot, hsdk]
  -- what was set up and logged before leaves no trace
  have hlaws := records_follow_last_setUp (r := { loggers := worn }) hworn
    [.log ⟨.warning, checkLogger, "early", false⟩] true (some (.other 1)) twoSetUps
  have hnames : ∀ record, .log record ∈ twoSetUps → IsOfTree record.logger := by
    intro record hrecord
    have hlogger : record.logger = diagnosisLogger ∨ record.logger = reviewLogger := by
      simp only [twoSetUps, List.mem_cons, List.not_mem_nil, Action.log.injEq, reduceCtorEq,
        false_or, or_false] at hrecord
      rcases hrecord with rfl | rfl | rfl
      · exact .inl rfl
      · exact .inl rfl
      · exact .inr rfl
    rcases hlogger with hlogger | hlogger
    · rw [hlogger]
      exact isOfTree_diagnosisLogger
    · rw [hlogger]
      exact isOfTree_reviewLogger
  refine ⟨hworn, ?_⟩
  rw [(hlaws.written (hlaws.names hnames)).1]
  decide

end ScriptDiagnosis.Log
