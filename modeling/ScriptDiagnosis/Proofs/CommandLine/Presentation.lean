/-
  ScriptDiagnosis/Proofs/CommandLine/Presentation.lean
  ====================================================
  **How a check is shown does not change what it does.**  Two runs that ask for the same check, as
  JSON or not and with all records or not, end alike, send the same prompts and pause alike; what
  they print differs only with the form, and what they log only with the level
  (`presentation_immaterial`).

  The records of a check are the same in both runs (`emitted`), and each of them is given to a
  logger of this library (`ofTree_emitted`).  The setup that every run begins with therefore sends
  those that its level heeds to standard error, and none to anything else.
-/
import ScriptDiagnosis.Proofs.CommandLine.Flags
import ScriptDiagnosis.Proofs.CommandLine.Status
import ScriptDiagnosis.Proofs.Log.LastSetUp
import ScriptDiagnosis.Proofs.Review.Timeline

namespace ScriptDiagnosis.CommandLine
open Text SyntaxCheck Provider Review
open Diagnosis (diagnose conclude)

/-! ### Whose records they are -/

/-- The records are given to loggers of this library. -/
def OfTree (records : List Log.Record) : Prop := ∀ record ∈ records, Log.IsOfTree record.logger

theorem ofTree_nil : OfTree [] := nofun

theorem OfTree.append {records more : List Log.Record} (h : OfTree records) (hmore : OfTree more) :
    OfTree (records ++ more) := List.forall_mem_append.mpr ⟨h, hmore⟩

theorem ofTree_cons {record : Log.Record} {records : List Log.Record}
    (h : Log.IsOfTree record.logger) (hrecords : OfTree records) : OfTree (record :: records) :=
  List.forall_mem_cons.mpr ⟨h, hrecords⟩

theorem ofTree_loggedVerdict (mode : Mode) (snippet : Text) (answer : ParserAnswer) :
    OfTree (loggedVerdict mode snippet answer).1 := by
  rw [loggedVerdict]
  split
  · exact ofTree_cons Log.isOfTree_checkLogger ofTree_nil
  · exact ofTree_nil

/-- What is logged of a conversation is logged in the tree. -/
theorem ofTree_receive (events : List Provider.Event) : OfTree (receive events).1 := by
  induction events with
  | nil => exact ofTree_nil
  | cons e rest ih =>
    cases e with
    | other => exact ih
    | broken f => exact ofTree_nil
    | assistant blocks => exact ih
    | result m =>
      rw [receive]
      split
      · exact ofTree_cons Log.isOfTree_providerLogger ofTree_nil
      · exact ofTree_cons Log.isOfTree_providerLogger ih

theorem ofTree_converse (client : Client) (prompt : Text) :
    OfTree (converse client prompt).logs := by
  rw [converse]
  split
  · exact ofTree_nil
  · split
    · exact ofTree_nil
    · exact ofTree_receive client.events

theorem ofTree_reviewer (contact : Contact) (client : Nat → Client) (prompt : Text) (n : Nat) :
    OfTree (contact.reviewer client prompt n).logs := by
  have hcall : ∀ c : Conversation, (Contact.callOf c).logs = c.logs := by
    intro c
    rw [Contact.callOf]
    split <;> rfl
  rw [Contact.reviewer, hcall]
  cases contact with
  | unconfigured => exact ofTree_nil
  | ready options => exact ofTree_converse (client n) prompt

theorem ofTree_afterCall (c : Config) (attempt : Nat) (r : CallResult) :
    OfTree (afterCall c attempt r).1 := by
  cases r with
  | replied reply =>
    rw [afterCall]
    split
    · exact ofTree_cons Log.isOfTree_reviewLogger ofTree_nil
    · exact ofTree_nil
  | failed f =>
    rw [afterCall]
    split
    · split
      · exact ofTree_cons Log.isOfTree_reviewLogger ofTree_nil
      · exact ofTree_nil
    · exact ofTree_nil

theorem ofTree_attempts {calls : Nat → Call} (hcalls : ∀ n, OfTree (calls n).logs) (c : Config)
    (prompt : Text) (attempt : Nat) : OfTree (attempts c prompt calls attempt).logs := by
  -- the number of attempts that are left falls with every call that is retried
  rcases hafter : afterCall c attempt (calls attempt).result with ⟨logs, decision⟩
  have hlogs : OfTree logs := by
    have h := ofTree_afterCall c attempt (calls attempt).result
    rwa [hafter] at h
  cases decision with
  | finish result =>
    rw [attempts_of_finish prompt hafter]
    exact (hcalls attempt).append hlogs
  | retry d =>
    have hleft := afterCall_retry_lt hafter
    rw [attempts_of_retry prompt hafter]
    exact ((hcalls attempt).append hlogs).append (ofTree_attempts hcalls c prompt (attempt + 1))
termination_by (c.maxAttempts - attempt).toNat
decreasing_by omega

theorem ofTree_review {reviewer : Reviewer} (h : ∀ prompt n, OfTree (reviewer prompt n).logs)
    (c : Config) (request : Review.Request) : OfTree (review c request reviewer).logs := by
  rw [review]
  split
  · exact ofTree_nil
  · exact ofTree_attempts (h _) c _ 1

theorem ofTree_settle (r : Except Failure Reply.Analysis) : OfTree (settle r).1 := by
  cases r with
  | ok a => exact ofTree_nil
  | error f =>
    rw [settle]
    split
    · exact ofTree_cons Log.isOfTree_diagnosisLogger ofTree_nil
    · split
      · exact ofTree_cons Log.isOfTree_diagnosisLogger ofTree_nil
      · exact ofTree_nil

theorem ofTree_conclude (s : SyntaxResult) (r : Except Failure Reply.Analysis) :
    OfTree (conclude s r).1 := by
  have hsettle := ofTree_settle r
  rw [conclude]
  split
  · next logs f heq =>
    rw [heq] at hsettle
    exact hsettle
  · next logs settled heq =>
    rw [heq] at hsettle
    exact hsettle.append (ofTree_cons Log.isOfTree_diagnosisLogger ofTree_nil)

theorem ofTree_diagnose {reviewer : Reviewer} (h : ∀ prompt n, OfTree (reviewer prompt n).logs)
    (mode : Mode) (answer : ParserAnswer) (c : Config) (snippet : Text) :
    OfTree (diagnose mode answer c reviewer snippet).logs := by
  have hverdict := ofTree_loggedVerdict mode snippet answer
  rw [diagnose]
  split
  · next logs f heq =>
    rw [heq] at hverdict
    exact hverdict
  · next logs s heq =>
    rw [heq] at hverdict
    have hchecked : OfTree (Diagnosis.checkedRecords s) :=
      ofTree_cons Log.isOfTree_diagnosisLogger
        (ofTree_cons Log.isOfTree_diagnosisLogger ofTree_nil)
    exact ((hverdict.append hchecked).append (ofTree_review h c _)).append (ofTree_conclude s _)

/-! ### The records of a check -/

variable {parse : Text → ParserAnswer} {w : World} {o o' : CheckOptions}

/-- The records of a review, which are none without settings. -/
def reviewedRecords (parse : Text → ParserAnswer) (w : World) (o : CheckOptions) (t : Text) :
    List Log.Record :=
  match configOf w o with
  | .error _ => []
  | .ok c =>
    (diagnose (modeOf o) (parse (sourceFor (modeOf o) t)) c
      ((Contact.ofConfig c).reviewer w.client) t).logs

/-- The records of a check, whether or not they are shown. -/
def emitted (parse : Text → ParserAnswer) (w : World) (o : CheckOptions) : List Log.Record :=
  match readSnippet w o with
  | .error f => if f.kind.isA .system then [unreadableRecord o f] else []
  | .ok t =>
    if isBlankText t then []
    else if o.syntaxOnly then (loggedVerdict (modeOf o) t (parse (sourceFor (modeOf o) t))).1
    else reviewedRecords parse w o t

/-- **Every record of a check belongs to the tree.** -/
theorem ofTree_emitted (parse : Text → ParserAnswer) (w : World) (o : CheckOptions) :
    OfTree (emitted parse w o) := by
  rw [emitted]
  split
  · split
    · exact ofTree_cons (.inl rfl) ofTree_nil
    · exact ofTree_nil
  · split
    · exact ofTree_nil
    · split
      · exact ofTree_loggedVerdict _ _ _
      · rw [reviewedRecords]
        split
        · exact ofTree_nil
        · next c _ => exact ofTree_diagnose (ofTree_reviewer (Contact.ofConfig c) w.client) _ _ c _

theorem logs_runSyntaxOnly (t : Text) :
    (runSyntaxOnly parse o t).logs =
      written o (loggedVerdict (modeOf o) t (parse (sourceFor (modeOf o) t))).1 := by
  rw [runSyntaxOnly]
  split
  · next heq => rw [heq]
  · next heq => rw [heq]

theorem logs_runReviewed (t : Text) :
    (runReviewed parse w o t).logs = written o (reviewedRecords parse w o t) := by
  cases hconfig : configOf w o with
  | error f =>
    rw [runReviewed, reviewedRecords, hconfig]
    rfl
  | ok c =>
    rw [runReviewed_eq hconfig, reviewedRecords, hconfig, reported]
    split
    · rfl
    · split <;> rfl

/-- What is seen of the records is those that the flags let through. -/
theorem logs_runCheck (parse : Text → ParserAnswer) (w : World) (o : CheckOptions) :
    (runCheck parse w o).logs = written o (emitted parse w o) := by
  rw [runCheck, emitted]
  cases readSnippet w o with
  | error f =>
    dsimp only
    split <;> rfl
  | ok t =>
    dsimp only
    split
    · rfl
    · split
      · exact logs_runSyntaxOnly t
      · exact logs_runReviewed t

/-! ### Where they go -/

/-- Is a record of this level shown? -/
def shows (o : CheckOptions) (record : Log.Record) : Bool :=
  (Log.Routing.threshold o.debug).rank ≤ record.level.rank

/-- What a run logs are those of the records that its level heeds.  They go to standard error, and
    nothing goes to anything else. -/
structure LogsTo (o : CheckOptions) (records : List Log.Record) (r : Outcome) : Prop where
  heeded : r.logs = records.filter (shows o)
  written : (routed o records).written =
    r.logs.map fun record => (Log.Stream.standardError, record)
  bare : (routed o records).bare = []

theorem writings_records (s : Log.Setting) (records : List Log.Record) :
    s.writings (records.map .log) =
      (records.filter fun record =>
        (Log.Routing.threshold s.debug).rank ≤ record.level.rank).map fun record =>
          (s.stream, record) := by
  induction records with
  | nil => rfl
  | cons record records ih =>
    have hafter : s.after (.log record) = s := rfl
    rw [List.map_cons, Log.Setting.writings, Log.Setting.writes, hafter, ih, List.filter_cons]
    simp only [decide_eq_true_eq]
    split <;> rfl

/-- Records of the tree go to the stream of errors, as they are, if they are severe enough. -/
theorem routed_of_ofTree (o : CheckOptions) {records : List Log.Record} (h : OfTree records) :
    (routed o records).written =
        (records.filter (shows o)).map (fun record => (Log.Stream.standardError, record)) ∧
      (routed o records).bare = [] := by
  have hstart := Log.Routing.inForce_setUp (r := Log.Routing.initial) (fun _ _ => rfl) o.debug none
  have hnames : ∀ record, .log record ∈ records.map Log.Action.log →
      Log.IsOfTree record.logger := by
    intro record hrecord
    obtain ⟨_, hmem, heq⟩ := List.mem_map.mp hrecord
    cases heq
    exact h record hmem
  have hrouted : routed o records =
      (Log.Routing.initial.setUp o.debug none).run (records.map .log) := by
    rw [routed, Log.Routing.run, List.foldl_map]
    rfl
  obtain ⟨hwritten, hbare⟩ :=
    Log.Routing.run_writes hstart (Log.Routing.takesAll_of_names hstart hnames)
  rw [hrouted, hwritten, hbare, writings_records]
  exact ⟨List.nil_append _, rfl⟩

theorem logsTo_runCheck (parse : Text → ParserAnswer) (w : World) (o : CheckOptions) :
    LogsTo o (emitted parse w o) (runCheck parse w o) := by
  obtain ⟨hrouted, hbare⟩ := routed_of_ofTree o (ofTree_emitted parse w o)
  have hlogs : (runCheck parse w o).logs = (emitted parse w o).filter (shows o) := by
    rw [logs_runCheck, written, Log.Routing.recordsOf, hrouted]
    simp [List.filter_map, Function.comp_def]
  exact ⟨hlogs, by rw [hlogs, hrouted], hbare⟩

/-! ### Two ways of showing -/

/-- The same check, shown in another way. -/
def SameCheck (o o' : CheckOptions) : Prop := o' = { o with json := o'.json, debug := o'.debug }

theorem SameCheck.modeOf_eq (h : SameCheck o o') : modeOf o' = modeOf o := by
  rw [h]
  rfl

/-- Two runs do the same, whatever is seen of it on standard output and in the log. -/
structure SameCourse (r r' : Outcome) : Prop where
  ending : r.ending = r'.ending
  notice : r.notice = r'.notice
  delays : r.delays = r'.delays
  clients : r.clients = r'.clients
  queries : r.queries = r'.queries

theorem sameCourse_runSyntaxOnly (h : SameCheck o o') (t : Text) :
    SameCourse (runSyntaxOnly parse o t) (runSyntaxOnly parse o' t) ∧
      (o.json = o'.json →
        (runSyntaxOnly parse o t).stdout = (runSyntaxOnly parse o' t).stdout) := by
  rw [runSyntaxOnly, runSyntaxOnly, h.modeOf_eq]
  split
  · exact ⟨⟨rfl, rfl, rfl, rfl, rfl⟩, fun _ => rfl⟩
  · refine ⟨⟨rfl, rfl, rfl, rfl, rfl⟩, ?_⟩
    intro hjson
    dsimp only
    rw [verdictText, verdictText, hjson]

/-- Whether a diagnosis can be printed does not depend on how it is shown. -/
theorem printed_sameResult (o o' : CheckOptions) (d : Diagnosis)
    (marked : Except Failure Diagnosis) :
    (∃ f f', printed o d marked = .error f ∧ printed o' d marked = .error f') ∨
      (printed o d marked = .ok (diagnosisText o d) ∧
        printed o' d marked = .ok (diagnosisText o' d)) := by
  by_cases hhalf : Diagnosis.HasHalf d marked
  · obtain ⟨f, hf⟩ := Diagnosis.printed_of_hasHalf (o := o) hhalf
    obtain ⟨f', hf'⟩ := Diagnosis.printed_of_hasHalf (o := o') hhalf
    exact .inl ⟨f, f', hf, hf'⟩
  · exact .inr ⟨Diagnosis.printed_of_not_hasHalf hhalf, Diagnosis.printed_of_not_hasHalf hhalf⟩

/-- A diagnosis is reported with the same status, whether or not it can be printed. -/
theorem sameCourse_reported (contact : Contact) (client : Nat → Client) (t : Diagnosis.Trace)
    (marked : Except Failure Diagnosis) :
    SameCourse (reported o contact client t marked) (reported o' contact client t marked) ∧
      (o.json = o'.json → (reported o contact client t marked).stdout =
        (reported o' contact client t marked).stdout) := by
  rw [reported, reported]
  cases t.result with
  | error f => exact ⟨⟨rfl, rfl, rfl, rfl, rfl⟩, fun _ => rfl⟩
  | ok d =>
    dsimp only
    rcases printed_sameResult o o' d marked with ⟨f, f', hf, hf'⟩ | ⟨ht, ht'⟩
    · rw [hf, hf']
      exact ⟨⟨rfl, rfl, rfl, rfl, rfl⟩, fun _ => rfl⟩
    · rw [ht, ht']
      refine ⟨⟨rfl, rfl, rfl, rfl, rfl⟩, ?_⟩
      intro hjson
      dsimp only
      rw [diagnosisText, diagnosisText, hjson]

/-- So a check with a review takes the same course. -/
theorem sameCourse_runReviewed (h : SameCheck o o') (t : Text) :
    SameCourse (runReviewed parse w o t) (runReviewed parse w o' t) ∧
      (o.json = o'.json →
        (runReviewed parse w o t).stdout = (runReviewed parse w o' t).stdout) := by
  have hsettings : configOf w o' = configOf w o := by
    rw [h]
    rfl
  cases hconfig : configOf w o with
  | error f =>
    rw [runReviewed, runReviewed, hsettings, hconfig]
    exact ⟨⟨rfl, rfl, rfl, rfl, rfl⟩, fun _ => rfl⟩
  | ok c =>
    rw [runReviewed_eq hconfig, runReviewed_eq (hsettings.trans hconfig), h.modeOf_eq]
    exact sameCourse_reported _ _ _ _

/-- So does every check. -/
theorem sameCourse_runCheck (parse : Text → ParserAnswer) (w : World) (h : SameCheck o o') :
    SameCourse (runCheck parse w o) (runCheck parse w o') ∧
      (o.json = o'.json → (runCheck parse w o).stdout = (runCheck parse w o').stdout) := by
  have hread : readSnippet w o' = readSnippet w o := by
    rw [h]
    rfl
  have honly : o'.syntaxOnly = o.syntaxOnly := by rw [h]
  rw [runCheck, runCheck, hread, honly]
  split
  · split
    · exact ⟨⟨rfl, rfl, rfl, rfl, rfl⟩, fun _ => rfl⟩
    · exact ⟨⟨rfl, rfl, rfl, rfl, rfl⟩, fun _ => rfl⟩
  · split
    · exact ⟨⟨rfl, rfl, rfl, rfl, rfl⟩, fun _ => rfl⟩
    · split
      · exact sameCourse_runSyntaxOnly h _
      · exact sameCourse_runReviewed h _

theorem emitted_eq (h : SameCheck o o') : emitted parse w o' = emitted parse w o := by
  rw [h]
  rfl

/-- What two ways of showing a check have in common. -/
structure PresentationLaws (o o' : CheckOptions) (r r' : Outcome) : Prop where
  course : SameCourse r r'
  /-- The log does not show on standard output. -/
  stdout : o.json = o'.json → r.stdout = r'.stdout
  records : ∃ records, LogsTo o records r ∧ LogsTo o' records r'

/-- **How a check is shown does not change what it does,** for any arguments that ask for the same
    check otherwise; and a flag behind the command asks for no more than that. -/
theorem presentation_immaterial {args args' : List Text} {o o' : CheckOptions}
    (hargs : readArguments args = .check o) (hargs' : readArguments args' = .check o')
    (hsame : SameCheck o o') (parse : Text → ParserAnswer) (w : World) :
    PresentationLaws o o' (run parse w args) (run parse w args') ∧
      ∀ json debug rest, readArguments ("check" :: (flagArguments json debug ++ rest)) =
        (readArguments ("check" :: rest)).withFlags json debug := by
  have hrun : run parse w args = runCheck parse w o := by rw [run, hargs]
  have hrun' : run parse w args' = runCheck parse w o' := by rw [run, hargs']
  obtain ⟨hcourse, hstdout⟩ := sameCourse_runCheck parse w hsame
  refine ⟨?_, readArguments_flags⟩
  rw [hrun, hrun']
  refine ⟨hcourse, hstdout, emitted parse w o, logsTo_runCheck parse w o, ?_⟩
  have hlogs := logsTo_runCheck parse w o'
  rwa [emitted_eq hsame] at hlogs

/-- The first client cannot be entered, so both runs wait once before they ask. -/
theorem presentation_immaterial_secondTry :
    readArguments ["check"] = .check {} ∧
    readArguments ["check", "--json", "--debug"] = .check { json := true, debug := true } ∧
    SameCheck {} { json := true, debug := true } ∧
    (run oneStatement secondTry ["check", "--json", "--debug"]).ending = .exit 0 ∧
    (run oneStatement secondTry ["check", "--json", "--debug"]).delays = [.float .half] ∧
    (run oneStatement secondTry ["check", "--json", "--debug"]).queries.length = 1 := by
  have hargs : readArguments ["check"] = .check {} := rfl
  have hargs' : readArguments ["check", "--json", "--debug"] =
      .check { json := true, debug := true } := rfl
  have hlaws := (presentation_immaterial hargs hargs' rfl oneStatement secondTry).1
  refine ⟨hargs, hargs', rfl, ?_, ?_, ?_⟩
  · rw [← hlaws.course.ending]
    decide +kernel
  · rw [← hlaws.course.delays]
    decide +kernel
  · rw [← hlaws.course.queries]
    decide +kernel

end ScriptDiagnosis.CommandLine
