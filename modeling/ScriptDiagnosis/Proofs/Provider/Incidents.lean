/-
  ScriptDiagnosis/Proofs/Provider/Incidents.lean
  ==============================================
  **The first incident decides a conversation.**  What a client does is read for what goes wrong
  in it, in order: it fails when it is entered, when it is asked, or while messages arrive, or an
  error result arrives (`Client.incidents`).  If there is nothing, the reply is the text of all
  text blocks; otherwise the first incident alone says which failure leaves the call
  (`Settles`), and what the client would have done after it makes no difference
  (`conversation_settles`).
-/
import ScriptDiagnosis.Provider.Conversation
import ScriptDiagnosis.Proofs.Text.Occurrence

namespace ScriptDiagnosis.Provider
open Text

/-! ### What goes wrong, and what is said -/

/-- What can go wrong in a conversation. -/
inductive Incident
  /-- The client fails. -/
  | broken (f : Failure)
  /-- An error result arrives. -/
  | refused (m : ResultMessage)

namespace Event

def incident? : Event → Option Incident
  | .broken f => some (.broken f)
  | .result m => if m.isError then some (.refused m) else none
  | .assistant _ | .other => none

/-- The texts that an event says; nothing but a text block says any. -/
def texts : Event → List Text
  | .assistant blocks => blocks.filterMap fun
    | .text t => some t
    | .other => none
  | .result _ | .broken _ | .other => []

def record? : Event → Option Log.Record
  | .result m => some (resultRecord m)
  | .assistant _ | .broken _ | .other => none

/-- The events up to the first incident, and the incident. -/
def untilIncident : List Event → List Event
  | [] => []
  | e :: rest => if e.incident?.isSome then [e] else e :: untilIncident rest

end Event

namespace Client

/-- All that would go wrong, in order.  Only the first of it happens. -/
def incidents (c : Client) : List Incident :=
  (c.entering.toList ++ c.asking.toList).map .broken ++ c.events.filterMap Event.incident?

def text (c : Client) : Text := (c.events.flatMap Event.texts).flatten

/-- What the client does up to the first incident. -/
def untilIncident (c : Client) : Client :=
  match c.entering, c.asking with
  | some f, _ => { entering := some f }
  | none, some f => { asking := some f }
  | none, none => { events := Event.untilIncident c.events }

end Client

/-! ### The failure that an incident ends in -/

/-- A signal occurs in the text, in any case. -/
def ShowsDenial (t : Text) : Prop := ∃ signal ∈ denialSignals, signal <:+: lowered t

/-- The words of an error result: its text, or its outcome if there is none. -/
inductive Words (m : ResultMessage) : Text → Prop
  | text {t : Text} (h : m.result = some t) (hne : t ≠ []) : Words m t
  | outcome (h : m.result = none ∨ m.result = some []) : Words m m.outcome

/-- The failure that leaves the call: denied or on the way, by the words of the provider; on the
    way, where the operating system failed; and any other as it came. -/
inductive FailsWith : Incident → Failure → Prop
  | denied {m : ResultMessage} {detail : Text} (hwords : Words m detail)
      (h : ShowsDenial detail) :
      FailsWith (.refused m) ⟨.accessDenied, ("Reviewer access denied: " : Text) ++ detail, none⟩
  | refused {m : ResultMessage} {detail : Text} (hwords : Words m detail)
      (h : ¬ ShowsDenial detail) :
      FailsWith (.refused m) ⟨.transport, ("Reviewer call failed: " : Text) ++ detail, none⟩
  | providerDenied {f : Failure} (hkind : f.kind.isA .provider = true) (h : ShowsDenial f.text) :
      FailsWith (.broken f)
        ⟨.accessDenied, ("Reviewer access denied: " : Text) ++ f.text, some f.kind⟩
  | provider {f : Failure} (hkind : f.kind.isA .provider = true) (h : ¬ ShowsDenial f.text) :
      FailsWith (.broken f) ⟨.transport, ("Reviewer call failed: " : Text) ++ f.text, some f.kind⟩
  | system {f : Failure} (hkind : f.kind.isA .system = true) :
      FailsWith (.broken f)
        ⟨.transport, ("Could not reach the reviewer: " : Text) ++ f.text, some f.kind⟩
  | unchanged {f : Failure} (hprovider : f.kind.isA .provider = false)
      (hsystem : f.kind.isA .system = false) : FailsWith (.broken f) f

/-- How a conversation with the client ends. -/
inductive Settles (c : Client) : Except Failure Text → Prop
  | replies (h : c.incidents = []) : Settles c (.ok c.text)
  | fails {i : Incident} {rest : List Incident} {f : Failure} (h : c.incidents = i :: rest)
      (hf : FailsWith i f) : Settles c (.error f)

/-- The words of a result are its text, or its outcome where there is none. -/
theorem words_iff {m : ResultMessage} {detail : Text} : Words m detail ↔ detail = m.detail := by
  constructor
  · intro h
    cases h with
    | text h hne =>
      rw [ResultMessage.detail, h]
      simp [hne]
    | outcome h =>
      rw [ResultMessage.detail]
      rcases h with h | h
      · rw [h]
      · rw [h]
        rfl
  · rintro rfl
    rw [ResultMessage.detail]
    split
    · next h => exact .outcome (.inl h)
    · next t h =>
      split
      · next hempty => exact .outcome (.inr (by rw [h, List.isEmpty_iff.mp hempty]))
      · next hempty => exact .text h fun hnil => hempty (by rw [hnil]; rfl)

/-- The test for a denial looks for the signals and for nothing else. -/
theorem isDenial_iff {t : Text} : isDenial t = true ↔ ShowsDenial t := by
  rw [isDenial, List.any_eq_true, ShowsDenial]
  simp only [occurs_iff]

/-- No failure is both the provider's and the system's. -/
theorem not_provider_of_system {k : FailureKind} (h : k.isA .system = true) :
    k.isA .provider = false := by
  revert h
  cases k <;> simp [FailureKind.isA, FailureKind.lineage, FailureKind.above]

theorem callFailure_of_denial {detail : Text} (h : ShowsDenial detail)
    (cause : Option FailureKind) : callFailure detail cause =
      ⟨.accessDenied, ("Reviewer access denied: " : Text) ++ detail, cause⟩ := by
  rw [callFailure, if_pos (isDenial_iff.mpr h)]

theorem callFailure_of_not_denial {detail : Text} (h : ¬ ShowsDenial detail)
    (cause : Option FailureKind) : callFailure detail cause =
      ⟨.transport, ("Reviewer call failed: " : Text) ++ detail, cause⟩ := by
  rw [callFailure, if_neg (mt isDenial_iff.mp h)]

/-- The failure that a conversation gives for an incident. -/
def Incident.failure : Incident → Failure
  | .broken f => classify f
  | .refused m => callFailure m.detail none

/-- Each incident fails with what the program makes of it. -/
theorem failsWith_failure (i : Incident) : FailsWith i i.failure := by
  cases i with
  | refused m =>
    have hwords : Words m m.detail := words_iff.mpr rfl
    rw [Incident.failure]
    by_cases h : ShowsDenial m.detail
    · rw [callFailure_of_denial h]
      exact .denied hwords h
    · rw [callFailure_of_not_denial h]
      exact .refused hwords h
  | broken f =>
    rw [Incident.failure, classify]
    split
    · next hprovider =>
      by_cases h : ShowsDenial f.text
      · rw [callFailure_of_denial h]
        exact .providerDenied hprovider h
      · rw [callFailure_of_not_denial h]
        exact .provider hprovider h
    · next hprovider =>
      split
      · next hsystem => exact .system hsystem
      · next hsystem =>
        exact .unchanged (Bool.eq_false_iff.mpr hprovider) (Bool.eq_false_iff.mpr hsystem)

theorem FailsWith.eq_failure {i : Incident} {f : Failure} (h : FailsWith i f) : f = i.failure := by
  cases h with
  | denied hwords h =>
    rw [Incident.failure, ← words_iff.mp hwords, callFailure_of_denial h]
  | refused hwords h =>
    rw [Incident.failure, ← words_iff.mp hwords, callFailure_of_not_denial h]
  | providerDenied hkind h =>
    rw [Incident.failure, classify, if_pos hkind, callFailure_of_denial h]
  | provider hkind h =>
    rw [Incident.failure, classify, if_pos hkind, callFailure_of_not_denial h]
  | system hkind =>
    have hprovider := Bool.eq_false_iff.mp (not_provider_of_system hkind)
    rw [Incident.failure, classify, if_neg hprovider, if_pos hkind]
  | unchanged hprovider hsystem =>
    rw [Incident.failure, classify, if_neg (Bool.eq_false_iff.mp hprovider),
      if_neg (Bool.eq_false_iff.mp hsystem)]

theorem FailsWith.classified {i : Incident} {f : Failure} (h : FailsWith i f) :
    f.kind.isA .provider = false ∧ f.kind.isA .system = false := by
  cases h with
  | denied | refused | providerDenied | provider | system => exact ⟨rfl, rfl⟩
  | unchanged hprovider hsystem => exact ⟨hprovider, hsystem⟩

/-! ### The messages -/

/-- What a conversation comes to, by what goes wrong in it and by what is said. -/
def settled (incidents : List Incident) (t : Text) : Except Failure Text :=
  match incidents with
  | [] => .ok t
  | i :: _ => .error i.failure

/-- What messages settle is what the program makes of them. -/
theorem settles_iff {c : Client} {r : Except Failure Text} :
    Settles c r ↔ r = settled c.incidents c.text := by
  constructor
  · intro h
    cases h with
    | replies h => rw [h, settled]
    | fails h hf => rw [h, settled, hf.eq_failure]
  · rintro rfl
    cases h : c.incidents with
    | nil => exact .replies h
    | cons i rest => exact .fails h (failsWith_failure i)

theorem settled_append (incidents : List Incident) (said t : Text) :
    settled incidents (said ++ t) = (settled incidents t).map (said ++ ·) := by
  cases incidents <;> rfl

theorem texts_assistant (blocks : List Block) :
    (Event.texts (.assistant blocks)).flatten = blocksText blocks := by
  induction blocks with
  | nil => rfl
  | cons b rest ih =>
    cases b with
    | text t => exact congrArg (t ++ ·) ih
    | other => exact ih

/-- What is received is the text of all messages, up to the first incident. -/
theorem receive_reply (events : List Event) : (receive events).2 =
    settled (events.filterMap Event.incident?) (events.flatMap Event.texts).flatten := by
  induction events with
  | nil => rfl
  | cons e rest ih =>
    cases e with
    | assistant blocks =>
      rw [List.flatMap_cons, List.flatten_append, texts_assistant, settled_append]
      exact congrArg (Except.map (blocksText blocks ++ ·)) ih
    | result m =>
      rw [receive]
      by_cases herror : m.isError = true
      · rw [if_pos herror, List.filterMap_cons_some (by rw [Event.incident?, if_pos herror])]
        rfl
      · rw [if_neg herror, List.filterMap_cons_none (by rw [Event.incident?, if_neg herror])]
        exact ih
    | other => exact ih
    | broken f => rfl

theorem receive_logs (events : List Event) :
    (receive events).1 = (Event.untilIncident events).filterMap Event.record? := by
  induction events with
  | nil => rfl
  | cons e rest ih =>
    cases e with
    | assistant blocks => exact ih
    | result m =>
      rw [receive, Event.untilIncident, Event.incident?]
      by_cases herror : m.isError = true
      · rw [if_pos herror, if_pos herror]
        rfl
      · rw [if_neg herror, if_neg herror]
        exact congrArg (resultRecord m :: ·) ih
    | other => exact ih
    | broken f => rfl

/-- Nothing behind the first incident is received. -/
theorem receive_untilIncident (events : List Event) :
    receive (Event.untilIncident events) = receive events := by
  induction events with
  | nil => rfl
  | cons e rest ih =>
    cases e with
    | assistant blocks =>
      rw [Event.untilIncident, if_neg (by simp [Event.incident?]), receive, receive, ih]
    | result m =>
      rw [Event.untilIncident, Event.incident?]
      by_cases herror : m.isError = true
      · rw [if_pos herror, Option.isSome_some, if_pos rfl, receive, if_pos herror, receive,
          if_pos herror]
      · rw [if_neg herror, Option.isSome_none, if_neg Bool.false_ne_true, receive, receive, ih]
    | other => exact ih
    | broken f => rfl

/-! ### Whole conversations -/

section Conversation

variable (client : Client) (prompt : Text)

/-- A conversation comes to what its messages settle. -/
theorem converse_reply :
    (converse client prompt).reply = settled client.incidents client.text := by
  obtain ⟨entering, asking, events⟩ := client
  cases entering with
  | some f => rfl
  | none =>
    cases asking with
    | some f => rfl
    | none => exact receive_reply events

/-- Whatever would come after an incident makes no difference. -/
theorem converse_untilIncident :
    converse client.untilIncident prompt = converse client prompt := by
  obtain ⟨entering, asking, events⟩ := client
  cases entering with
  | some f => rfl
  | none =>
    cases asking with
    | some f => rfl
    | none =>
      have h := receive_untilIncident events
      rw [converse, converse]
      dsimp only [Client.untilIncident]
      rw [h]

/-- What is seen of a conversation besides its reply: the prompt is sent once, a client that was
    entered is left once, and each result message up to the first incident is logged. -/
structure SeenOf (client : Client) (prompt : Text) (seen : Conversation) : Prop where
  queries : seen.queries = if client.entering.isSome then [] else [prompt]
  exits : seen.exits = if client.entering.isSome then 0 else 1
  logs : seen.logs = client.untilIncident.events.filterMap Event.record?

theorem converse_seen : SeenOf client prompt (converse client prompt) := by
  obtain ⟨entering, asking, events⟩ := client
  cases entering with
  | some f => exact ⟨rfl, rfl, rfl⟩
  | none =>
    cases asking with
    | some f => exact ⟨rfl, rfl, rfl⟩
    | none => exact ⟨rfl, rfl, receive_logs events⟩

/-- **The first incident decides a conversation,** and without one its reply is all that was
    said.  No failure of the client or of the operating system leaves a call unclassified. -/
theorem conversation_settles :
    (∀ r, (converse client prompt).reply = r ↔ Settles client r) ∧
      converse client.untilIncident prompt = converse client prompt ∧
      (∀ f, (converse client prompt).reply = .error f →
        f.kind.isA .provider = false ∧ f.kind.isA .system = false) ∧
      SeenOf client prompt (converse client prompt) := by
  refine ⟨?_, converse_untilIncident client prompt, ?_, converse_seen client prompt⟩
  · intro r
    rw [converse_reply, settles_iff, eq_comm]
  · intro f hf
    rw [converse_reply] at hf
    cases settles_iff.mpr hf.symm with
    | fails h hf => exact hf.classified

end Conversation

/-- What was said before a denial is not returned. -/
example : (converse { events := [.assistant [.text "a"],
    .result ⟨"error", 5, true, some "HTTP 403"⟩, .assistant [.text "b"]] } "x").reply =
      .error ⟨.accessDenied, "Reviewer access denied: HTTP 403", none⟩ := by rfl

end ScriptDiagnosis.Provider
