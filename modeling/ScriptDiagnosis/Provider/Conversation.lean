/-
  ScriptDiagnosis/Provider/Conversation.lean
  ==========================================
  One conversation with the provider's client: it is entered, one prompt is sent, and
  messages arrive.  The reply is the text of all text blocks, in order, provided that
  nothing fails.  The first failure decides: an error result and a failure of the client are
  a denied access or a failure on the way, by their texts; a failure of the operating system
  is always one on the way; any other failure passes unchanged.
-/
import ScriptDiagnosis.Config
import ScriptDiagnosis.Log.Record
import ScriptDiagnosis.Provider.Denial

namespace ScriptDiagnosis.Provider
open Text

/-! ### What the client does -/

/-- A block of a message. -/
inductive Block
  | text (t : Text)
  | other
  deriving DecidableEq, Repr

/-- The message that ends an exchange. -/
structure ResultMessage where
  outcome : Text
  duration : Int
  isError : Bool
  result : Option Text
  deriving DecidableEq, Repr

inductive Event
  | assistant (blocks : List Block)
  | result (m : ResultMessage)
  | other
  /-- The stream of messages breaks. -/
  | broken (f : Failure)
  deriving DecidableEq, Repr

/-- What a client does in one conversation. -/
structure Client where
  entering : Option Failure := none
  asking : Option Failure := none
  events : List Event := []
  deriving Repr

/-! ### What becomes of its failures -/

/-- The failure of a call, by the provider's own words. -/
def callFailure (detail : Text) (cause : Option FailureKind) : Failure :=
  if isDenial detail then ⟨.accessDenied, ("Reviewer access denied: " : Text) ++ detail, cause⟩
  else ⟨.transport, ("Reviewer call failed: " : Text) ++ detail, cause⟩

/-- The words of an error result: its text, else its outcome. -/
def ResultMessage.detail (m : ResultMessage) : Text :=
  match m.result with
  | none => m.outcome
  | some t => if t.isEmpty then m.outcome else t

def classify (f : Failure) : Failure :=
  if f.kind.isA .provider then callFailure f.text (some f.kind)
  else if f.kind.isA .system then
    ⟨.transport, ("Could not reach the reviewer: " : Text) ++ f.text, some f.kind⟩
  else f

/-! ### A conversation -/

def blocksText : List Block → Text
  | [] => []
  | .text t :: rest => t ++ blocksText rest
  | .other :: rest => blocksText rest

def resultRecord (m : ResultMessage) : Log.Record :=
  ⟨.debug, Log.providerLogger, ("Reviewer completed in " : Text) ++ ofInt m.duration ++ "ms", false⟩

/-- What the messages come to, with what is logged. -/
def receive : List Event → List Log.Record × Except Failure Text
  | [] => ([], .ok [])
  | .other :: rest => receive rest
  | .broken f :: _ => ([], .error (classify f))
  | .assistant blocks :: rest =>
    let (logs, reply) := receive rest
    (logs, reply.map (blocksText blocks ++ ·))
  | .result m :: rest =>
    if m.isError then ([resultRecord m], .error (callFailure m.detail none))
    else
      let (logs, reply) := receive rest
      (resultRecord m :: logs, reply)

/-- What an observer sees of a conversation. -/
structure Conversation where
  /-- The prompts that were sent. -/
  queries : List Text
  /-- How often the client was left; one that could not be entered is not left. -/
  exits : Nat
  logs : List Log.Record
  reply : Except Failure Text
  deriving Repr

def converse (client : Client) (prompt : Text) : Conversation :=
  match client.entering with
  | some f => ⟨[], 0, [], .error (classify f)⟩
  | none =>
    match client.asking with
    | some f => ⟨[prompt], 1, [], .error (classify f)⟩
    | none =>
      let (logs, reply) := receive client.events
      ⟨[prompt], 1, logs, reply⟩

/-! ### The client's options -/

/-- The options that a client is made with. -/
structure Options where
  systemPrompt : Option Text
  model : Text
  maxTurns : Int
  allowedTools : List Text
  apiKey : Text
  cliPath : Option Text
  deriving DecidableEq, Repr

/-- The failure of a client without a credential. -/
def noCredential : Failure :=
  ⟨.missingCredential, "API key required for the Claude reviewer backend.", none⟩

/-- The options for a review with the given settings, if they have a credential.  A review uses
    no tools. -/
def options? (c : Config) (systemPrompt : Option Text) : Except Failure Options :=
  match c.credential? with
  | none => .error noCredential
  | some k => .ok ⟨systemPrompt, c.model, c.maxTurns, [], k, c.cliPath⟩

end ScriptDiagnosis.Provider
