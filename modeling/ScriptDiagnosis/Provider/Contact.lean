/-
  ScriptDiagnosis/Provider/Contact.lean
  =====================================
  Who is asked for a review: the provider's client with its options or, without a
  credential, nobody.  That a credential is missing is told by the first call, not before.
-/
import ScriptDiagnosis.Provider.Conversation
import ScriptDiagnosis.Review.Run

namespace ScriptDiagnosis.Provider
open Review

/-- Who is asked. -/
inductive Contact
  | ready (o : Options)
  | unconfigured
  deriving DecidableEq, Repr

namespace Contact

/-- The failure of a call to nobody. -/
def keyNotFound : Failure := ⟨.missingCredential, "API key not found.", none⟩

def ofConfig (c : Config) : Contact :=
  match options? c (some systemPrompt) with
  | .ok o => ready o
  | .error _ => unconfigured

/-- The options of the clients that a call makes: one, or none. -/
def clients : Contact → List Options
  | ready o => [o]
  | unconfigured => []

/-- A call about a prompt, where the client does what is given. -/
def complete (r : Contact) (client : Client) (prompt : Text) : Conversation :=
  match r with
  | ready _ => converse client prompt
  | unconfigured => ⟨[], 0, [], .error keyNotFound⟩

def callOf (c : Conversation) : Call :=
  match c.reply with
  | .ok t => ⟨.replied (some t), c.logs⟩
  | .error f => ⟨.failed f, c.logs⟩

/-- The reviewer, where each client does what is given.  Every attempt makes a client of its
    own. -/
def reviewer (r : Contact) (client : Nat → Client) : Reviewer := fun prompt attempt =>
  callOf (r.complete (client attempt) prompt)

end Contact
end ScriptDiagnosis.Provider
