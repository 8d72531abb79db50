/-
  ScriptDiagnosis/Proofs/Provider/Calls.lean
  ==========================================
  What a call to the provider comes to.  Each attempt has a client of its own, and the call ends as
  that client's conversation settles: the client of an attempt says all that there is to know of
  its call (`ready_replied_iff`, `ready_failed_iff`).
-/
import ScriptDiagnosis.Proofs.Provider.Incidents
import ScriptDiagnosis.Provider.Contact

namespace ScriptDiagnosis.Provider
open Text Review

theorem ofConfig_of_key {c : Config} {key : Text} (h : c.credential? = some key) :
    ∃ options, Contact.ofConfig c = .ready options := by
  rw [Contact.ofConfig, options?, h]
  exact ⟨_, rfl⟩

variable {client : Nat → Client} {options : Options} {prompt : Text} {n : Nat}

theorem ready_call (options : Options) (client : Nat → Client) (prompt : Text) (n : Nat) :
    ((Contact.ready options).reviewer client prompt n).result =
      match settled (client n).incidents (client n).text with
      | .ok t => .replied (some t)
      | .error f => .failed f := by
  rw [Contact.reviewer, Contact.complete, Contact.callOf, converse_reply]
  cases settled (client n).incidents (client n).text <;> rfl

theorem ready_replied_iff {reply : Option Text} :
    ((Contact.ready options).reviewer client prompt n).result = .replied reply ↔
      ∃ t, reply = some t ∧ Settles (client n) (.ok t) := by
  simp only [ready_call, settles_iff]
  cases settled (client n).incidents (client n).text <;> simp [eq_comm]

theorem ready_failed_iff {f : Failure} :
    ((Contact.ready options).reviewer client prompt n).result = .failed f ↔
      Settles (client n) (.error f) := by
  simp only [ready_call, settles_iff]
  cases settled (client n).incidents (client n).text <;> simp [eq_comm]

end ScriptDiagnosis.Provider
