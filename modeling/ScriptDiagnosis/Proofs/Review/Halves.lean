/-
  ScriptDiagnosis/Proofs/Review/Halves.lean
  =========================================
  What marks do to a review.  A reviewer with marks is called as often as without: only failures are
  retried, and they have no marks.  The two reviews differ by the reading of the reply that decides
  them at most (`review_marked`).
-/
import ScriptDiagnosis.Proofs.Review.Attempts
import ScriptDiagnosis.Review.Halves

namespace ScriptDiagnosis.Review
open Text Json

variable {c : Config} {calls : Nat → Call}

theorem retries_marked (attempt : Nat) (r : CallResult) :
    retries c attempt r.marked = retries c attempt r := by
  cases r <;> rfl

theorem CallResult.marked_eq_failed_iff {r : CallResult} {f : Failure} :
    r.marked = .failed f ↔ r = .failed f := by
  cases r <;> simp [CallResult.marked]

theorem endsAt_marked_iff {first last : Nat} :
    EndsAt c (fun n => (calls n).marked) first last ↔ EndsAt c calls first last := by
  have hretries : ∀ n, retries c n (calls n).marked.result = retries c n (calls n).result :=
    fun n => retries_marked n (calls n).result
  constructor
  · rintro ⟨hle, hretried, hdecides⟩
    simp only [hretries] at hretried hdecides
    exact ⟨hle, hretried, hdecides⟩
  · rintro ⟨hle, hretried, hdecides⟩
    simp only [← hretries] at hretried hdecides
    exact ⟨hle, hretried, hdecides⟩

/-- The call that decides a review decides it with marks as well. -/
theorem review_marked {key : Text} (hkey : c.credential? = some key) {request : Request}
    {reviewer : Reviewer} {n : Nat} (h : EndsAt c (reviewer (prompt request)) 1 n) :
    (review c request (Reviewer.marked reviewer)).result =
      endOf c n (reviewer (prompt request) n).result.marked :=
  review_result_of_endsAt hkey (endsAt_marked_iff.mpr h)

end ScriptDiagnosis.Review
