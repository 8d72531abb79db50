/-
  ScriptDiagnosis/Proofs/Review/Taxonomy.lean
  ===========================================
  Which failures leave a review.  Where the reviewer fails only in ways that the review knows,
  the review itself fails in another way in two cases and no others: the reply that decides it
  meets a limit of the decoder, or there is no pause before a retry (`failures_escape_iff`).
  There is none from the 1025th retry on, if the backoff is a number in floating point; from
  the first one on, if the number of attempts is too long for the warning; and where a whole
  number of seconds has become too large to be shown.  Both cases do occur.
-/
import ScriptDiagnosis.Proofs.Json.Refusals
import ScriptDiagnosis.Proofs.Reply.Fault
import ScriptDiagnosis.Proofs.Review.Attempts
import ScriptDiagnosis.Proofs.Text.Integers

namespace ScriptDiagnosis.Review
open Text Reply

/-! ### The deciding call -/

/-- A call that would be retried and is not has no pause behind it. -/
theorem EndsAt.not_hasPause {c : Config} {calls : Nat → Call} {first n : Nat} {f : Failure}
    (hends : EndsAt c calls first n) (hcall : (calls n).result = .failed f)
    (htries : triesAgain c n f = true) : ¬ HasPause c n := by
  have hdecides := hends.decides
  rw [hcall] at hdecides
  simpa [retries, htries] using hdecides

/-! ### What escapes -/

def EndsBeyondLimits (calls : Nat → Call) (n : Nat) : Prop :=
  ∃ reply, (calls n).result = .replied reply ∧ ReplyBeyondLimits reply

/-- The call that decides a review would be retried, if there was a pause. -/
def EndsWithoutPause (c : Config) (calls : Nat → Call) (n : Nat) : Prop :=
  ¬ HasPause c n ∧ (n : Int) < c.maxAttempts ∧
    ∃ f, (calls n).result = .failed f ∧ f.kind.retryable = true

theorem pauseFailure_not_ofReview (c : Config) (retry : Nat) :
    (pauseFailure c retry).kind.ofReview = false := by
  rw [pauseFailure]
  split <;> rfl

/-- What escapes a run: a reply beyond the limits of the decoder, or an attempt that is left
    without a pause. -/
theorem endOf_escapes_iff {c : Config} {calls : Nat → Call} {n : Nat}
    (hends : EndsAt c calls 1 n)
    (hcalls : ∀ n f, (calls n).result = .failed f → f.kind.ofReview = true) :
    (∃ f, endOf c n (calls n).result = .error f ∧ f.kind.ofReview = false) ↔
      EndsBeyondLimits calls n ∨ EndsWithoutPause c calls n := by
  cases hcall : (calls n).result with
  | replied reply =>
    -- a reply is never without a pause
    have hpause : ¬ EndsWithoutPause c calls n := by
      rintro ⟨_, _, f, hf, _⟩
      rw [hcall] at hf
      cases hf
    constructor
    · rintro ⟨f, hend, hkind⟩
      cases hread : readReply reply with
      | ok a =>
        rw [endOf, hread] at hend
        cases hend
      | error e =>
        rw [endOf, hread] at hend
        cases hend
        rcases readReply_error_kind hread with ⟨hmalformed, _⟩ | ⟨_, hlimit⟩
        · rw [hmalformed] at hkind
          cases hkind
        · exact .inl ⟨reply, hcall, hlimit⟩
    · rintro (⟨reply', hreply, hlimit⟩ | h)
      · rw [hcall] at hreply
        cases hreply
        obtain ⟨e, hread, hkind⟩ := exists_fault_of_replyBeyondLimits hlimit
        refine ⟨e.failure, by rw [endOf, hread]; rfl, ?_⟩
        rcases hkind with hkind | hkind <;> rw [hkind] <;> rfl
      · exact absurd h hpause
  | failed f =>
    -- and a failure has no reply to be beyond the limits
    have hlimits : ¬ EndsBeyondLimits calls n := by
      rintro ⟨reply, hreply, _⟩
      rw [hcall] at hreply
      cases hreply
    constructor
    · rintro ⟨g, hend, hkind⟩
      by_cases htries : triesAgain c n f = true
      · refine .inr ⟨hends.not_hasPause hcall htries, ?_, f, hcall, ?_⟩ <;>
          simp_all [triesAgain]
      · rw [endOf, if_neg htries] at hend
        cases hend
        rw [hcalls n f hcall] at hkind
        cases hkind
    · rintro (h | ⟨_, hleft, g, hg, hretryable⟩)
      · exact absurd h hlimits
      · rw [hcall] at hg
        cases hg
        have htries : triesAgain c n f = true := by simp [triesAgain, hretryable, hleft]
        exact ⟨pauseFailure c n, by rw [endOf, if_pos htries], pauseFailure_not_ofReview c n⟩

/-- **What escapes.**  A reply is refused with something else than a malformed reply exactly
    when it meets a limit of the decoder.  A review whose reviewer fails only as the review
    knows fails in another way exactly when the call that decides it brings such a reply, or
    would be retried and there is no pause before the retry. -/
theorem failures_escape_iff {c : Config} {request : Request} {reviewer : Reviewer}
    (hreviewer : ∀ n f, (reviewer (prompt request) n).result = .failed f →
      f.kind.ofReview = true) :
    (∀ reply, (∃ f, readReply reply = .error f ∧ f.failure.kind ≠ .malformedReply) ↔
      ReplyBeyondLimits reply) ∧
    ((∃ f, (review c request reviewer).result = .error f ∧ f.kind.ofReview = false) ↔
      (∃ key, c.credential? = some key) ∧
        ∃ n, EndsAt c (reviewer (prompt request)) 1 n ∧
          (EndsBeyondLimits (reviewer (prompt request)) n ∨
            EndsWithoutPause c (reviewer (prompt request)) n)) := by
  constructor
  · intro reply
    constructor
    · rintro ⟨f, hread, hkind⟩
      rcases readReply_error_kind hread with ⟨hmalformed, _⟩ | ⟨_, hlimit⟩
      · exact absurd hmalformed hkind
      · exact hlimit
    · intro hlimit
      obtain ⟨f, hread, hkind⟩ := exists_fault_of_replyBeyondLimits hlimit
      refine ⟨f, hread, ?_⟩
      rcases hkind with hkind | hkind <;> rw [hkind] <;> decide
  · constructor
    · rintro ⟨f, hresult, hkind⟩
      cases hkey : c.credential? with
      | none =>
        rw [review_of_no_credential hkey] at hresult
        cases hresult
        cases hkind
      | some key =>
        obtain ⟨hends, hend⟩ := review_endsAt hkey request reviewer
        refine ⟨⟨key, rfl⟩, _, hends, ?_⟩
        exact (endOf_escapes_iff hends hreviewer).mp ⟨f, hend.symm.trans hresult, hkind⟩
    · rintro ⟨⟨key, hkey⟩, n, hends, hcase⟩
      rw [review_result_of_endsAt hkey hends]
      exact (endOf_escapes_iff hends hreviewer).mpr hcase

/-! ### Where it happens -/

/-- Settings that leave one attempt more than there are factors for. -/
def relentless : Config := { apiKey := some "k", maxAttempts := mostRetries + 2 }

theorem hasPause_relentless {n : Nat} : HasPause relentless n ↔ n ≤ mostRetries :=
  and_iff_right (by decide +kernel)

/-- Settings that leave more attempts than can be written. -/
def boundless : Config where
  apiKey := some "k"
  maxAttempts := (10 ^ maxDigits : Nat)
  attempts_pos := Int.ofNat_le.mpr (Nat.one_le_pow _ _ (by decide))

theorem not_writable_boundless : writable boundless.maxAttempts = false :=
  not_writable_of_le (Nat.le_refl _)

theorem not_hasPause_boundless (n : Nat) : ¬ HasPause boundless n := by
  rintro ⟨hwritable, _⟩
  rw [not_writable_boundless] at hwritable
  cases hwritable

def unreachable : Reviewer := fun _ _ => ⟨.failed ⟨.transport, "down", none⟩, []⟩

/-- A provider that is never reached is asked once more than there are factors. -/
theorem endsAt_unreachable (prompt : Text) :
    EndsAt relentless (unreachable prompt) 1 (mostRetries + 1) where
  le := by decide
  retried := by
    intro k _ hk
    refine retries_eq_true_iff.mpr
      ⟨_, rfl, rfl, ?_, hasPause_relentless.mpr (Nat.le_of_lt_succ hk)⟩
    show (k : Int) < mostRetries + 2
    omega
  decides := by
    have hpause : ¬ HasPause relentless (mostRetries + 1) := by
      rw [hasPause_relentless]
      decide
    simp [unreachable, retries, hpause]

theorem endsAt_boundless (prompt : Text) : EndsAt boundless (unreachable prompt) 1 1 :=
  .refl (by simp [unreachable, retries, not_hasPause_boundless])

theorem failures_escape_unreachable :
    (∀ n f, (unreachable (prompt ⟨"x();", none⟩) n).result = .failed f →
      f.kind.ofReview = true) ∧
    ∃ f, (review relentless ⟨"x();", none⟩ unreachable).result = .error f ∧
      f.kind.ofReview = false := by
  have hreviewer : ∀ n f, (unreachable (prompt ⟨"x();", none⟩) n).result = .failed f →
      f.kind.ofReview = true := by
    intro n f h
    cases h
    rfl
  have hends := endsAt_unreachable (prompt ⟨"x();", none⟩)
  have hpause : EndsWithoutPause relentless (unreachable (prompt ⟨"x();", none⟩))
      (mostRetries + 1) :=
    ⟨by rw [hasPause_relentless]; decide, by decide, _, rfl, rfl⟩
  exact ⟨hreviewer, (failures_escape_iff hreviewer).2.mpr ⟨⟨_, rfl⟩, _, hends, .inr hpause⟩⟩

theorem readReply_replicate {c : Char} (hplain : IsPlain c) {n : Nat} (hn : n ≠ 0) :
    readReply (some (List.replicate n c)) = decodeBody (List.replicate n c) >>= ofJson := by
  refine readReply_of_plain (c := c) (d := c) ?_ ?_ hplain hplain
  · rw [List.head?_replicate, if_neg hn]
  · rw [List.getLast?_replicate, if_neg hn]

/-- A long enough row of digits, a deep enough row of brackets, a long enough row of failures
    and a single failure with too many attempts left each end in a failure that is not one of
    the review. -/
theorem limits_escape :
    (∃ f, readReply (some (List.replicate 4301 '1')) = .error f ∧ f.failure.kind = .value) ∧
    (∃ f, readReply (some (List.replicate 991 '[')) = .error f ∧ f.failure.kind = .recursion) ∧
    (review relentless ⟨"x();", none⟩ unreachable).result = .error factorOverflow ∧
    (review boundless ⟨"x();", none⟩ unreachable).result = .error .unwritable := by
  refine ⟨⟨.tooManyDigits 4301, ?_, rfl⟩, ⟨.tooDeep true, ?_, rfl⟩, ?_, ?_⟩
  · rw [readReply_replicate ⟨by decide, by decide⟩ (by decide), decodeBody,
      Json.decode, Json.decode_ones _ (by decide)]
    rfl
  · rw [readReply_replicate ⟨by decide, by decide⟩ (by decide), decodeBody,
      Json.decode, Json.decode_brackets (by decide)]
    rfl
  · rw [review_result_of_endsAt rfl (endsAt_unreachable _)]
    rfl
  · have htries : triesAgain boundless 1 ⟨.transport, "down", none⟩ = true := by decide +kernel
    rw [review_result_of_endsAt rfl (endsAt_boundless _)]
    show endOf boundless 1 (.failed _) = _
    rw [endOf, if_pos htries, pauseFailure, not_writable_boundless]
    rfl

end ScriptDiagnosis.Review
