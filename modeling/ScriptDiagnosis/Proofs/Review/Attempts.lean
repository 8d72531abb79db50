/-
  ScriptDiagnosis/Proofs/Review/Attempts.lean
  ===========================================
  Which call decides a review.  A call is followed by another exactly when it failed in a way
  that is worth retrying, attempts are left, and there is a pause before the next one;
  otherwise it is the last, and the review ends as `endOf` says.  The whole run is then
  described by its last call alone (`attempts_endsAt`): every call before it was retried, and
  the number of prompts counts the calls.

  Whether there is a pause depends on the settings and on the number of the retry alone
  (`HasPause`), and where there is none, there is none later either (`HasPause.mono`).
-/
import ScriptDiagnosis.Proofs.Except
import ScriptDiagnosis.Review.Run

namespace ScriptDiagnosis.Review
open Text Reply

/-! ### Pauses -/

/-- The backoff, doubled for this retry, is a length that can be found and shown. -/
def Fits (retry : Nat) : Seconds → Prop
  | .float _ => retry ≤ mostRetries
  | .whole n => n.natAbs * Nat.pow 2 (retry - 1) < Seconds.wholeLimit

instance (retry : Nat) : (backoff : Seconds) → Decidable (Fits retry backoff)
  | .float _ => inferInstanceAs (Decidable (_ ≤ _))
  | .whole _ => inferInstanceAs (Decidable (_ < _))

/-- There is a pause before this retry: the warning can be written, with the number of
    attempts in it, and the length of the pause fits. -/
def HasPause (c : Config) (retry : Nat) : Prop :=
  writable c.maxAttempts = true ∧ Fits retry c.backoff

instance (c : Config) (retry : Nat) : Decidable (HasPause c retry) :=
  inferInstanceAs (Decidable (_ ∧ _))

/-- What fails where there is no pause.  In floating point the factor is found first, and then
    the warning is written; a whole number is doubled without fail and shown last. -/
def pauseFailure (c : Config) (retry : Nat) : Failure :=
  if c.backoff.scalable (retry - 1) && !writable c.maxAttempts then .unwritable
  else factorOverflow

/-- The test of the program for a pause says what it should. -/
theorem fits_iff (retry : Nat) (backoff : Seconds) :
    Fits retry backoff ↔ backoff.scalable (retry - 1) = true ∧
      (backoff.scale (retry - 1)).showable = true := by
  cases backoff with
  | float x =>
    have hlast : retry ≤ mostRetries ↔ retry - 1 < Seconds.leastOverflow := by
      simp only [mostRetries, Seconds.leastOverflow]
      omega
    simp [Fits, Seconds.scalable, Seconds.scale, Seconds.showable, hlast]
  | whole n =>
    simp [Fits, Seconds.scalable, Seconds.scale, Seconds.showable, Int.natAbs_mul]

theorem pause_eq (c : Config) (retry : Nat) :
    pause c retry =
      if HasPause c retry then .ok (c.backoff.scale (retry - 1))
      else .error (pauseFailure c retry) := by
  rw [pause, pauseFailure]
  cases hscalable : c.backoff.scalable (retry - 1) <;>
    cases hwritable : writable c.maxAttempts <;>
    cases hshowable : (c.backoff.scale (retry - 1)).showable <;>
    simp [HasPause, fits_iff, hscalable, hwritable, hshowable]

theorem Fits.mono {m n : Nat} {backoff : Seconds} (h : Fits n backoff) (hle : m ≤ n) :
    Fits m backoff := by
  cases backoff with
  | float x => exact Nat.le_trans hle h
  | whole k =>
    refine Nat.lt_of_le_of_lt (Nat.mul_le_mul_left _ ?_) h
    exact Nat.pow_le_pow_right (by decide) (by omega)

/-- Where there is no pause, there is none before a later retry. -/
theorem HasPause.mono {c : Config} {m n : Nat} (h : HasPause c n) (hle : m ≤ n) :
    HasPause c m :=
  ⟨h.1, h.2.mono hle⟩

/-! ### One call -/

/-- Does another call follow? -/
def retries (c : Config) (attempt : Nat) : CallResult → Bool
  | .replied _ => false
  | .failed f => triesAgain c attempt f && decide (HasPause c attempt)

/-- How a review ends with a call that no other follows. -/
def endOf (c : Config) (attempt : Nat) : CallResult → Except Failure Analysis
  | .replied reply => (readReply reply).mapError ReplyFault.failure
  | .failed f => .error (if triesAgain c attempt f then pauseFailure c attempt else f)

/-- What follows a call: a pause and another try, or the end. -/
theorem afterCall_decision (c : Config) (attempt : Nat) (r : CallResult) :
    (afterCall c attempt r).2 =
      if retries c attempt r then .retry (c.backoff.scale (attempt - 1))
      else .finish (endOf c attempt r) := by
  cases r with
  | replied reply =>
    simp only [afterCall, retries, endOf, Bool.false_eq_true, if_false]
    cases readReply reply <;> rfl
  | failed f =>
    simp only [afterCall, retries, endOf, pause_eq]
    by_cases ht : triesAgain c attempt f = true
    · by_cases hp : HasPause c attempt
      · simp [ht, hp]
      · simp [ht, hp]
    · simp [ht]

/-- Another try follows a failure that allows it, while attempts and pauses are left. -/
theorem retries_eq_true_iff {c : Config} {attempt : Nat} {r : CallResult} :
    retries c attempt r = true ↔
      ∃ f, r = .failed f ∧ f.kind.retryable = true ∧ (attempt : Int) < c.maxAttempts ∧
        HasPause c attempt := by
  cases r with
  | replied reply => simp [retries]
  | failed f => simp [retries, triesAgain, and_assoc]

/-! ### The run -/

/-- The calls from the first to the last of a run: all but the last are retried. -/
structure EndsAt (c : Config) (calls : Nat → Call) (first last : Nat) : Prop where
  le : first ≤ last
  retried : ∀ k, first ≤ k → k < last → retries c k (calls k).result = true
  decides : retries c last (calls last).result = false

theorem EndsAt.refl {c : Config} {calls : Nat → Call} {n : Nat}
    (h : retries c n (calls n).result = false) : EndsAt c calls n n where
  le := Nat.le_refl n
  retried := fun _ hle hlt => absurd hlt (Nat.not_lt.mpr hle)
  decides := h

theorem EndsAt.cons {c : Config} {calls : Nat → Call} {first last : Nat}
    (h : retries c first (calls first).result = true)
    (hrest : EndsAt c calls (first + 1) last) : EndsAt c calls first last where
  le := Nat.le_of_succ_le hrest.le
  retried := by
    intro k hle hlt
    rcases Nat.eq_or_lt_of_le hle with heq | hgt
    · rw [← heq]; exact h
    · exact hrest.retried k hgt hlt
  decides := hrest.decides

theorem EndsAt.unique {c : Config} {calls : Nat → Call} {first m n : Nat}
    (hm : EndsAt c calls first m) (hn : EndsAt c calls first n) : m = n := by
  rcases Nat.lt_trichotomy m n with hlt | heq | hgt
  · have := hn.retried m hm.le hlt
    rw [hm.decides] at this
    cases this
  · exact heq
  · have := hm.retried n hn.le hgt
    rw [hn.decides] at this
    cases this

/-- Of the calls that are made, another follows exactly those that are retried. -/
theorem EndsAt.lt_iff {c : Config} {calls : Nat → Call} {first last n : Nat}
    (h : EndsAt c calls first last) (hfirst : first ≤ n) (hlast : n ≤ last) :
    n < last ↔ retries c n (calls n).result = true := by
  constructor
  · intro hlt
    exact h.retried n hfirst hlt
  · intro hretried
    rcases Nat.eq_or_lt_of_le hlast with heq | hlt
    · rw [heq, h.decides] at hretried
      cases hretried
    · exact hlt

theorem attempts_of_decides {c : Config} {calls : Nat → Call} {n : Nat} (prompt : Text)
    (h : retries c n (calls n).result = false) :
    (attempts c prompt calls n).prompts = [prompt] ∧
      (attempts c prompt calls n).result = endOf c n (calls n).result := by
  have hd := afterCall_decision c n (calls n).result
  rw [h] at hd
  rw [attempts]
  split
  · next heq => rw [heq] at hd; simp_all
  · next heq => rw [heq] at hd; simp_all

theorem attempts_of_retries {c : Config} {calls : Nat → Call} {n : Nat} (prompt : Text)
    (h : retries c n (calls n).result = true) :
    (attempts c prompt calls n).prompts = prompt :: (attempts c prompt calls (n + 1)).prompts ∧
      (attempts c prompt calls n).result = (attempts c prompt calls (n + 1)).result := by
  have hd := afterCall_decision c n (calls n).result
  rw [h] at hd
  rw [attempts]
  split
  · next heq => rw [heq] at hd; simp_all
  · next heq => exact ⟨rfl, rfl⟩

/-- **Every run ends at some call, and with what that call comes to.** -/
theorem attempts_endsAt (c : Config) (prompt : Text) (calls : Nat → Call) (first : Nat) :
    ∃ last, EndsAt c calls first last ∧
      (attempts c prompt calls first).result = endOf c last (calls last).result ∧
      first + (attempts c prompt calls first).prompts.length = last + 1 := by
  -- the number of attempts that are left falls with every call that is retried
  by_cases h : retries c first (calls first).result = true
  · obtain ⟨_, _, _, hleft, _⟩ := retries_eq_true_iff.mp h
    obtain ⟨last, hends, hresult, hcount⟩ := attempts_endsAt c prompt calls (first + 1)
    obtain ⟨hp, hr⟩ := attempts_of_retries prompt h
    refine ⟨last, hends.cons h, hr.trans hresult, ?_⟩
    rw [hp, List.length_cons]
    omega
  · have h := Bool.eq_false_iff.mpr h
    obtain ⟨hp, hr⟩ := attempts_of_decides prompt h
    exact ⟨first, .refl h, hr, by rw [hp]; rfl⟩
termination_by (c.maxAttempts - first).toNat
decreasing_by omega

/-! ### A whole review -/

/-- Without a credential nobody is asked. -/
theorem review_of_no_credential {c : Config} (h : c.credential? = none) (request : Request)
    (reviewer : Reviewer) :
    review c request reviewer = ⟨[], [], [], .error noCredential⟩ := by
  rw [review, h]

/-- With one, the review ends at the last call that is made. -/
theorem review_endsAt {c : Config} {key : Text} (h : c.credential? = some key)
    (request : Request) (reviewer : Reviewer) :
    EndsAt c (reviewer (prompt request)) 1 (review c request reviewer).prompts.length ∧
      (review c request reviewer).result =
        endOf c (review c request reviewer).prompts.length
          (reviewer (prompt request) (review c request reviewer).prompts.length).result := by
  have hrun : review c request reviewer =
      attempts c (prompt request) (reviewer (prompt request)) 1 := by
    rw [review, h]
  obtain ⟨last, hends, hresult, hcount⟩ :=
    attempts_endsAt c (prompt request) (reviewer (prompt request)) 1
  have hlast : (review c request reviewer).prompts.length = last := by
    rw [hrun]; omega
  rw [hlast, hrun]
  exact ⟨hends, hresult⟩

/-- A call that is made is made with a credential. -/
theorem exists_key_of_made {c : Config} {request : Request} {reviewer : Reviewer} {n : Nat}
    (hpos : 1 ≤ n) (hmade : n ≤ (review c request reviewer).prompts.length) :
    ∃ key, c.credential? = some key := by
  cases hkey : c.credential? with
  | none =>
    rw [review_of_no_credential hkey] at hmade
    exact absurd (Nat.le_trans hpos hmade) (by decide)
  | some key => exact ⟨key, rfl⟩

theorem review_result_of_endsAt {c : Config} {key : Text} (h : c.credential? = some key)
    {request : Request} {reviewer : Reviewer} {n : Nat}
    (hends : EndsAt c (reviewer (prompt request)) 1 n) :
    (review c request reviewer).result =
      endOf c n (reviewer (prompt request) n).result := by
  obtain ⟨hlast, hresult⟩ := review_endsAt h request reviewer
  rw [hresult, hlast.unique hends]

/-- A call ends a run in an analysis if its reply is read as one. -/
theorem endOf_eq_ok_iff {c : Config} {attempt : Nat} {r : CallResult} {a : Analysis} :
    endOf c attempt r = .ok a ↔ ∃ reply, r = .replied reply ∧ readReply reply = .ok a := by
  cases r with
  | failed f => simp [endOf]
  | replied reply => simp [endOf, mapError_eq_ok_iff]

/-- A review succeeds exactly when it has a credential and the call that decides it brings a
    reply that is accepted. -/
theorem review_eq_ok_iff {c : Config} {request : Request} {reviewer : Reviewer} {a : Analysis} :
    (review c request reviewer).result = .ok a ↔
      (∃ key, c.credential? = some key) ∧
        ∃ n reply, EndsAt c (reviewer (prompt request)) 1 n ∧
          (reviewer (prompt request) n).result = .replied reply ∧ readReply reply = .ok a := by
  constructor
  · intro h
    cases hkey : c.credential? with
    | none =>
      rw [review_of_no_credential hkey] at h
      cases h
    | some key =>
      obtain ⟨hends, hresult⟩ := review_endsAt hkey request reviewer
      rw [hresult] at h
      obtain ⟨reply, hcall, hread⟩ := endOf_eq_ok_iff.mp h
      exact ⟨⟨key, rfl⟩, _, reply, hends, hcall, hread⟩
  · rintro ⟨⟨key, hkey⟩, n, reply, hends, hcall, hread⟩
    rw [review_result_of_endsAt hkey hends]
    exact endOf_eq_ok_iff.mpr ⟨reply, hcall, hread⟩

end ScriptDiagnosis.Review
