/-
  ScriptDiagnosis/Proofs/Review/Timeline.lean
  ===========================================
  The whole history of a review.  The trace keeps calls, pauses and log apart; here they stand
  in the order in which they happen, and the trace is what is left when that order is forgotten
  (`attempts_eq_events`).

  How many calls are made is said without the loop: the first call that does not fail on the way
  to the reviewer is looked for in the whole stream of answers, where there may be none, and the
  settings bound it (`callCount`).  The history then follows from this number alone, up to the
  first call behind which there is no pause (`review_unfolds`).
-/
import Mathlib.Data.ENat.Lattice
import ScriptDiagnosis.Proofs.Decimal.Scaling
import ScriptDiagnosis.Proofs.Review.Attempts

namespace ScriptDiagnosis.Review
open Text Reply

/-! ### Events -/

inductive Event
  | asked (prompt : Text)
  | logged (record : Log.Record)
  | paused (delay : Seconds)
  deriving Repr

namespace Event

def prompt? : Event → Option Text
  | asked p => some p
  | logged _ | paused _ => none

def record? : Event → Option Log.Record
  | logged r => some r
  | asked _ | paused _ => none

def delay? : Event → Option Seconds
  | paused d => some d
  | asked _ | logged _ => none

end Event

/-- What happens in a call. -/
def asking (prompt : Text) (call : Call) : List Event :=
  .asked prompt :: call.logs.map .logged

/-- What happens in the calls from an attempt on. -/
def events (c : Config) (prompt : Text) (calls : Nat → Call) (attempt : Nat) : List Event :=
  match _h : afterCall c attempt (calls attempt).result with
  | (logs, .finish _) => asking prompt (calls attempt) ++ logs.map .logged
  | (logs, .retry d) =>
    asking prompt (calls attempt) ++ logs.map .logged ++
      .paused d :: events c prompt calls (attempt + 1)
termination_by (c.maxAttempts - attempt).toNat
decreasing_by
  have := afterCall_retry_lt (by assumption)
  omega

/-- What happens in a review. -/
def happenings (c : Config) (request : Request) (reviewer : Reviewer) : List Event :=
  match c.credential? with
  | none => []
  | some _ => events c (prompt request) (reviewer (prompt request)) 1

theorem prompts_logged (rs : List Log.Record) :
    (rs.map Event.logged).filterMap Event.prompt? = [] := by
  induction rs with
  | nil => rfl
  | cons r rs ih => exact ih

theorem delays_logged (rs : List Log.Record) :
    (rs.map Event.logged).filterMap Event.delay? = [] := by
  induction rs with
  | nil => rfl
  | cons r rs ih => exact ih

theorem records_logged (rs : List Log.Record) :
    (rs.map Event.logged).filterMap Event.record? = rs := by
  induction rs with
  | nil => rfl
  | cons r rs ih =>
    rw [List.map_cons, List.filterMap_cons]
    exact congrArg (r :: ·) ih

theorem prompts_asking (prompt : Text) (call : Call) :
    (asking prompt call).filterMap Event.prompt? = [prompt] := by
  show prompt :: _ = _
  rw [prompts_logged]

theorem delays_asking (prompt : Text) (call : Call) :
    (asking prompt call).filterMap Event.delay? = [] :=
  delays_logged call.logs

theorem records_asking (prompt : Text) (call : Call) :
    (asking prompt call).filterMap Event.record? = call.logs :=
  records_logged call.logs

/-! ### One call at a time -/

section OneCall

variable {c : Config} {calls : Nat → Call} {attempt : Nat} {logs : List Log.Record}

theorem attempts_of_finish (prompt : Text) {result : Except Failure Analysis}
    (h : afterCall c attempt (calls attempt).result = (logs, .finish result)) :
    attempts c prompt calls attempt = ⟨[prompt], [], (calls attempt).logs ++ logs, result⟩ := by
  rw [attempts]
  split
  · next heq => rw [heq] at h; cases h; rfl
  · next heq => rw [heq] at h; cases h

/-- A call that is tried again adds its prompt, its pause and its records in front. -/
theorem attempts_of_retry (prompt : Text) {d : Seconds}
    (h : afterCall c attempt (calls attempt).result = (logs, .retry d)) :
    attempts c prompt calls attempt =
      ⟨prompt :: (attempts c prompt calls (attempt + 1)).prompts,
        d :: (attempts c prompt calls (attempt + 1)).delays,
        (calls attempt).logs ++ logs ++ (attempts c prompt calls (attempt + 1)).logs,
        (attempts c prompt calls (attempt + 1)).result⟩ := by
  rw [attempts]
  split
  · next heq => rw [heq] at h; cases h
  · next heq => rw [heq] at h; cases h; rfl

theorem events_of_finish (prompt : Text) {result : Except Failure Analysis}
    (h : afterCall c attempt (calls attempt).result = (logs, .finish result)) :
    events c prompt calls attempt = asking prompt (calls attempt) ++ logs.map .logged := by
  rw [events]
  split
  · next heq => rw [heq] at h; cases h; rfl
  · next heq => rw [heq] at h; cases h

theorem events_of_retry (prompt : Text) {d : Seconds}
    (h : afterCall c attempt (calls attempt).result = (logs, .retry d)) :
    events c prompt calls attempt = asking prompt (calls attempt) ++ logs.map .logged ++
      .paused d :: events c prompt calls (attempt + 1) := by
  rw [events]
  split
  · next heq => rw [heq] at h; cases h
  · next heq => rw [heq] at h; cases h; rfl

end OneCall

/-- The trace of some calls is their events, kept apart by what they are. -/
theorem attempts_eq_events (c : Config) (prompt : Text) (calls : Nat → Call) (attempt : Nat) :
    (attempts c prompt calls attempt).prompts =
        (events c prompt calls attempt).filterMap Event.prompt? ∧
      (attempts c prompt calls attempt).delays =
        (events c prompt calls attempt).filterMap Event.delay? ∧
      (attempts c prompt calls attempt).logs =
        (events c prompt calls attempt).filterMap Event.record? := by
  rcases hafter : afterCall c attempt (calls attempt).result with ⟨logs, decision⟩
  cases decision with
  | finish result =>
    rw [attempts_of_finish prompt hafter, events_of_finish prompt hafter]
    simp only [List.filterMap_append, prompts_asking, delays_asking, records_asking,
      prompts_logged, delays_logged, records_logged, List.append_nil, and_self]
  | retry d =>
    have hleft := afterCall_retry_lt hafter
    obtain ⟨hprompts, hdelays, hlogs⟩ := attempts_eq_events c prompt calls (attempt + 1)
    rw [attempts_of_retry prompt hafter, events_of_retry prompt hafter]
    simp only [List.filterMap_append, prompts_asking, delays_asking, records_asking,
      prompts_logged, delays_logged, records_logged, List.append_nil, List.nil_append,
      List.filterMap_cons, Event.prompt?, Event.delay?, Event.record?, hprompts, hdelays, hlogs,
      List.singleton_append, and_self]
termination_by (c.maxAttempts - attempt).toNat

/-! ### The events of one call -/

/-- What is logged when a review ends with a result. -/
def closing : Except Failure Analysis → List Log.Record
  | .ok a => [doneRecord a]
  | .error _ => []

/-- What happens between a call that is retried and the next: a warning, and a pause. -/
def retrying (c : Config) (attempt : Nat) : CallResult → List Event
  | .failed f =>
    let d := c.backoff.scale (attempt - 1)
    [.logged (retryRecord attempt c.maxAttempts f d), .paused d]
  | .replied _ => []

/-- What is logged where a call decides. -/
theorem afterCall_of_decides {c : Config} {attempt : Nat} {r : CallResult}
    (h : retries c attempt r = false) :
    afterCall c attempt r = (closing (endOf c attempt r), .finish (endOf c attempt r)) := by
  cases r with
  | replied reply =>
    simp only [afterCall, endOf]
    cases readReply reply <;> rfl
  | failed f =>
    simp only [afterCall, endOf, pause_eq]
    by_cases ht : triesAgain c attempt f = true
    · have hpause : ¬ HasPause c attempt := by simpa [retries, ht] using h
      simp [ht, hpause, closing]
    · simp [ht, closing]

theorem afterCall_of_retries {c : Config} {attempt : Nat} {f : Failure}
    (h : retries c attempt (.failed f) = true) :
    afterCall c attempt (.failed f) =
      ([retryRecord attempt c.maxAttempts f (c.backoff.scale (attempt - 1))],
        .retry (c.backoff.scale (attempt - 1))) := by
  simp only [retries, Bool.and_eq_true, decide_eq_true_eq] at h
  simp [afterCall, pause_eq, h]

theorem events_of_decides {c : Config} {calls : Nat → Call} {n : Nat} (prompt : Text)
    (h : retries c n (calls n).result = false) :
    events c prompt calls n = asking prompt (calls n) ++
      (closing (endOf c n (calls n).result)).map .logged :=
  events_of_finish prompt (afterCall_of_decides h)

theorem events_of_retries {c : Config} {calls : Nat → Call} {n : Nat} (prompt : Text)
    (h : retries c n (calls n).result = true) :
    events c prompt calls n = asking prompt (calls n) ++ retrying c n (calls n).result ++
      events c prompt calls (n + 1) := by
  obtain ⟨f, hf, _⟩ := retries_eq_true_iff.mp h
  rw [hf] at h
  have hafter := afterCall_of_retries h
  rw [← hf] at hafter
  rw [events_of_retry prompt hafter]
  simp [retrying, hf]

/-! ### The events of a run -/

/-- What happens in the calls that are retried, so many of them from the first on. -/
def retried (c : Config) (prompt : Text) (calls : Nat → Call) (first count : Nat) : List Event :=
  (List.range' first count).flatMap fun i =>
    asking prompt (calls i) ++ retrying c i (calls i).result

theorem retried_succ (c : Config) (prompt : Text) (calls : Nat → Call) (first count : Nat) :
    retried c prompt calls first (count + 1) =
      asking prompt (calls first) ++ retrying c first (calls first).result ++
        retried c prompt calls (first + 1) count := by
  rw [retried, List.range'_succ, List.flatMap_cons, retried]

theorem EndsAt.tail {c : Config} {calls : Nat → Call} {first last : Nat}
    (h : EndsAt c calls first last) (hlt : first < last) : EndsAt c calls (first + 1) last where
  le := hlt
  retried := fun k hle => h.retried k (Nat.le_of_succ_le hle)
  decides := h.decides

/-- No call behind the last is looked at. -/
theorem attempts_congr {c : Config} {calls other : Nat → Call} (prompt : Text) {first last : Nat}
    (h : EndsAt c calls first last) (hsame : ∀ n, first ≤ n → n ≤ last → other n = calls n) :
    attempts c prompt other first = attempts c prompt calls first := by
  have hfirst : other first = calls first := hsame first (Nat.le_refl _) h.le
  by_cases hlt : first < last
  · -- the first call is retried; the others are a shorter run
    obtain ⟨f, hf, -⟩ := retries_eq_true_iff.mp (h.retried first (Nat.le_refl _) hlt)
    have hretried := h.retried first (Nat.le_refl _) hlt
    rw [hf] at hretried
    have hafter := afterCall_of_retries hretried
    rw [← hf] at hafter
    have hother := hafter
    rw [← hfirst] at hother
    have hrest := attempts_congr prompt (h.tail hlt) fun n hle => hsame n (Nat.le_of_succ_le hle)
    rw [attempts_of_retry prompt hafter, attempts_of_retry prompt hother, hfirst, hrest]
  · obtain rfl : first = last := Nat.le_antisymm h.le (Nat.not_lt.mp hlt)
    have hafter := afterCall_of_decides h.decides
    have hother := hafter
    rw [← hfirst] at hother
    rw [attempts_of_finish prompt hafter, attempts_of_finish prompt hother, hfirst]
termination_by last - first

theorem review_congr {c : Config} {request : Request} {reviewer other : Reviewer} {last : Nat}
    (h : EndsAt c (reviewer (prompt request)) 1 last)
    (hsame : ∀ n, 1 ≤ n → n ≤ last → other (prompt request) n = reviewer (prompt request) n) :
    review c request other = review c request reviewer := by
  rw [review, review]
  split
  · rfl
  · exact attempts_congr (prompt request) h hsame

/-- **The events of a run:** calls that are tried again, one that decides, and what is said at
    the end. -/
theorem events_of_endsAt {c : Config} {calls : Nat → Call} (prompt : Text) {first count : Nat}
    (h : EndsAt c calls first (first + count)) :
    events c prompt calls first = retried c prompt calls first count ++
      asking prompt (calls (first + count)) ++
        (closing (endOf c (first + count) (calls (first + count)).result)).map .logged := by
  -- on the number of calls that are retried; the first of them goes in front
  induction count generalizing first with
  | zero => exact events_of_decides prompt h.decides
  | succ count ih =>
    have hshift : first + (count + 1) = first + 1 + count := by omega
    have hfirst := h.retried first (Nat.le_refl _) (by omega)
    have htail := h.tail (by omega)
    rw [hshift] at htail ⊢
    rw [events_of_retries prompt hfirst, ih htail, retried_succ]
    simp only [List.append_assoc]

/-- All of them ask the same. -/
theorem prompts_retried {c : Config} {calls : Nat → Call} (prompt : Text) (first count : Nat) :
    (retried c prompt calls first count).filterMap Event.prompt? =
      List.replicate count prompt := by
  induction count generalizing first with
  | zero => rfl
  | succ count ih =>
    have hretrying : ∀ i r, (retrying c i r).filterMap Event.prompt? = [] := by
      intro i r
      cases r <;> rfl
    rw [retried_succ, List.filterMap_append, List.filterMap_append, prompts_asking, hretrying,
      ih, List.replicate_succ]
    rfl

/-- Their pauses are the back-off, doubled each time. -/
theorem delays_retried {c : Config} {calls : Nat → Call} (prompt : Text) {first count : Nat}
    (h : ∀ i, first ≤ i → i < first + count → retries c i (calls i).result = true) :
    (retried c prompt calls first count).filterMap Event.delay? =
      (List.range' first count).map fun i => c.backoff.scale (i - 1) := by
  induction count generalizing first with
  | zero => rfl
  | succ count ih =>
    obtain ⟨f, hf, _⟩ := retries_eq_true_iff.mp (h first (Nat.le_refl _) (by omega))
    have hrest := ih fun i (hle : first + 1 ≤ i) hlt => h i (by omega) (by omega)
    rw [retried_succ, List.filterMap_append, List.filterMap_append, delays_asking, hrest, hf,
      List.range'_succ, List.map_cons]
    rfl

/-! ### How many calls -/

/-- The call fails in the one way that is worth another attempt: as a failure to get the review
    that happened on the way to the reviewer. -/
def FailsOnTheWay (call : Call) : Prop :=
  ∃ f, call.result = .failed f ∧ f.kind.ofReview = true ∧ f.kind.label = "transport".toList

theorem retryable_iff (k : FailureKind) :
    k.retryable = true ↔ k.ofReview = true ∧ k.label = "transport".toList := by
  cases k with
  | other name => simp [FailureKind.retryable, FailureKind.ofReview, FailureKind.isA,
      FailureKind.lineage, FailureKind.above]
  | _ => decide

/-- The first call that does not fail on the way; there may be none. -/
noncomputable def firstSettled (calls : Nat → Call) : ℕ∞ :=
  ⨅ n : {n : ℕ // 1 ≤ n ∧ ¬ FailsOnTheWay (calls n)}, ((n : ℕ) : ℕ∞)

/-- The calls that the answers and the settings allow. -/
noncomputable def callCount (c : Config) (calls : Nat → Call) : ℕ :=
  (min (firstSettled calls) (c.maxAttempts.toNat : ℕ∞)).toNat

/-- The number of calls is the least of two bounds: the first call that settles, and the
    attempts. -/
theorem coe_callCount (c : Config) (calls : Nat → Call) :
    (callCount c calls : ℕ∞) = min (firstSettled calls) (c.maxAttempts.toNat : ℕ∞) := by
  apply ENat.natCast_toNat
  exact ne_top_of_le_ne_top (ENat.natCast_ne_top _) (min_le_right _ _)

theorem callCount_le (c : Config) (calls : Nat → Call) :
    callCount c calls ≤ c.maxAttempts.toNat := by
  rw [← Nat.cast_le (α := ℕ∞), coe_callCount]
  exact min_le_right _ _

theorem one_le_callCount (c : Config) (calls : Nat → Call) : 1 ≤ callCount c calls := by
  have hattempts := c.attempts_pos
  rw [← Nat.cast_le (α := ℕ∞), coe_callCount]
  apply le_min
  · exact le_iInf fun n => Nat.cast_le.mpr n.2.1
  · exact Nat.cast_le.mpr (by omega)

/-- Before the last call, all fail on the way. -/
theorem failsOnTheWay_of_lt {c : Config} {calls : Nat → Call} {n : ℕ} (hpos : 1 ≤ n)
    (hlt : n < callCount c calls) : FailsOnTheWay (calls n) := by
  by_contra hsettled
  have hle : firstSettled calls ≤ n := iInf_le_of_le ⟨n, hpos, hsettled⟩ le_rfl
  have hcount : (callCount c calls : ℕ∞) ≤ n := by
    rw [coe_callCount]
    exact (min_le_left _ _).trans hle
  exact absurd (Nat.cast_le.mp hcount) (Nat.not_le.mpr hlt)

/-- Which of two bounds is met at the last call: the attempts, or a call that settles. -/
theorem callCount_settles (c : Config) (calls : Nat → Call) :
    callCount c calls = c.maxAttempts.toNat ∨ ¬ FailsOnTheWay (calls (callCount c calls)) := by
  rcases le_total (c.maxAttempts.toNat : ℕ∞) (firstSettled calls) with hle | hle
  · left
    rw [← Nat.cast_inj (R := ℕ∞), coe_callCount, min_eq_right hle]
  · right
    -- a bound that is finite is reached, since it is one of natural numbers
    have hfinite : firstSettled calls ≠ ⊤ := ne_top_of_le_ne_top (ENat.natCast_ne_top _) hle
    have hsome : Nonempty {n : ℕ // 1 ≤ n ∧ ¬ FailsOnTheWay (calls n)} := by
      by_contra hnone
      rw [not_nonempty_iff] at hnone
      exact hfinite (iInf_of_empty _)
    obtain ⟨n, hn⟩ := ENat.exists_eq_iInf
      fun n : {n : ℕ // 1 ≤ n ∧ ¬ FailsOnTheWay (calls n)} => ((n : ℕ) : ℕ∞)
    have hcount : callCount c calls = n := by
      rw [← Nat.cast_inj (R := ℕ∞), coe_callCount, min_eq_left hle, firstSettled, ← hn]
    rw [hcount]
    exact n.2.2

theorem triesAgain_iff {c : Config} {n : Nat} {f : Failure} :
    triesAgain c n f = true ↔ f.kind.retryable = true ∧ n < c.maxAttempts.toNat := by
  have hattempts := c.attempts_pos
  rw [triesAgain, Bool.and_eq_true, decide_eq_true_eq]
  apply and_congr_right
  intro _
  omega

theorem triesAgain_of_lt {c : Config} {calls : Nat → Call} {n : ℕ} (hpos : 1 ≤ n)
    (hlt : n < callCount c calls) :
    ∃ f, (calls n).result = .failed f ∧ triesAgain c n f = true := by
  obtain ⟨f, hf, hkind⟩ := failsOnTheWay_of_lt hpos hlt
  exact ⟨f, hf, triesAgain_iff.mpr
    ⟨(retryable_iff _).mpr hkind, hlt.trans_le (callCount_le c calls)⟩⟩

theorem retries_of_lt {c : Config} {calls : Nat → Call} {n : ℕ} (hpos : 1 ≤ n)
    (hlt : n < callCount c calls) (hpause : HasPause c n) :
    retries c n (calls n).result = true := by
  obtain ⟨f, hf, htries⟩ := triesAgain_of_lt hpos hlt
  simp [hf, retries, htries, hpause]

theorem not_triesAgain_callCount {c : Config} {calls : Nat → Call} {f : Failure}
    (h : (calls (callCount c calls)).result = .failed f) :
    triesAgain c (callCount c calls) f = false := by
  rw [Bool.eq_false_iff]
  intro htries
  obtain ⟨hretryable, hlt⟩ := triesAgain_iff.mp htries
  rcases callCount_settles c calls with heq | hsettled
  · omega
  · exact hsettled ⟨f, h, (retryable_iff _).mp hretryable⟩

theorem endsAt_callCount {c : Config} {calls : Nat → Call}
    (hpauses : ∀ n, 1 ≤ n → n < callCount c calls → HasPause c n) :
    EndsAt c calls 1 (callCount c calls) where
  le := one_le_callCount c calls
  retried := fun n hpos hlt => retries_of_lt hpos hlt (hpauses n hpos hlt)
  decides := by
    cases h : (calls (callCount c calls)).result with
    | replied reply => rfl
    | failed f => simp [retries, not_triesAgain_callCount h]

theorem endsAt_of_no_pause {c : Config} {calls : Nat → Call} {last : ℕ} (hpos : 1 ≤ last)
    (hlt : last < callCount c calls) (hpauses : ∀ n, 1 ≤ n → n < last → HasPause c n)
    (hnone : ¬ HasPause c last) : EndsAt c calls 1 last where
  le := hpos
  retried := fun n hle hless => retries_of_lt hle (hless.trans hlt) (hpauses n hle hless)
  decides := by
    cases h : (calls last).result with
    | replied reply => rfl
    | failed f => simp [retries, hnone]

/-! ### The history of a review -/

/-- What a call that decides a review makes of it: its failure, or what its reply gives. -/
def resultOf : CallResult → Except Failure Analysis
  | .replied reply => (readReply reply).mapError ReplyFault.failure
  | .failed f => .error f

theorem endOf_callCount (c : Config) (calls : Nat → Call) :
    endOf c (callCount c calls) (calls (callCount c calls)).result =
      resultOf (calls (callCount c calls)).result := by
  cases h : (calls (callCount c calls)).result with
  | replied reply => rfl
  | failed f => simp [endOf, resultOf, not_triesAgain_callCount h]

theorem endOf_of_no_pause {c : Config} {calls : Nat → Call} {last : ℕ} (hpos : 1 ≤ last)
    (hlt : last < callCount c calls) :
    endOf c last (calls last).result = .error (pauseFailure c last) := by
  obtain ⟨f, hf, htries⟩ := triesAgain_of_lt hpos hlt
  rw [hf, endOf, if_pos htries]

/-- A review makes so many calls with one prompt and ends with the result.  Between each two
    calls there is one warning and then one pause, which is the backoff doubled as often as
    there were pauses before. -/
structure Unfolds (c : Config) (prompt : Text) (calls : Nat → Call) (last : Nat)
    (result : Except Failure Analysis) (es : List Event) (t : Trace) : Prop where
  history : es = retried c prompt calls 1 (last - 1) ++ asking prompt (calls last) ++
    (closing result).map .logged
  prompts : t.prompts = List.replicate last prompt
  delays : t.delays = (List.range (last - 1)).map fun i => c.backoff.scale i
  doubled : ∀ i d, t.delays[i]? = some d → Seconds.IsScaled i c.backoff d
  logs : t.logs = es.filterMap Event.record?
  result : t.result = result

/-- **How a run unfolds that ends at a given call.** -/
theorem unfolds_of_endsAt {c : Config} {calls : Nat → Call} {last : Nat}
    {result : Except Failure Analysis} (prompt : Text) (h : EndsAt c calls 1 last)
    (hresult : endOf c last (calls last).result = result) :
    Unfolds c prompt calls last result (events c prompt calls 1) (attempts c prompt calls 1) := by
  obtain ⟨count, rfl⟩ : ∃ count, last = 1 + count := ⟨last - 1, by have := h.le; omega⟩
  have hcount : 1 + count - 1 = count := Nat.add_sub_cancel_left ..
  have hevents := events_of_endsAt prompt h
  obtain ⟨hprompts, hdelays, hlogs⟩ := attempts_eq_events c prompt calls 1
  -- the pauses by their number: the first is the back-off itself
  have hscaled : (attempts c prompt calls 1).delays =
      (List.range count).map fun i => c.backoff.scale i := by
    rw [hdelays, hevents, List.filterMap_append, List.filterMap_append, delays_asking,
      delays_logged, List.append_nil, List.append_nil,
      delays_retried prompt fun i hle hlt => h.retried i hle hlt, List.range'_eq_map_range,
      List.map_map]
    apply List.map_congr_left
    intro i _
    show c.backoff.scale (1 + i - 1) = c.backoff.scale i
    rw [Nat.add_sub_cancel_left]
  obtain ⟨last, hlast, hend, hlength⟩ := attempts_endsAt c prompt calls 1
  cases hlast.unique h
  constructor
  case history => rw [hevents, hresult, hcount]
  case prompts =>
    rw [hprompts, hevents, List.filterMap_append, List.filterMap_append, prompts_retried,
      prompts_asking, prompts_logged, List.append_nil, ← List.replicate_succ',
      Nat.add_comm 1 count]
  case delays => rw [hscaled, hcount]
  case doubled =>
    intro i d hd
    rw [hscaled, List.getElem?_map] at hd
    obtain ⟨j, hj, rfl⟩ := Option.map_eq_some_iff.mp hd
    obtain ⟨_, rfl⟩ := List.getElem?_eq_some_iff.mp hj
    rw [List.getElem_range]
    exact Seconds.isScaled_scale c.backoff i
  case logs => exact hlogs
  case result => rw [hend, hresult]

section Whole

variable {c : Config} {calls : Nat → Call} (prompt : Text)

/-- With a pause before every retry, the answers and the settings alone bound the calls. -/
theorem unfolds_callCount (hpauses : ∀ n, 1 ≤ n → n < callCount c calls → HasPause c n) :
    Unfolds c prompt calls (callCount c calls) (resultOf (calls (callCount c calls)).result)
      (events c prompt calls 1) (attempts c prompt calls 1) :=
  unfolds_of_endsAt prompt (endsAt_callCount hpauses) (endOf_callCount c calls)

/-- The first retry without a pause does not come about, and the failure of its pause is the
    end of the review. -/
theorem unfolds_of_no_pause {last : ℕ} (hpos : 1 ≤ last) (hlt : last < callCount c calls)
    (hpauses : ∀ n, 1 ≤ n → n < last → HasPause c n) (hnone : ¬ HasPause c last) :
    Unfolds c prompt calls last (.error (pauseFailure c last)) (events c prompt calls 1)
      (attempts c prompt calls 1) :=
  unfolds_of_endsAt prompt (endsAt_of_no_pause hpos hlt hpauses hnone)
    (endOf_of_no_pause hpos hlt)

end Whole

/-- A back-off in floating point can be doubled 1023 times. -/
theorem hasPause_iff_of_float {c : Config} {b : Binary64} (h : c.backoff = .float b) {n : ℕ} :
    HasPause c n ↔ writable c.maxAttempts = true ∧ n ≤ mostRetries := by
  rw [HasPause, h]
  rfl

theorem pauseFailure_of_writable {c : Config} (h : writable c.maxAttempts = true) (n : ℕ) :
    pauseFailure c n = factorOverflow := by
  simp [pauseFailure, h]

theorem pauseFailure_of_not_writable {c : Config} (h : writable c.maxAttempts = false) :
    pauseFailure c 1 = .unwritable := by
  cases hbackoff : c.backoff <;>
    simp [pauseFailure, h, hbackoff, Seconds.scalable, Seconds.leastOverflow]

end ScriptDiagnosis.Review
