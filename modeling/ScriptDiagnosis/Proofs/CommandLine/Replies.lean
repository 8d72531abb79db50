/-
  ScriptDiagnosis/Proofs/CommandLine/Replies.lean
  ===============================================
  What a check hears from the provider, in terms of the clients alone.  The settings of a run come
  from the environment, where the backoff cannot be set and the number of attempts is never too
  long to be written, so there are pauses for 1024 retries (`hasPause_configOf`).  A reply
  comes from the first client that does not fail on the way, if the settings reach that far
  (`endsAt_replied_iff`).

  Whether the diagnosis can be printed depends on that reply as well (`hasHalf_iff`): not if half of
  a surrogate pair is alone in one of the texts that the reply spells for it (`showsHalf_iff`).
-/
import ScriptDiagnosis.Proofs.Diagnosis.Recovery
import ScriptDiagnosis.Proofs.Provider.Calls
import ScriptDiagnosis.Proofs.Review.MarkedReplies
import ScriptDiagnosis.Proofs.Review.Timeline
import ScriptDiagnosis.Proofs.Text.Integers

namespace ScriptDiagnosis.CommandLine
open Text Json Reply SyntaxCheck Provider Review
open Diagnosis (Passes EndsInPass HasHalf diagnose requestFor)

/-! ### Keys, clients and replies -/

/-- The environment has a key, and it is not empty. -/
def HasKey (env : Config.Environment) : Prop :=
  ∃ key, env Config.keyVariable = some key ∧ key ≠ []

/-- Clients whose failures can all be handled. -/
def Manageable (client : Nat → Client) : Prop :=
  ∀ n f, Incident.broken f ∈ (client n).incidents → f.kind.handled = true

/-- The clients of the first attempts fail on the way, each in a way that is worth another attempt,
    and that of the next attempt replies.  There are no more attempts than the settings allow, nor
    than there are pauses for. -/
def RepliesWithin (maxAttempts : Int) (client : Nat → Client) (t : Text) : Prop :=
  ∃ n : Nat, 1 ≤ n ∧ (n : Int) ≤ maxAttempts ∧ n ≤ mostRetries + 1 ∧
    (∀ k, 1 ≤ k → k < n → ∃ f, Settles (client k) (.error f) ∧ f.kind.retryable = true) ∧
    Settles (client n) (.ok t)

/-- The reply lets a valid snippet pass. -/
def PassesWithin (maxAttempts : Int) (client : Nat → Client) : Prop :=
  ∃ t, RepliesWithin maxAttempts client t ∧ Passes (some t)

/-- A reply is accepted, and half of a surrogate pair stands in a text of the diagnosis that it
    gives: with a mark for the half it gives another.  Which these are `showsHalf_iff` says. -/
def ShowsHalf (r : SyntaxResult) (t : Text) : Prop :=
  (∃ a, readReply (some t) = .ok a) ∧
    Diagnosis.merge r (resultOf (.replied (some (markHalves false t)))) ≠
      Diagnosis.merge r (resultOf (.replied (some t)))

/-! ### The settings of a run -/

variable {parse : Text → ParserAnswer} {w : World} {o : CheckOptions} {c : Config}

/-- The settings of the environment, with another model. -/
theorem exists_configOf (h : Config.ofEnvironment w.environment = .ok c) :
    ∃ model, configOf w o = .ok { c with model := model } := by
  rw [configOf, h]
  cases o.model with
  | none => exact ⟨c.model, rfl⟩
  | some m =>
    by_cases hempty : m.isEmpty = true
    · exact ⟨c.model, by simp [Except.map, hempty]⟩
    · exact ⟨m, by simp [Except.map, hempty]⟩

/-- What the settings of the environment have of it: the key and the number of attempts. -/
theorem ofEnvironment_eq_ok {env : Config.Environment} (h : Config.ofEnvironment env = .ok c) :
    c.apiKey = env Config.keyVariable ∧ c.backoff = .float .half ∧
      readInteger ((env Config.attemptsVariable).getD "1") = .ok c.maxAttempts := by
  rw [Config.ofEnvironment] at h
  split at h
  · cases h
  · next n hread =>
    rw [Config.make] at h
    split at h
    · split at h
      · cases h
        exact ⟨rfl, rfl, hread⟩
      · cases h
    · cases h

/-- The model of the command line makes no difference to the pauses. -/
theorem hasPause_configOf (h : configOf w o = .ok c) (n : Nat) :
    HasPause c n ↔ n ≤ mostRetries := by
  rw [configOf] at h
  obtain ⟨settings, hsettings, hmodel⟩ := map_eq_ok_iff.mp h
  obtain ⟨_, hbackoff, hattempts⟩ := ofEnvironment_eq_ok hsettings
  have hsame : c.backoff = settings.backoff ∧ c.maxAttempts = settings.maxAttempts := by
    split at hmodel
    · cases hmodel
      exact ⟨rfl, rfl⟩
    · split at hmodel <;> cases hmodel <;> exact ⟨rfl, rfl⟩
  rw [hasPause_iff_of_float (hsame.1.trans hbackoff), hsame.2]
  exact and_iff_right (writable_of_readInteger hattempts)

/-- A key is a credential if it is not empty. -/
theorem credential?_eq_some_iff {key : Text} :
    c.credential? = some key ↔ c.apiKey = some key ∧ key ≠ [] := by
  rw [Config.credential?]
  cases c.apiKey with
  | none => simp
  | some k =>
    cases k with
    | nil => simp
    | cons d rest =>
      simp only [List.isEmpty_cons, Bool.false_eq_true, if_false, Option.some.injEq]
      refine ⟨fun h => ⟨h, ?_⟩, And.left⟩
      rw [← h]
      exact List.cons_ne_nil d rest

theorem hasKey_iff {env : Config.Environment} (h : Config.ofEnvironment env = .ok c) :
    HasKey env ↔ ∃ key, c.credential? = some key := by
  simp only [HasKey, credential?_eq_some_iff, (ofEnvironment_eq_ok h).1]

/-! ### Attempts and their clients -/

section Attempts

variable {client : Nat → Client} {options : Options} {prompt : Text} {n : Nat}

/-- A failure that leaves a call can be handled, if those of its client can. -/
theorem handled_of_failsWith {i : Incident} {f : Failure} (h : FailsWith i f)
    (hclient : ∀ g, i = .broken g → g.kind.handled = true) : f.kind.handled = true := by
  cases h with
  | denied | refused | providerDenied | provider | system => rfl
  | unchanged => exact hclient f rfl

/-- If no client fails beyond what is handled, no call does. -/
theorem Manageable.reviewer (h : Manageable client) (contact : Contact) (prompt : Text) :
    ∀ n f, (contact.reviewer client prompt n).result = .failed f → f.kind.handled = true := by
  intro n f hfailed
  cases contact with
  | unconfigured =>
    cases hfailed
    rfl
  | ready options =>
    cases ready_failed_iff.mp hfailed with
    | fails hincidents hf =>
      apply handled_of_failsWith hf
      rintro g rfl
      exact h n g (by rw [hincidents]; exact .head _)

/-- The calls of a review end in a reply that the clients give within the settings. -/
theorem endsAt_replied_iff (hready : Contact.ofConfig c = .ready options)
    (hpauses : ∀ n, HasPause c n ↔ n ≤ mostRetries) {reply : Option Text} :
    (∃ n, EndsAt c ((Contact.ofConfig c).reviewer client prompt) 1 n ∧
        ((Contact.ofConfig c).reviewer client prompt n).result = .replied reply) ↔
      ∃ t, reply = some t ∧ RepliesWithin c.maxAttempts client t := by
  rw [hready]
  constructor
  · rintro ⟨n, hends, hreply⟩
    obtain ⟨t, rfl, hsettles⟩ := ready_replied_iff.mp hreply
    have hearlier : ∀ k, 1 ≤ k → k < n →
        ∃ f, Settles (client k) (.error f) ∧ f.kind.retryable = true ∧
          (k : Int) < c.maxAttempts ∧ k ≤ mostRetries := by
      intro k hk hlt
      obtain ⟨f, hfailed, hworth, hleft, hpause⟩ := retries_eq_true_iff.mp (hends.retried k hk hlt)
      exact ⟨f, ready_failed_iff.mp hfailed, hworth, hleft, (hpauses k).mp hpause⟩
    -- the call before the last was tried again, which bounds the last
    have hbounds : (n : Int) ≤ c.maxAttempts ∧ n ≤ mostRetries + 1 := by
      rcases Nat.eq_or_lt_of_le hends.le with hone | hlt
      · rw [← hone]
        exact ⟨c.attempts_pos, by decide⟩
      · obtain ⟨_, _, _, hleft, hmost⟩ := hearlier (n - 1) (by omega) (by omega)
        constructor
        · omega
        · omega
    refine ⟨t, rfl, n, hends.le, hbounds.1, hbounds.2, ?_, hsettles⟩
    intro k hk hlt
    obtain ⟨f, hf, hworth, _⟩ := hearlier k hk hlt
    exact ⟨f, hf, hworth⟩
  · rintro ⟨t, rfl, n, hle, hleft, hmost, hearlier, hsettles⟩
    have hreply : ((Contact.ready options).reviewer client prompt n).result =
        .replied (some t) := ready_replied_iff.mpr ⟨t, rfl, hsettles⟩
    refine ⟨n, ⟨hle, ?_, ?_⟩, hreply⟩
    · intro k hk hlt
      obtain ⟨f, hf, hworth⟩ := hearlier k hk hlt
      exact retries_eq_true_iff.mpr
        ⟨f, ready_failed_iff.mpr hf, hworth, by omega, (hpauses k).mpr (by omega)⟩
    · rw [hreply]
      rfl

theorem settles_unique {c : Client} {x y : Except Failure Text} (hx : Settles c x)
    (hy : Settles c y) : x = y :=
  (settles_iff.mp hx).trans (settles_iff.mp hy).symm

/-- The clients of a run reply once. -/
theorem RepliesWithin.unique {maxAttempts : Int} {t t' : Text}
    (h : RepliesWithin maxAttempts client t) (h' : RepliesWithin maxAttempts client t') :
    t = t' := by
  obtain ⟨n, hpos, _, _, hearlier, hsettles⟩ := h
  obtain ⟨n', hpos', _, _, hearlier', hsettles'⟩ := h'
  rcases Nat.lt_trichotomy n n' with hlt | rfl | hgt
  · obtain ⟨f, hf, _⟩ := hearlier' n hpos hlt
    cases settles_unique hsettles hf
  · exact Except.ok.inj (settles_unique hsettles hsettles')
  · obtain ⟨f, hf, _⟩ := hearlier n' hpos' hgt
    cases settles_unique hsettles' hf

/-- A review passes by its clients, if there is a key. -/
theorem endsInPass_ofConfig_iff (hpauses : ∀ n, HasPause c n ↔ n ≤ mostRetries) :
    EndsInPass c ((Contact.ofConfig c).reviewer client prompt) ↔
      (∃ key, c.credential? = some key) ∧ PassesWithin c.maxAttempts client := by
  apply and_congr_right
  rintro ⟨key, hkey⟩
  obtain ⟨options, hready⟩ := ofConfig_of_key hkey
  constructor
  · rintro ⟨n, reply, hends, hreply, hpasses⟩
    obtain ⟨t, rfl, hwithin⟩ := (endsAt_replied_iff hready hpauses).mp ⟨n, hends, hreply⟩
    exact ⟨t, hwithin, hpasses⟩
  · rintro ⟨t, hwithin, hpasses⟩
    obtain ⟨n, hends, hreply⟩ := (endsAt_replied_iff hready hpauses).mpr ⟨t, rfl, hwithin⟩
    exact ⟨n, some t, hends, hreply, hpasses⟩

end Attempts

/-! ### Halves -/

section Halves

variable {client : Nat → Client} {t : Text} {r : SyntaxResult}

theorem kind_merge_replied_iff {reply : Option Text} :
    (Diagnosis.merge r (resultOf (.replied reply))).kind ≠ .runtime ↔
      ∃ a, readReply reply = .ok a := by
  rw [Ne, (Diagnosis.merge_isVerdict r _).runtime, resultOf]
  cases readReply reply <;> simp [Except.mapError]

/-- The diagnosis differs where the analysis does. -/
theorem ofAnalysis_eq_iff {b : Spelling} {f g : List Nat → Text} :
    Diagnosis.ofAnalysis r (b.analysis f) = Diagnosis.ofAnalysis r (b.analysis g) ↔
      b.analysis f = b.analysis g := by
  refine ⟨fun h => ?_, fun h => congrArg _ h⟩
  obtain ⟨hsuggestion, hcode, hexplanation, htips⟩ := Diagnosis.ofAnalysis_texts r (b.analysis f)
  obtain ⟨hsuggestion', hcode', hexplanation', htips'⟩ :=
    Diagnosis.ofAnalysis_texts r (b.analysis g)
  rw [h] at hsuggestion hcode hexplanation htips
  have htipsSame : (b.analysis f).performanceTips = (b.analysis g).performanceTips := by
    have hbind := htips.symm.trans htips'
    revert hbind
    simp only [Spelling.analysis]
    cases b.tips with
    | none => simp
    | some codes => simp [Diagnosis.nonEmpty?_inj]
  rw [Spelling.analysis, Spelling.analysis, Analysis.mk.injEq]
  exact ⟨rfl, Diagnosis.nonEmpty?_inj.mp (hsuggestion.symm.trans hsuggestion'),
    Diagnosis.nonEmpty?_inj.mp (hcode.symm.trans hcode'),
    Diagnosis.nonEmpty?_inj.mp (hexplanation.symm.trans hexplanation'), htipsSame⟩

theorem merge_of_reads {reply : Option Text} {a : Analysis} (h : readReply reply = .ok a) :
    Diagnosis.merge r (resultOf (.replied reply)) = Diagnosis.ofAnalysis r a := by
  rw [resultOf, h]
  rfl

theorem markHalves_of_isBlankText (h : isBlankText t = true) : markHalves false t = t :=
  (marksTo_of_plain fun hslash => absurd (isBlankText_iff.mp h _ hslash) (by decide)).markHalves

/-- A reply shows a half if one is alone in the codes that it spells for a text of its analysis,
    and only then. -/
theorem showsHalf_iff : ShowsHalf r t ↔
    ∃ b : Spelling, (∀ codes ∈ b.rows, SpelledIn t codes) ∧
      readReply (some t) = .ok (b.analysis joinCodes) ∧
      readReply (some (markHalves false t)) = .ok (b.analysis joinMarked) ∧
      ∃ codes ∈ b.rows, HasLoneHalf false codes := by
  constructor
  · rintro ⟨⟨a, ha⟩, hne⟩
    have hblank : isBlankText t = false := by
      rw [← Bool.not_eq_true]
      intro hblank
      rw [markHalves_of_isBlankText hblank] at hne
      exact hne rfl
    obtain ⟨b, hspelled, rfl, hmarked⟩ := readReply_marked ha hblank
    rw [merge_of_reads hmarked, merge_of_reads ha, Ne, ofAnalysis_eq_iff,
      b.analysis_joinMarked_eq_iff] at hne
    refine ⟨b, hspelled, ha, hmarked, ?_⟩
    simpa using hne
  · rintro ⟨b, _, ha, hmarked, codes, hcodes, hlone⟩
    refine ⟨⟨_, ha⟩, ?_⟩
    rw [merge_of_reads hmarked, merge_of_reads ha, Ne, ofAnalysis_eq_iff,
      b.analysis_joinMarked_eq_iff]
    exact fun hnone => hnone codes hcodes hlone

/-- The diagnosis has a half in a text of it exactly if there is a reply that puts one there. -/
theorem hasHalf_iff {key : Text} (hcheck : check parse (modeOf o) t = .ok r)
    (hkey : c.credential? = some key) (hpauses : ∀ n, HasPause c n ↔ n ≤ mostRetries)
    (hclient : Manageable client) :
    HasHalf
        (Diagnosis.merge r
          (review c (requestFor t r) ((Contact.ofConfig c).reviewer client)).result)
        (diagnose (modeOf o) (parse (sourceFor (modeOf o) t)) c
          (Reviewer.marked ((Contact.ofConfig c).reviewer client)) t).result ↔
      ∃ reply, RepliesWithin c.maxAttempts client reply ∧ ShowsHalf r reply := by
  obtain ⟨options, hready⟩ := ofConfig_of_key hkey
  generalize hreviewer : (Contact.ofConfig c).reviewer client = reviewer
  have hreplied : ∀ reply,
      (∃ n, EndsAt c ((Contact.ofConfig c).reviewer client (prompt (requestFor t r))) 1 n ∧
        ((Contact.ofConfig c).reviewer client (prompt (requestFor t r)) n).result =
          .replied reply) ↔
      ∃ text, reply = some text ∧ RepliesWithin c.maxAttempts client text :=
    fun _ => endsAt_replied_iff hready hpauses
  have hmanaged := hclient.reviewer (Contact.ofConfig c) (prompt (requestFor t r))
  rw [hreviewer] at hreplied hmanaged
  have hhandled : ∀ f,
      (review c (requestFor t r) (Reviewer.marked reviewer)).result = .error f →
        f.kind.handled = true :=
    fun f => Diagnosis.review_error_handled fun n g hg =>
      hmanaged n g (CallResult.marked_eq_failed_iff.mp hg)
  have hmarked := Diagnosis.diagnose_eq_ok hcheck hhandled
  obtain ⟨hends, hresult⟩ := review_endsAt hkey (requestFor t r) reviewer
  rw [hmarked, review_marked hkey hends, hresult]
  generalize (review c (requestFor t r) reviewer).prompts.length = n at hends ⊢
  cases hcall : (reviewer (prompt (requestFor t r)) n).result with
  | failed f =>
    -- the review has failed, and no client can have replied in time
    constructor
    · rintro ⟨hkind, _⟩
      exact absurd rfl hkind
    · rintro ⟨reply, hwithin, _⟩
      obtain ⟨m, hm, hreply⟩ := (hreplied (some reply)).mpr ⟨reply, rfl, hwithin⟩
      rw [hm.unique hends, hcall] at hreply
      cases hreply
  | replied reply =>
    obtain ⟨text, rfl, hwithin⟩ := (hreplied reply).mp ⟨n, hends, hcall⟩
    -- there is one reply in time, so whatever is said of a reply is said of this one
    have honly : ∀ other, RepliesWithin c.maxAttempts client other → other = text := by
      intro other hother
      obtain ⟨m, hm, hreply⟩ := (hreplied (some other)).mpr ⟨other, rfl, hother⟩
      rw [hm.unique hends, hcall] at hreply
      cases hreply
      rfl
    constructor
    · rintro ⟨hkind, m, hm, hne⟩
      cases hm
      exact ⟨text, hwithin, kind_merge_replied_iff.mp hkind, hne⟩
    · rintro ⟨other, hother, haccepted, hne⟩
      obtain rfl := honly other hother
      exact ⟨kind_merge_replied_iff.mpr haccepted, _, rfl, hne⟩

end Halves

end ScriptDiagnosis.CommandLine
