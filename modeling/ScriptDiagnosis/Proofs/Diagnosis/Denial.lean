/-
  ScriptDiagnosis/Proofs/Diagnosis/Denial.lean
  ============================================
  When a reply is mistaken for a denial.  The text of a failure is searched for the provider's
  status, and the texts of two faults of a reply hold numbers: the place of a fault of JSON,
  and the count of digits.  A reply is shown as a denial exactly when the status occurs in one
  of these numbers (`reply_denied_iff`), and it can: a fault at the character 403 is enough.
-/
import Mathlib.Data.List.TakeWhile
import ScriptDiagnosis.Proofs.Diagnosis.Verdict
import ScriptDiagnosis.Proofs.Json.Refusals
import ScriptDiagnosis.Proofs.Text.Occurrence

namespace ScriptDiagnosis.Diagnosis
open Text Reply Review SyntaxCheck

/-! ### Numbers in the text of a fault -/

/-- Does the status of a denial occur in the digits of a number? -/
def ShowsStatus (n : Nat) : Prop := occurs deniedStatus (ofNat n) = true

instance (n : Nat) : Decidable (ShowsStatus n) :=
  inferInstanceAs (Decidable (occurs deniedStatus (ofNat n) = true))

/-- The line, the column and the offset that a complaint about a text gives. -/
def placeNumbers (doc : Text) (offset : Nat) : List Nat :=
  let before := doc.take offset
  [before.count '\n' + 1, (before.reverse.takeWhile (· ≠ '\n')).length + 1, offset]

/-- What is wrong with a body is reported with a number in which the status occurs. -/
def Misleads (body : Text) : Prop :=
  (∃ what left, Json.decode body = .error (.malformed what left) ∧
    ∃ n ∈ placeNumbers body (body.length - left), ShowsStatus n) ∨
  ∃ count, Json.decode body = .error (.tooManyDigits count) ∧ ShowsStatus count

theorem occurs_status_of_not_mem {t : Text} (h : '4' ∉ t) : occurs deniedStatus t = false := by
  rw [Bool.eq_false_iff]
  intro hoccurs
  exact h ((occurs_iff.mp hoccurs).subset (by decide))

/-- The status occurs in the text of a complaint if it occurs in one of its three numbers. -/
theorem occurs_complaintText (doc : Text) (what : Json.Complaint) (offset : Nat) :
    occurs deniedStatus (Json.complaintText doc what offset) = true ↔
      ∃ n ∈ placeNumbers doc offset, ShowsStatus n := by
  have hwhat : occurs deniedStatus what.text = false := by cases what <;> decide
  have hline : occurs deniedStatus ": line " = false := by decide
  have hcolumn : occurs deniedStatus " column " = false := by decide
  have hchar : occurs deniedStatus " (char " = false := by decide
  have hend : occurs deniedStatus ")" = false := by decide
  rw [Json.complaintText, occurs_append_of_head (x := ')') (by decide) rfl,
    occurs_around (x := ' ') (y := ' ') (by decide) (by decide) rfl rfl,
    occurs_around (x := ' ') (y := ' ') (by decide) (by decide) rfl rfl,
    occurs_around (x := ':') (y := ' ') (by decide) (by decide) rfl rfl,
    hwhat, hline, hcolumn, hchar, hend]
  simp [placeNumbers, ShowsStatus, or_assoc]

theorem occurs_numbered {before after : Text} (n : Nat) (hlast : before.getLast? = some ' ')
    (hhead : after.head? = some ' ') (hbefore : occurs deniedStatus before = false)
    (hafter : occurs deniedStatus after = false) :
    occurs deniedStatus (before ++ ofNat n ++ after) = true ↔ ShowsStatus n := by
  rw [occurs_append_of_head (x := ' ') (by decide) hhead,
    occurs_append_of_last (x := ' ') (by decide) hlast, hbefore, hafter, Bool.false_or,
    Bool.or_false, ShowsStatus]

theorem occurs_tooLongText (count : Nat) :
    occurs deniedStatus (tooLongText count) = true ↔ ShowsStatus count :=
  occurs_numbered count (by decide) (by decide) (by decide) (by decide)

/-! ### Faults that say that access was denied -/

theorem occurs_schemaFault {f : ReplyFault} (h : SchemaFault f) :
    occurs deniedStatus f.failure.text = false := by
  have hnames : ∀ name ∈ memberNames, '4' ∉ name := by decide
  have htypes : ∀ type ∈ typeNames, '4' ∉ type := by decide
  apply occurs_status_of_not_mem
  cases h with
  | notObject htype => simp [ReplyFault.failure, htypes _ htype]
  | missing hname => simp [ReplyFault.failure, hnames _ hname]
  | wrongType hname hexpected htype =>
    simp [ReplyFault.failure, hnames _ hname, htypes _ hexpected, htypes _ htype]

theorem saysDenied_iff_occurs (f : ReplyFault) :
    SaysDenied f.failure ↔ occurs deniedStatus f.failure.text = true := by
  have hkind : f.failure.kind ≠ .accessDenied := by
    intro hkind
    cases f <;> cases hkind
  rw [SaysDenied, or_iff_right hkind]

theorem saysDenied_notJson_iff (doc : Text) (what : Json.Complaint) (offset : Nat) :
    SaysDenied (ReplyFault.notJson (Json.complaintText doc what offset)).failure ↔
      ∃ n ∈ placeNumbers doc offset, ShowsStatus n := by
  have hwording : occurs deniedStatus "Reviewer reply is not valid JSON: " = false := by decide
  rw [saysDenied_iff_occurs, ReplyFault.failure,
    occurs_append_of_last (x := ' ') (by decide) rfl, hwording, Bool.false_or,
    occurs_complaintText]

/-- Whether it says so depends on where the body is at fault, or on how many digits it has. -/
theorem saysDenied_iff_misleads {body : Text} {f : ReplyFault} (h : FaultOf body f) :
    SaysDenied f.failure ↔ Misleads body := by
  cases h with
  | @notJson what left hdecode =>
    rw [saysDenied_notJson_iff]
    constructor
    · intro hn
      exact .inl ⟨what, left, hdecode, hn⟩
    · rintro (⟨_, _, hother, hn⟩ | ⟨_, hother, _⟩) <;> rw [hdecode] at hother <;> cases hother
      exact hn
  | @tooManyDigits count hdecode =>
    rw [saysDenied_iff_occurs, ReplyFault.failure, occurs_tooLongText]
    constructor
    · intro hn
      exact .inr ⟨count, hdecode, hn⟩
    · rintro (⟨_, _, hother, _⟩ | ⟨_, hother, hn⟩) <;> rw [hdecode] at hother <;> cases hother
      exact hn
  | @tooDeep inArray hdecode =>
    have htext : occurs deniedStatus (ReplyFault.tooDeep inArray).failure.text = false := by
      cases inArray <;> decide
    rw [saysDenied_iff_occurs, htext]
    simp [Misleads, hdecode]
  | schema hdecode hf =>
    rw [saysDenied_iff_occurs, occurs_schemaFault hf]
    simp [Misleads, hdecode]

theorem exists_fault_of_misleads {t : Text} (hblank : isBlankText t = false)
    (h : Misleads (unfence t)) : ∃ f, readReply (some t) = .error f := by
  rw [readReply_of_text hblank]
  rcases h with ⟨what, left, hdecode, _⟩ | ⟨count, hdecode, _⟩
  · exact ⟨_, by rw [decodeBody, hdecode]; rfl⟩
  · exact ⟨_, by rw [decodeBody, hdecode]; rfl⟩

def ReplyMisleads (reply : Option Text) : Prop :=
  ∃ t, reply = some t ∧ isBlankText t = false ∧ Misleads (unfence t)

/-- **A refused reply is taken for a denial exactly where its body misleads.** -/
theorem saysDenied_of_readReply {reply : Option Text} {f : ReplyFault}
    (h : readReply reply = .error f) : SaysDenied f.failure ↔ ReplyMisleads reply := by
  obtain ⟨t, rfl, hblank, hf⟩ := faultOf_of_readReply h
  rw [saysDenied_iff_misleads hf]
  constructor
  · intro hmisleads
    exact ⟨t, rfl, hblank, hmisleads⟩
  · rintro ⟨_, ht, _, hmisleads⟩
    cases ht
    exact hmisleads

theorem not_replyMisleads_of_ok {reply : Option Text} {a : Analysis}
    (h : readReply reply = .ok a) : ¬ ReplyMisleads reply := by
  rintro ⟨t, rfl, hblank, hmisleads⟩
  obtain ⟨f, hread⟩ := exists_fault_of_misleads hblank hmisleads
  rw [h] at hread
  cases hread

/-! ### Diagnoses of a first reply -/

section FirstReply

variable {mode : Mode} {answer : ParserAnswer} {snippet : Text} {s : SyntaxResult} {c : Config}
  {key : Text} {reviewer : Reviewer} {reply : Option Text}

theorem review_of_reply {request : Request} (hkey : c.credential? = some key)
    (hcall : (reviewer (prompt request) 1).result = .replied reply) :
    (review c request reviewer).result = (readReply reply).mapError ReplyFault.failure := by
  have hends : EndsAt c (reviewer (prompt request)) 1 1 := .refl (by rw [hcall]; rfl)
  rw [review_result_of_endsAt hkey hends, hcall, endOf]

/-- A first reply decides the diagnosis. -/
theorem diagnose_of_reply (hkey : c.credential? = some key)
    (hcheck : verdict mode snippet answer = .ok s)
    (hcall : (reviewer (prompt (requestFor snippet s)) 1).result = .replied reply) :
    (diagnose mode answer c reviewer snippet).result =
      .ok (merge s ((readReply reply).mapError ReplyFault.failure)) := by
  have hreview := review_of_reply hkey hcall
  rw [diagnose_eq_ok hcheck, hreview]
  intro f hf
  rw [hreview] at hf
  cases hread : readReply reply with
  | ok a => rw [hread] at hf; cases hf
  | error e => rw [hread] at hf; cases hf; exact fault_handled e

theorem ofAnalysis_message_eq_denied_iff (a : Analysis) :
    (ofAnalysis s a).message = deniedMessage ↔
      s.message = deniedMessage ∧ (s.isValid = true → a.isPotentiallyBuggy = false) := by
  have hbugs : bugsMessage ≠ deniedMessage := by decide
  unfold ofAnalysis
  cases s.isValid <;> cases a.isPotentiallyBuggy <;> simp [hbugs]

/-- **Denials out of replies.**  A review whose first call brings a reply is shown as a denial
    exactly when the reply is refused with a number in which the status occurs; any other
    refused reply is shown as a failure.  Beyond that only the message of the check can be
    that of a denial. -/
theorem reply_denied_iff (hkey : c.credential? = some key)
    (hcheck : verdict mode snippet answer = .ok s)
    (hcall : (reviewer (prompt (requestFor snippet s)) 1).result = .replied reply) :
    ∃ d, (diagnose mode answer c reviewer snippet).result = .ok d ∧
      (d = denied ↔ ReplyMisleads reply) ∧
      (d = unreviewed ↔ (∃ f, readReply reply = .error f) ∧ ¬ ReplyMisleads reply) ∧
      (d.message = deniedMessage ↔ ReplyMisleads reply ∨
        ∃ a, readReply reply = .ok a ∧ s.message = deniedMessage ∧
          (s.isValid = true → a.isPotentiallyBuggy = false)) := by
  refine ⟨_, diagnose_of_reply hkey hcheck hcall, ?_⟩
  cases hread : readReply reply with
  | ok a =>
    have hnot := not_replyMisleads_of_ok hread
    have hverdict := ofAnalysis_isVerdict s a
    have hmerge : merge s ((Except.ok a).mapError ReplyFault.failure) = ofAnalysis s a := rfl
    rw [hmerge]
    refine ⟨?_, ?_, ?_⟩
    · simp [hverdict.denied, hnot]
    · simp [hverdict.unreviewed]
    · simp [ofAnalysis_message_eq_denied_iff, hnot]
  -- a refused reply: it is taken for a denial, or for a review that failed
  | error f =>
    have hdenied := saysDenied_of_readReply hread
    have hmerge : merge s ((Except.error f).mapError ReplyFault.failure) = ofFailure f.failure :=
      rfl
    rw [hmerge]
    by_cases hmisleads : ReplyMisleads reply
    · have hmessage : denied.message = deniedMessage := rfl
      rw [ofFailure_of_saysDenied (hdenied.mpr hmisleads)]
      simp [hmisleads, denied_ne_unreviewed, hmessage]
    · have hmessage : unreviewed.message ≠ deniedMessage := by decide
      rw [ofFailure_of_not_saysDenied (mt hdenied.mp hmisleads)]
      simp [hmisleads, denied_ne_unreviewed.symm, hmessage]

end FirstReply

/-! ### Where it happens -/

/-- A number, white space, and a letter behind it. -/
def trailing (spaces : Nat) : Text := '1' :: (List.replicate spaces ' ' ++ ['x'])

def answering (t : Text) : Reviewer := fun _ _ => ⟨.replied (some t), []⟩

theorem readReply_trailing (n : Nat) :
    readReply (some (trailing n)) =
      .error (.notJson (Json.complaintText (trailing n) .extraData (n + 1))) := by
  have hlast : (trailing n).getLast? = some 'x' := by
    rw [trailing, ← List.cons_append, List.getLast?_concat]
  rw [readReply_of_plain rfl hlast ⟨by decide, by decide⟩ ⟨by decide, by decide⟩, decodeBody,
    trailing, Json.decode, Json.decode_extra]
  simp [bind, Except.bind]

/-- The three numbers of a fault far behind a document. -/
theorem placeNumbers_trailing (n : Nat) :
    placeNumbers (trailing n) (n + 1) = [1, n + 2, n + 1] := by
  have htake : (trailing n).take (n + 1) = '1' :: List.replicate n ' ' := by
    simp [trailing]
  have hcount : ('1' :: List.replicate n ' ').count '\n' = 0 := by
    rw [List.count_eq_zero]
    simp
  have hwhole : ('1' :: List.replicate n ' ').reverse.takeWhile (· ≠ '\n') =
      ('1' :: List.replicate n ' ').reverse := by
    rw [List.takeWhile_eq_self_iff]
    simp only [List.mem_reverse, List.mem_cons, List.mem_replicate]
    rintro x (rfl | ⟨_, rfl⟩) <;> decide
  simp only [placeNumbers, htake, hcount, hwhole]
  simp

theorem replyMisleads_trailing_iff (n : Nat) :
    ReplyMisleads (some (trailing n)) ↔ ShowsStatus (n + 2) ∨ ShowsStatus (n + 1) := by
  have hone : ¬ ShowsStatus 1 := by decide
  rw [← saysDenied_of_readReply (readReply_trailing n), saysDenied_notJson_iff,
    placeNumbers_trailing]
  simp [hone]

theorem reply_denied_near :
    relentless.credential? = some "k" ∧
    verdict .script "x();" (.program []) = .ok ⟨true, okMessage, none, none⟩ ∧
    (answering (trailing 5) (prompt ⟨"x();", none⟩) 1).result = .replied (some (trailing 5)) ∧
    (diagnose .script (.program []) relentless (answering (trailing 5)) "x();").result =
      .ok unreviewed := by
  have hkey : relentless.credential? = some "k" := rfl
  have hcheck : verdict .script "x();" (.program []) = .ok ⟨true, okMessage, none, none⟩ := rfl
  have hcall : (answering (trailing 5) (prompt ⟨"x();", none⟩) 1).result =
      .replied (some (trailing 5)) := rfl
  have hnot : ¬ ReplyMisleads (some (trailing 5)) := by
    rw [replyMisleads_trailing_iff]
    decide
  obtain ⟨d, hd, _, hunreviewed, _⟩ := reply_denied_iff hkey hcheck hcall
  rw [hunreviewed.mpr ⟨⟨_, readReply_trailing 5⟩, hnot⟩] at hd
  exact ⟨hkey, hcheck, hcall, hd⟩

/-- A fault at the character 403 is shown as a denial. -/
theorem far_fault_denied :
    (diagnose .script (.program []) relentless (answering (trailing 402)) "x();").result =
      .ok denied := by
  have hkey : relentless.credential? = some "k" := rfl
  have hcheck : verdict .script "x();" (.program []) = .ok ⟨true, okMessage, none, none⟩ := rfl
  have hcall : (answering (trailing 402) (prompt ⟨"x();", none⟩) 1).result =
      .replied (some (trailing 402)) := rfl
  have hmisleads : ReplyMisleads (some (trailing 402)) := by
    rw [replyMisleads_trailing_iff]
    exact .inr (by decide)
  have hdenied := (saysDenied_of_readReply (readReply_trailing 402)).mpr hmisleads
  rw [diagnose_of_reply hkey hcheck hcall, readReply_trailing, ← ofFailure_of_saysDenied hdenied]
  rfl

end ScriptDiagnosis.Diagnosis
