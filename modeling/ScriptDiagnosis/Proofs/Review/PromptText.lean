/-
  ScriptDiagnosis/Proofs/Review/PromptText.lean
  =============================================
  **What the reviewer is asked about stands in the prompt unchanged, and can be told from it.**  The
  prompt is the fixed text with the snippet in it, and with a note if there is a complaint, which
  the note quotes; and two requests with one prompt have the same snippet and the same complaint, as
  long as neither complaint goes on to a second line (`prompt_carries_request`).

  That the templates can always be filled is a fact about the templates alone: each is written from
  its parts, and a value is never gone over.  To tell the note from what follows it, its beginning
  and its one line are enough.  What stands in front of a snippet begins otherwise than a note does,
  so it is seen at once whether there is a note; and a note on a message of one line ends with the
  first line, so the snippet, which stands behind it, has no part in where it ends.  A message of
  several lines could hold the fixed text that stands in front of a snippet, and then the two
  readings are two requests with one prompt (`prompt_of_longer_complaint`).
-/
import ScriptDiagnosis.Proofs.Except
import ScriptDiagnosis.Proofs.Text.Runs
import ScriptDiagnosis.Proofs.Text.Templates
import ScriptDiagnosis.Review.Prompt

namespace ScriptDiagnosis.Review
open Text

/-! ### The templates and their parts -/

def promptAfterCode : Text := promptRequirements ++ "\x7b" ++ promptAnswerFields ++ "\x7d\n"

def promptParts : List Part :=
  [.fixed promptHead, .field "syntax_error_note", .fixed promptBeforeCode, .field "code",
    .fixed promptAfterCode]

def noteParts : List Part :=
  [.fixed noteHead, .field "message", .fixed (noteTail ++ "\n")]

theorem isPlain_promptRequirements : IsPlain promptRequirements := by
  unfold promptRequirements
  refine .append (.append (.append (.append (.append (.append ?_ ?_) ?_) ?_) ?_) ?_) ?_
  all_goals exact .literal (by decide +kernel)

theorem isPlain_promptAnswerFields : IsPlain promptAnswerFields := by
  unfold promptAnswerFields
  refine .append (.append (.append (.append ?_ ?_) ?_) ?_) ?_
  all_goals exact .literal (by decide +kernel)

theorem written_promptAfterCode : (Part.fixed promptAfterCode).written =
    promptRequirements ++ "\x7b\x7b" ++ promptAnswerFields ++ "\x7d\x7d\n" := by
  rw [promptAfterCode, written_append, written_append, written_append,
    isPlain_promptRequirements, isPlain_promptAnswerFields]
  rfl

theorem promptTemplate_eq : promptTemplate = promptParts.flatMap Part.written := by
  have hhead : IsPlain promptHead := .literal (by decide +kernel)
  have hbefore : IsPlain promptBeforeCode := .literal (by decide +kernel)
  have hnote : (Part.field "syntax_error_note").written = "\x7bsyntax_error_note\x7d".toList := by
    decide +kernel
  have hcode : (Part.field "code").written = "\x7bcode\x7d".toList := by
    decide +kernel
  rw [IsPlain] at hhead hbefore
  simp only [promptTemplate, promptParts, List.flatMap_cons, List.flatMap_nil, hhead, hnote,
    hbefore, hcode, written_promptAfterCode, List.append_assoc, List.append_nil]

theorem noteTemplate_eq : noteTemplate = noteParts.flatMap Part.written := by
  have hhead : IsPlain noteHead := .literal (by decide +kernel)
  have htail : IsPlain (noteTail ++ "\n") := .append (.literal (by decide +kernel)) rfl
  have hfield : (Part.field "message").written = "\x7bmessage\x7d".toList := by
    decide +kernel
  rw [IsPlain] at hhead htail
  simp only [noteTemplate, noteParts, List.flatMap_cons, List.flatMap_nil, hhead, hfield, htail,
    List.append_assoc, List.append_nil]

/-! ### What the templates come to -/

/-- The note on a message; there is none on an empty one. -/
def note : Text → Text
  | [] => []
  | m => noteHead ++ m ++ noteTail ++ "\n"

theorem note_of_ne_nil {m : Text} (hm : m ≠ []) : note m = noteHead ++ m ++ noteTail ++ "\n" := by
  cases m with
  | nil => exact absurd rfl hm
  | cons => rfl

/-- Filling the note never fails, whatever the message holds. -/
theorem fill_noteTemplate (m : Text) :
    fill noteTemplate [("message", m)] = .ok (noteHead ++ m ++ noteTail ++ "\n") := by
  have hmessage : List.lookup ("message" : Text) [("message", m)] = some m :=
    List.lookup_cons_self
  have hfilled : ∀ p ∈ noteParts, p.IsFilled [("message", m)] := by
    simp only [noteParts, List.forall_mem_cons, List.not_mem_nil, false_implies, implies_true,
      and_true]
    exact ⟨.fixed _, .field (by decide +kernel) hmessage, .fixed _⟩
  rw [noteTemplate_eq, fill_written hfilled]
  simp only [noteParts, List.flatMap_cons, List.flatMap_nil, Part.shown, hmessage,
    Option.getD_some, List.append_assoc, List.append_nil]

theorem fill_promptTemplate (noted code : Text) :
    fill promptTemplate [("syntax_error_note", noted), ("code", code)] =
      .ok (promptHead ++ noted ++ promptBeforeCode ++ code ++ promptAfterCode) := by
  have hnote : List.lookup ("syntax_error_note" : Text)
      [("syntax_error_note", noted), ("code", code)] = some noted := List.lookup_cons_self
  have hcode : List.lookup ("code" : Text)
      [("syntax_error_note", noted), ("code", code)] = some code := rfl
  have hfilled : ∀ p ∈ promptParts, p.IsFilled [("syntax_error_note", noted), ("code", code)] := by
    simp only [promptParts, List.forall_mem_cons, List.not_mem_nil, false_implies, implies_true,
      and_true]
    exact ⟨.fixed _, .field (by decide +kernel) hnote, .fixed _,
      .field (by decide +kernel) hcode, .fixed _⟩
  rw [promptTemplate_eq, fill_written hfilled]
  simp only [promptParts, List.flatMap_cons, List.flatMap_nil, Part.shown, hnote, hcode,
    Option.getD_some, List.append_assoc, List.append_nil]

theorem fillNote_eq (complaint : Option Text) :
    fillNote complaint = .ok (note (complaint.getD [])) := by
  match complaint with
  | none => rfl
  | some [] => rfl
  | some (c :: m) => exact fill_noteTemplate (c :: m)

theorem renderPrompt_eq (r : Request) : renderPrompt r =
    .ok (promptHead ++ note (r.complaint.getD []) ++ promptBeforeCode ++ r.code ++
      promptAfterCode) := by
  rw [renderPrompt, mapError_eq_ok_iff, fillPrompt, bind_eq_ok_iff]
  exact ⟨_, fillNote_eq _, fill_promptTemplate _ _⟩

theorem prompt_eq (r : Request) : prompt r =
    promptHead ++ note (r.complaint.getD []) ++ promptBeforeCode ++ r.code ++ promptAfterCode := by
  rw [prompt, renderPrompt_eq]
  rfl

/-! ### Telling the note from what follows it -/

/-- What stands in front of a snippet is not the beginning of a note. -/
theorem beforeCode_ne_noteHead (s t : Text) : promptBeforeCode ++ s ≠ noteHead ++ t := by
  obtain ⟨before, hbefore⟩ : ∃ before, promptBeforeCode = '\n' :: before :=
    ⟨_, String.toList_ofList⟩
  obtain ⟨head, hhead⟩ : ∃ head, noteHead = 'A' :: head := ⟨_, String.toList_ofList⟩
  rw [hbefore, hhead]
  intro h
  cases h

/-- The end of a note is found by its first line feed, so a message of one line can be read off.
    -/
theorem note_inj {m₁ m₂ s t : Text} (h₁ : '\n' ∉ m₁) (h₂ : '\n' ∉ m₂)
    (h : note m₁ ++ (promptBeforeCode ++ s) = note m₂ ++ (promptBeforeCode ++ t)) :
    m₁ = m₂ ∧ s = t := by
  have htail : '\n' ∉ noteTail := by decide +kernel
  by_cases hm₁ : m₁ = [] <;> by_cases hm₂ : m₂ = []
  · subst hm₁ hm₂
    exact ⟨rfl, List.append_cancel_left (List.append_cancel_left h)⟩
  · subst hm₁
    rw [note_of_ne_nil hm₂, List.append_assoc, List.append_assoc, List.append_assoc] at h
    exact absurd h (beforeCode_ne_noteHead _ _)
  · subst hm₂
    rw [note_of_ne_nil hm₁, List.append_assoc, List.append_assoc, List.append_assoc] at h
    exact absurd h.symm (beforeCode_ne_noteHead _ _)
  · -- both notes end with the first line, since neither message goes on to a second one
    have hline (m r : Text) : noteHead ++ m ++ noteTail ++ "\n" ++ r =
        noteHead ++ ((m ++ noteTail) ++ '\n' :: r) := by
      simp only [List.append_assoc]
      rfl
    rw [note_of_ne_nil hm₁, note_of_ne_nil hm₂, hline, hline] at h
    have hone {m : Text} (hm : '\n' ∉ m) : '\n' ∉ m ++ noteTail := by
      rw [List.mem_append, not_or]
      exact ⟨hm, htail⟩
    obtain ⟨hlines, hrest⟩ := append_cons_inj (hone h₁) (hone h₂) (List.append_cancel_left h)
    exact ⟨List.append_cancel_right hlines, List.append_cancel_left hrest⟩

/-- **Two requests with one prompt are the same,** if their messages are of one line. -/
theorem request_of_prompt_eq {r₁ r₂ : Request} (h₁ : '\n' ∉ r₁.complaint.getD [])
    (h₂ : '\n' ∉ r₂.complaint.getD []) (h : prompt r₁ = prompt r₂) :
    r₁.code = r₂.code ∧ r₁.complaint.getD [] = r₂.complaint.getD [] := by
  rw [prompt_eq, prompt_eq] at h
  simp only [List.append_assoc] at h
  obtain ⟨hmessage, hcode⟩ := note_inj h₁ h₂ (List.append_cancel_left h)
  exact ⟨List.append_cancel_right hcode, hmessage⟩

/-- A message of several lines can hold what stands in front of a snippet.  Then it reads as a
    shorter one whose snippet begins earlier. -/
theorem prompt_of_longer_complaint {m : Text} (hm : m ≠ []) (u code : Text) :
    prompt ⟨u ++ noteTail ++ "\n" ++ promptBeforeCode ++ code, some m⟩ =
      prompt ⟨code, some (m ++ noteTail ++ "\n" ++ promptBeforeCode ++ u)⟩ := by
  have hlong (t : Text) : m ++ t ≠ [] := List.append_ne_nil_of_left_ne_nil hm t
  simp only [prompt_eq, Option.getD_some, List.append_assoc, note_of_ne_nil hm,
    note_of_ne_nil (hlong _)]

/-! ### The prompt -/

/-- The templates are filled whatever the request is.  The prompt holds the snippet unchanged in the
    fixed text, and the note with the message unchanged in it, if there is a message; and requests
    whose messages stay on one line are told apart by their prompts. -/
theorem prompt_carries_request :
    (∀ r : Request, renderPrompt r = .ok (prompt r) ∧
      prompt r = promptHead ++ note (r.complaint.getD []) ++ promptBeforeCode ++ r.code ++
        promptAfterCode) ∧
    (∀ m : Text, m ≠ [] → note m = noteHead ++ m ++ noteTail ++ "\n") ∧
    note [] = [] ∧
    ∀ r₁ r₂ : Request, '\n' ∉ r₁.complaint.getD [] → '\n' ∉ r₂.complaint.getD [] →
      prompt r₁ = prompt r₂ →
      r₁.code = r₂.code ∧ r₁.complaint.getD [] = r₂.complaint.getD [] := by
  refine ⟨?_, ?_, rfl, ?_⟩
  · intro r
    exact ⟨by rw [prompt_eq, renderPrompt_eq], prompt_eq r⟩
  · intro m hm
    exact note_of_ne_nil hm
  · intro r₁ r₂ h₁ h₂ h
    exact request_of_prompt_eq h₁ h₂ h

/-- A snippet that begins like a note on a message, with what stands behind a note. -/
def imitation : Text := noteHead ++ "\x7b0\x7d" ++ noteTail ++ "\n" ++ promptBeforeCode ++ "x();"

/-- No message and an empty one come to one prompt, with the snippet in it as it is; a message in
    braces is quoted as it is, and its prompt is not the one of the snippet that imitates it. -/
theorem prompt_carries_request_imitated :
    '\n' ∉ (none : Option Text).getD [] ∧ '\n' ∉ (some []).getD ([] : Text) ∧
    prompt ⟨imitation, none⟩ = prompt ⟨imitation, some []⟩ ∧
    (Request.mk imitation none).code = (Request.mk imitation (some [])).code ∧
    ("\x7b0\x7d" : Text) ≠ [] ∧
    note "\x7b0\x7d" = noteHead ++ "\x7b0\x7d" ++ noteTail ++ "\n" ∧
    prompt ⟨imitation, none⟩ ≠ prompt ⟨"x();", some "\x7b0\x7d"⟩ := by
  obtain ⟨hrendered, hnote, -, htold⟩ := prompt_carries_request
  have hsame : prompt ⟨imitation, none⟩ = prompt ⟨imitation, some []⟩ := by
    rw [(hrendered _).2, (hrendered _).2]
    rfl
  have hbraces : ("\x7b0\x7d" : Text) ≠ [] := by decide +kernel
  refine ⟨List.not_mem_nil, List.not_mem_nil, hsame, ?_, hbraces, hnote _ hbraces, ?_⟩
  · exact (htold _ _ List.not_mem_nil List.not_mem_nil hsame).1
  · intro h
    exact hbraces (htold _ _ List.not_mem_nil (by decide +kernel) h).2.symm

end ScriptDiagnosis.Review
