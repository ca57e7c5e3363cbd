import BrainfuckWasm.Proofs.Reached
import BrainfuckWasm.Service.Handler

/-!
# What a stored artifact says of its source

A compiled body has two labels for each loop start of its source, so the counts of an artifact are
counts of its code. A sound artifact is what compiling its own code gives, by way of the body as by
way of the whole module. The service stores nothing else.
-/

namespace BrainfuckWasm

namespace Text

/-- Of all code points, only that of a bracket has the bracket as its character. -/
theorem Point.char_eq_bracket_iff {point : Point} : point.char = '[' ↔ point = .ofChar '[' := by
  constructor
  · intro h
    rw [char] at h
    split at h
    · cases h
    · next hsurrogate =>
      have hvalid : point.value.isValidChar := by
        have hbound := point.bounded
        simp only [isSurrogate, Bool.and_eq_true, decide_eq_true_eq] at hsurrogate
        unfold Nat.isValidChar
        omega
      have hvalue : point.value = '['.toNat := by
        rw [← h, Char.ofNat, dif_pos hvalid]
        rfl
      obtain ⟨value, bounded⟩ := point
      change value = 0x5B at hvalue
      subst hvalue
      rfl
  · rintro rfl
    rw [char_ofChar]

/-- Replacements for surrogates are no loop starts. -/
theorem opens_narrow (text : Wide) :
    opens (narrow text).toList = text.count (Point.ofChar '[') := by
  rw [narrow, String.toList_ofList, opens, List.count, List.countP_map, List.count]
  congr 1
  funext point
  exact Bool.eq_iff_iff.mpr (by simp [Point.char_eq_bracket_iff])

end Text

namespace Artifact

/-- An artifact that is what compiling its code gives, with the counts of its loop starts. -/
structure Record.Sound (record : Record) : Prop where
  body_eq : (Body.compile { addressing := record.addressing } (Text.narrow record.code)).map
    Body.Compiled.text = .ok record.body
  module_eq : Module.compile (Text.narrow record.code) record.addressing = .ok record.module
  labelCount_eq : record.labelCount = 2 * record.code.count (.ofChar '[')
  loopCount_eq : record.loopCount = record.code.count (.ofChar '[')

/-- Compiling the code of an artifact makes it sound. -/
theorem Record.sound_of_compile {record : Record} {compiled : Body.Compiled}
    (h : Body.compile { addressing := record.addressing } (Text.narrow record.code) = .ok compiled)
    (hbody : record.body = compiled.text)
    (hmodule : record.module = Module.render compiled.text record.addressing)
    (hlabels : record.labelCount = compiled.labelCount) : record.Sound := by
  have hcount : record.labelCount = 2 * record.code.count (.ofChar '[') := by
    rw [hlabels, Body.labelCount_of_compile h, Text.opens_narrow]
    push_cast
    rfl
  refine ⟨?_, ?_, hcount, ?_⟩
  · rw [h, hbody]
    rfl
  · rw [Module.compile, h, hmodule]
    rfl
  · rw [Record.loopCount, hcount, Int.mul_fdiv_cancel_left _ (by decide)]

end Artifact

namespace Service

open Artifact (Draft Store)

/-- The outcomes of a compile request that stores nothing. -/
inductive Refusal : Except Escape Response → Prop where
  | answered {response : Response} (hstatus : response.status = 400 ∨ response.status = 422) :
      Refusal (.ok response)
  | margin (cause : Body.MarginError) : Refusal (.error (.margin cause))
  | unsendable (cause : Json.EncodeError) : Refusal (.error (.unsendable cause))

/-- Issues are answered with status 422, unless they cannot be sent. -/
theorem refusal_issuesResponse (limits : Limits) (issues : List Issue) :
    Refusal (issuesResponse limits issues) := by
  rw [issuesResponse]
  split
  · exact .answered (Or.inr rfl)
  · exact .unsendable _

/-- A compile request is refused, or it stores a sound artifact and answers with that. -/
theorem compileRequest_cases (limits : Limits) (issue : Nat → String) (store : Store)
    (body : List UInt8) :
    (∃ outcome, Refusal outcome ∧ compileRequest limits issue store body = (store, outcome)) ∨
      ∃ draft : Draft, (store.add draft issue).2.Sound ∧ compileRequest limits issue store body =
        ((store.add draft issue).1, payloadResponse 201 (store.add draft issue).2) := by
  rw [compileRequest]
  cases readRequest limits body with
  | error error =>
    cases error with
    | unreadable => exact Or.inl ⟨_, .answered (Or.inl rfl), rfl⟩
    | faulty issues => exact Or.inl ⟨_, refusal_issuesResponse limits issues, rfl⟩
  | ok request =>
    simp only
    cases hcompile : Body.compile { addressing := request.addressing }
        (Text.narrow request.code) with
    | error stop =>
      cases stop with
      | unbalanced fault => exact Or.inl ⟨_, .answered (Or.inl rfl), rfl⟩
      | margin cause => exact Or.inl ⟨_, .margin cause, rfl⟩
    | ok compiled =>
      refine Or.inr ⟨⟨request.code, request.addressing, compiled.text,
        Module.render compiled.text request.addressing, compiled.labelCount⟩, ?_, rfl⟩
      exact Artifact.Record.sound_of_compile hcompile rfl rfl rfl

end Service

end BrainfuckWasm
