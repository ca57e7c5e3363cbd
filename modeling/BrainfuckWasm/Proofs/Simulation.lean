import BrainfuckWasm.Proofs.Layout
import BrainfuckWasm.Proofs.Wat.Execution

/-!
# Compiled code does what its source says

A balanced source is executed symbol by symbol on the one side. On the other side its compiled text
is read as instructions and these are executed. Both start from the same machine and are answered by
the same host. Whatever the source comes to, a final machine, a trap or no end at all, the
instructions come to the same, except that they may go on where the source traps at changes that
cancel.
-/

namespace BrainfuckWasm

open Wat

/-- Instructions do what symbols do, from one machine and with one host. -/
structure Simulates (mode : Addressing) (symbols : List Symbol) (sequence : Sequence)
    (host : Nat → BitVec 32) (start : Machine) : Prop where
  /-- Where the symbols finish, the instructions finish with the same machine. -/
  finishes : ∀ final, Finishes host symbols start final → sequence.Finishes mode host start final
  /-- Where the instructions finish, the symbols finish with the same machine, or they trap and some
  changes among them cancel. -/
  finished : ∀ final, sequence.Finishes mode host start final →
    Finishes host symbols start final ∨ Traps host symbols start ∧ HasCancellingStretch symbols
  /-- Where the symbols trap, the instructions trap, unless some changes cancel. -/
  traps : Traps host symbols start → sequence.Traps mode host start ∨ HasCancellingStretch symbols
  /-- Where the instructions trap, the symbols trap. -/
  trapped : sequence.Traps mode host start → Traps host symbols start
  /-- Where the symbols never end, the instructions never end. -/
  diverges : Diverges host symbols start → sequence.Diverges mode host start

/-- The instructions of fused code come to an end exactly if a bounded run of the code does. -/
theorem Code.exists_execute_eq_iff (code : Code) (mode : Addressing) (host : Nat → BitVec 32)
    (start : Machine) (ending : Ending) :
    (∃ bound, (code.sequence mode 0 .done).execute mode host bound [] start =
      ending.resume (.finished [])) ↔ ∃ bound, code.run host bound start = ending := by
  refine exists_congr fun bound => ?_
  rw [execute_sequence]
  exact ⟨resume_injective, fun h => congrArg (Ending.resume · (.finished [])) h⟩

/-- The instructions of fused code simulate the symbols of its program. -/
theorem TapeProgram.simulates (program : TapeProgram) (mode : Addressing) (host : Nat → BitVec 32)
    (start : Machine) :
    Simulates mode program.symbols ((program.fuse 0 0).sequence mode 0 .done) host start := by
  have hagrees (bound : Nat) : Agrees (HasCancellingStretch program.symbols)
      (program.run host bound start) ((program.fuse 0 0).run host bound start) :=
    agrees_fuse program (.nothing start) Cancels.hasCancellingStretch
  have hcode := (program.fuse 0 0).exists_execute_eq_iff mode host start
  have hfinishes := program.finishes_iff host start
  have htraps := program.traps_iff host start
  refine ⟨fun final h => ?_, fun final h => ?_, fun h => ?_, fun h => ?_, fun h bound => ?_⟩
  · obtain ⟨bound, hrun⟩ := (hfinishes final).mp h
    refine (hcode (.finished final)).mpr ⟨bound, ?_⟩
    rcases hagrees bound with hsame | ⟨htrapped, -⟩
    · rw [← hsame, hrun]
    · rw [hrun] at htrapped
      cases htrapped
  · obtain ⟨bound, hrun⟩ := (hcode (.finished final)).mp h
    rcases hagrees bound with hsame | ⟨htrapped, hcancelling⟩
    · exact Or.inl ((hfinishes final).mpr ⟨bound, hsame.trans hrun⟩)
    · exact Or.inr ⟨htraps.mpr ⟨bound, htrapped⟩, hcancelling⟩
  · obtain ⟨bound, hrun⟩ := htraps.mp h
    rcases hagrees bound with hsame | ⟨-, hcancelling⟩
    · exact Or.inl ((hcode .trapped).mpr ⟨bound, hsame.symm.trans hrun⟩)
    · exact Or.inr hcancelling
  · obtain ⟨bound, hrun⟩ := (hcode .trapped).mp h
    rcases hagrees bound with hsame | ⟨htrapped, -⟩
    · exact htraps.mpr ⟨bound, hsame.trans hrun⟩
    · exact htraps.mpr ⟨bound, htrapped⟩
  · have hrun : program.run host bound start = .unfinished := run_eq_unfinished host bound h
    rw [Code.execute_sequence]
    rcases hagrees bound with hsame | ⟨htrapped, -⟩
    · rw [← hsame, hrun]
      rfl
    · rw [hrun] at htrapped
      cases htrapped

namespace Body

/-- Compiling preserves meaning. The text of a balanced source, unless a line of it has no margin,
reads as instructions that simulate the source from every machine and with every host. -/
theorem compile_simulates (settings : Settings) {source : String} (h : Balanced source.toList) :
    (∃ cause, settings.refusal? (Run.ofSource source.toList) = some cause ∧
      compile settings source = .error (.margin cause)) ∨
    settings.refusal? (Run.ofSource source.toList) = none ∧
      ∃ compiled sequence, compile settings source = .ok compiled ∧
        sequence? compiled.text = some sequence ∧
        ∀ (host : Nat → BitVec 32) (start : Machine), Simulates settings.addressing
          (Symbol.ofSource source.toList) sequence host start := by
  rcases compile_of_refusal? settings h with hrefused | ⟨hnone, compiled, hcompiled⟩
  · exact Or.inl hrefused
  · obtain ⟨program, hprogram⟩ := TapeProgram.exists_of_balanced h
    have hsequence := (program.fuse 0 0).sequence?_row settings.addressing 0 Row.sequence?_done
    refine Or.inr ⟨hnone, compiled, (program.fuse 0 0).sequence settings.addressing 0 .done,
      hcompiled, ?_, fun host start => ?_⟩
    · rw [sequence?, (lexes_compile hcompiled hprogram).row?_eq, Option.bind_some, hsequence]
    · rw [hprogram]
      exact program.simulates settings.addressing host start

/-- A loop that copies what it is given, with a comment in it. -/
theorem compile_simulates_copy :
    Balanced ",[>++ twice <-]>.".toList ∧
      ∃ compiled sequence,
        compile { addressing := .globalVariable, indentStep := 4 } ",[>++ twice <-]>." =
          .ok compiled ∧
        sequence? compiled.text = some sequence ∧
        ∀ (host : Nat → BitVec 32) (start : Machine), Simulates .globalVariable
          (Symbol.ofSource ",[>++ twice <-]>.".toList) sequence host start := by
  have hbalanced : Balanced ",[>++ twice <-]>.".toList := by decide
  have hcompile : compile { addressing := .globalVariable, indentStep := 4 } ",[>++ twice <-]>." =
    .ok _ := rfl
  refine ⟨hbalanced, ?_⟩
  rcases compile_simulates { addressing := .globalVariable, indentStep := 4 } hbalanced with
    ⟨cause, -, herror⟩ | ⟨-, hsimulates⟩
  · rw [hcompile] at herror
    cases herror
  · exact hsimulates

/-- Changes that cancel, left of the first cell: the symbols trap and the instructions go on. -/
example (host : Nat → BitVec 32) (memory : Fin 0x10000 → BitVec 8) :
    Traps host (Symbol.ofSource "<+-".toList) ⟨memory, 0, [], 0⟩ ∧
      ∃ compiled sequence, compile {} "<+-" = .ok compiled ∧
        sequence? compiled.text = some sequence ∧
        sequence.Finishes .localVariable host ⟨memory, 0, [], 0⟩ ⟨memory, -1, [], 0⟩ :=
  ⟨⟨2, by cbv⟩, _, _, rfl, rfl, 0, rfl⟩

end Body

end BrainfuckWasm
