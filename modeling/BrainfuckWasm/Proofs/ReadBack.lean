import BrainfuckWasm.Proofs.Layout

/-!
# A body is the run-length form of its source

A body is read back as the run-length form of its source. Two sources with the same form compile
alike, since the form determines the fused code, and the form is all that can be read from a body.
-/

namespace BrainfuckWasm

namespace Body

/-- What is read from the text of code is the code's runs. -/
theorem decode_of_typesetCode {settings : Settings} {code : Code} {compiled : Compiled}
    (h : typesetCode settings code = .ok compiled) :
    Listing.decode compiled.text = some code.runs := by
  rw [typesetCode, typeset] at h
  split at h
  · cases h
  · cases h
    rw [Listing.decode_join, Code.runsOf_lines]

/-- The text of a compiled body is read back as the run-length form of its source. -/
theorem decode_of_compile {settings : Settings} {source : String} {compiled : Compiled}
    (h : compile settings source = .ok compiled) :
    Listing.decode compiled.text = some (Run.ofSource source.toList) := by
  have hbalanced := balanced_of_compile h
  obtain ⟨program, hprogram⟩ := TapeProgram.exists_of_balanced hbalanced
  rw [compile_eq_typesetCode settings hbalanced hprogram] at h
  rw [decode_of_typesetCode h, runs_of_symbols hprogram]

/-- Balanced sources with the same run-length form compile alike. -/
theorem compile_eq_of_runs (settings : Settings) {first second : String}
    (hfirst : Balanced first.toList) (hsecond : Balanced second.toList)
    (h : Run.ofSource first.toList = Run.ofSource second.toList) :
    compile settings first = compile settings second := by
  obtain ⟨firstProgram, hfirstProgram⟩ := TapeProgram.exists_of_balanced hfirst
  obtain ⟨secondProgram, hsecondProgram⟩ := TapeProgram.exists_of_balanced hsecond
  have hcode : firstProgram.fuse 0 0 = secondProgram.fuse 0 0 := by
    apply Code.runs_injective
    rw [runs_of_symbols hfirstProgram, runs_of_symbols hsecondProgram, h]
  rw [compile_eq_typesetCode settings hfirst hfirstProgram, hcode,
    compile_eq_typesetCode settings hsecond hsecondProgram]

/-- A compiled body holds the run-length form of its source and nothing else. It is read back from
the text, unless a line of the form has no margin; sources with one form have one outcome, body and
label count or error; and compiled texts are the same exactly if the forms are. -/
theorem compile_runLength (settings : Settings) :
    (∀ source : String, Balanced source.toList →
      (∃ cause, settings.refusal? (Run.ofSource source.toList) = some cause ∧
        compile settings source = .error (.margin cause)) ∨
      settings.refusal? (Run.ofSource source.toList) = none ∧
        ∃ compiled, compile settings source = .ok compiled ∧
          Listing.decode compiled.text = some (Run.ofSource source.toList)) ∧
    ∀ first second : String, Balanced first.toList → Balanced second.toList →
      (Run.ofSource first.toList = Run.ofSource second.toList →
        compile settings first = compile settings second) ∧
      ∀ left right, compile settings first = .ok left → compile settings second = .ok right →
        (left.text = right.text ↔ Run.ofSource first.toList = Run.ofSource second.toList) := by
  constructor
  · intro source hbalanced
    rcases compile_of_refusal? settings hbalanced with hrefused | ⟨hnone, compiled, hcompile⟩
    · exact Or.inl hrefused
    · exact Or.inr ⟨hnone, compiled, hcompile, decode_of_compile hcompile⟩
  · intro first second hfirst hsecond
    refine ⟨compile_eq_of_runs settings hfirst hsecond, fun left right hleft hright => ⟨?_, ?_⟩⟩
    · intro htext
      have hdecode := decode_of_compile hleft
      rw [htext, decode_of_compile hright, Option.some.injEq] at hdecode
      exact hdecode.symm
    · intro hruns
      rw [compile_eq_of_runs settings hfirst hsecond hruns, hright, Except.ok.injEq] at hleft
      rw [hleft]

/-- Moves that cancel leave no run, but they keep the changes around them apart; a comment does
not. -/
theorem compile_runLength_cancelling :
    Run.ofSource "+><+".toList = [.changes 1, .changes 1] ∧
      compile {} "+ +" = compile {} "++" ∧
      ∃ left right, compile {} "+><+" = .ok left ∧ compile {} "+ +" = .ok right ∧
        left.text ≠ right.text := by
  refine ⟨by decide, ((compile_runLength {}).2 "+ +" "++" (by decide) (by decide)).1 (by decide),
    _, _, rfl, rfl, ?_⟩
  rw [Ne, ((compile_runLength {}).2 "+><+" "+ +" (by decide) (by decide)).2 _ _ rfl rfl]
  decide

/-- A balanced source has no body to read at a width below the 64-bit integers. -/
theorem not_decodes_below_words :
    ¬ ∀ (settings : Settings) (source : String), Balanced source.toList →
      ∃ compiled, compile settings source = .ok compiled ∧
        Listing.decode compiled.text = some (Run.ofSource source.toList) := by
  intro h
  obtain ⟨compiled, hcompile, -⟩ := h { baseIndent := -0x8000000000000001 } ">-" (by decide)
  have hrefused : compile { baseIndent := -0x8000000000000001 } ">-" =
      .error (.margin .outOfRange) := by rfl
  rw [hrefused] at hcompile
  cases hcompile

end Body

end BrainfuckWasm
