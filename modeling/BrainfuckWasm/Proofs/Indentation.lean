import BrainfuckWasm.Proofs.Layout

/-!
# Indentation is layout and follows the nesting

The margins of a body are compared with the loops of its source, as the layout of its run-length
form places the lines.

Beside the margins nothing depends on the widths: without its leading spaces every line is the same
for all settings of one addressing.
-/

namespace BrainfuckWasm

namespace Listing

/-- The kind of a line, by its text. -/
def lineKind (line : String) : LineKind :=
  match mark? (core line) with
  | some mark => .labelled mark.kind
  | none => if core line = [')'] then .close else .plain

/-- The number of spaces that a line begins with. -/
def leadingSpaces (line : String) : Nat :=
  (line.toList.takeWhile (· == ' ')).length

/-- A line without the spaces that it begins with. -/
def unindented (line : String) : String :=
  String.ofList (line.toList.dropWhile (· == ' '))

/-- A text whose lines stand in the slots: each is of its kind and has the spaces of its width, or
none if that is negative. -/
structure LaidOut (base step : Int) (slots : List Slot) (text : String) : Prop where
  kinds_eq : (textLines text).map lineKind = slots.map Slot.kind
  spaces_eq : (textLines text).map (fun line => (leadingSpaces line : Int)) =
    slots.map fun slot => max 0 (slot.width base step)

end Listing

namespace Body

open Listing

/-- Apart from their margins the lines of code are the same at every width. -/
theorem instructions_lines (code : Code) (step width otherStep otherWidth : Int) (label : Nat) :
    (code.lines step width label).map Line.instruction =
      (code.lines otherStep otherWidth label).map Line.instruction := by
  induction code generalizing width otherWidth label with
  | done => rfl
  | move _ rest ih | change _ rest ih | output rest ih | input rest ih =>
    simp only [Code.lines, List.map_cons, ih width otherWidth label]
  | loop body rest ihbody ihrest =>
    simp only [Code.lines, List.map_append,
      ihbody (width + step) (otherWidth + otherStep) (label + 2), ihrest width otherWidth]
    rfl

/-! ## From lines to the text -/

/-- The text of an instruction begins with no space. -/
theorem head?_text_ne (mode : Addressing) (instruction : Instruction) :
    ∀ c ∈ ((instruction.text mode).toList ++ ['\n']).head?, (c == ' ') = false := by
  have hsolid := solid_text mode instruction
  intro c hc
  rw [List.head?_append_of_ne_nil _ hsolid.ne_nil, Option.mem_def] at hc
  have hblank : Text.isBlank c = false := by simpa [hc] using hsolid.first
  rw [beq_eq_false_iff_ne]
  rintro rfl
  cases hblank

/-- A rendered line is cut after its margin. -/
theorem margin_render (mode : Addressing) (line : Line) :
    (line.render mode).toList.takeWhile (· == ' ') = List.replicate line.width.toNat ' ' ∧
      (line.render mode).toList.dropWhile (· == ' ') =
        (line.instruction.text mode).toList ++ ['\n'] := by
  have hspaces (c : Char) (hc : c ∈ List.replicate line.width.toNat ' ') : (c == ' ') = true := by
    rw [List.eq_of_mem_replicate hc]
    rfl
  rw [toList_render]
  exact while_append hspaces (head?_text_ne mode line.instruction)

/-- A rendered line begins with the spaces of its width. -/
theorem leadingSpaces_render (mode : Addressing) (line : Line) :
    (leadingSpaces (line.render mode) : Int) = max 0 line.width := by
  rw [leadingSpaces, (margin_render mode line).1, List.length_replicate]
  omega

/-- Without its spaces a rendered line is its instruction. -/
theorem unindented_render (mode : Addressing) (line : Line) :
    unindented (line.render mode) = line.instruction.text mode ++ "\n" := by
  rw [unindented, (margin_render mode line).2, String.ofList_append, String.ofList_toList]

/-- A line that ends in a constant is more than a parenthesis. -/
theorem append_const_ne_close (before : List Char) (n : Nat) (tail : String) :
    before ++ numbered "(i32.const " n tail ≠ [')'] := by
  intro h
  have hletter : 'i' ∈ before ++ numbered "(i32.const " n tail := by simp [numbered]
  rw [h] at hletter
  simp at hletter

/-- The kind of a rendered line is that of its instruction. -/
theorem lineKind_render (mode : Addressing) (line : Line) :
    lineKind (line.render mode) = line.instruction.lineKind := by
  rw [lineKind, core_render, mark?_text]
  cases line.instruction with
  | movedPointer amount =>
    rw [toList_movedPointer]
    exact if_neg (append_const_ne_close _ _ _)
  | storeChanged amount =>
    rw [toList_storeChanged]
    exact if_neg (append_const_ne_close _ _ _)
  | block label | leaveIfZero label | loop label | againUnlessZero label => rfl
  | setPointer | pointer | cell | put | get | close => cases mode <;> rfl

/-- Lines that stand in slots are laid out in them. -/
theorem laidOut_join {base step : Int} (mode : Addressing) {lines : List Line} {slots : List Slot}
    (h : List.Forall₂ (Line.Fits base step) lines slots) :
    LaidOut base step slots (String.join (lines.map (Line.render mode))) := by
  constructor
  · rw [textLines_join, List.map_map, ← List.forall₂_eq_eq_eq, List.forall₂_map_left_iff,
      List.forall₂_map_right_iff]
    refine h.imp fun line slot hfits => ?_
    rw [Function.comp_apply, lineKind_render, hfits.kind_eq]
  · rw [textLines_join, List.map_map, ← List.forall₂_eq_eq_eq, List.forall₂_map_left_iff,
      List.forall₂_map_right_iff]
    refine h.imp fun line slot hfits => ?_
    rw [Function.comp_apply, leadingSpaces_render, hfits.width_eq]

/-- The lines of code without their margins. -/
def bareLines (mode : Addressing) (code : Code) : List String :=
  ((code.lines 0 0 0).map Line.instruction).map fun instruction => instruction.text mode ++ "\n"

/-- Typeset code is laid out in the slots of its runs, and apart from that it is its bare lines. -/
theorem laidOut_typesetCode {settings : Settings} {code : Code} {compiled : Compiled}
    (h : typesetCode settings code = .ok compiled) :
    LaidOut settings.baseIndent settings.indentStep (Run.layout [] code.runs) compiled.text ∧
      (textLines compiled.text).map unindented = bareLines settings.addressing code := by
  have hwidth : settings.baseIndent =
      settings.baseIndent + settings.indentStep * Run.openAfter [] := by simp [Run.openAfter]
  rw [typesetCode, typeset] at h
  split at h
  · cases h
  · cases h
    refine ⟨laidOut_join settings.addressing (fits_lines _ _ code [] hwidth 0), ?_⟩
    rw [textLines_join, List.map_map, bareLines,
      instructions_lines code 0 0 settings.indentStep settings.baseIndent 0, List.map_map]
    exact List.map_congr_left fun line _ => unindented_render settings.addressing line

/-- Indentation is pure layout and follows the nesting. Unless a line has no margin, a balanced
source compiles to a text that is laid out as the runs of the source say, and without their leading
spaces its lines are the same for all widths. -/
theorem compile_layout (mode : Addressing) (source : String) (h : Balanced source.toList) :
    ∃ bare : List String, ∀ baseIndent indentStep : Int,
      let settings : Settings := ⟨mode, baseIndent, indentStep⟩
      (∃ cause, settings.refusal? (Run.ofSource source.toList) = some cause ∧
        compile settings source = .error (.margin cause)) ∨
      settings.refusal? (Run.ofSource source.toList) = none ∧
        ∃ compiled, compile settings source = .ok compiled ∧
          (textLines compiled.text).map unindented = bare ∧
          LaidOut baseIndent indentStep (Run.layout [] (Run.ofSource source.toList))
            compiled.text := by
  obtain ⟨program, hprogram⟩ := TapeProgram.exists_of_balanced h
  refine ⟨bareLines mode (program.fuse 0 0), fun baseIndent indentStep => ?_⟩
  intro settings
  rcases compile_of_refusal? settings h with hrefused | ⟨hnone, compiled, hcompile⟩
  · exact Or.inl hrefused
  · have htypeset := hcompile
    rw [compile_eq_typesetCode settings h hprogram] at htypeset
    obtain ⟨hlaidOut, hbare⟩ := laidOut_typesetCode htypeset
    rw [runs_of_symbols hprogram] at hlaidOut
    exact Or.inr ⟨hnone, compiled, hcompile, hbare, hlaidOut⟩

/-- A negative width outside the loop has no spaces, and the step inwards brings some. -/
theorem compile_layout_negative :
    Balanced "[.]".toList ∧ ∃ compiled, compile ⟨.localVariable, -1, 3⟩ "[.]" = .ok compiled ∧
      (textLines compiled.text).map (fun line => (leadingSpaces line : Int)) =
        [0, 0, 0, 2, 2, 2, 0, 0] := by
  have hbalanced : Balanced "[.]".toList := by decide
  obtain ⟨bare, hlayout⟩ := compile_layout .localVariable "[.]" hbalanced
  rcases hlayout (-1) 3 with ⟨cause, -, hcompile⟩ | ⟨-, compiled, hcompile, -, hlaidOut⟩
  · cases hcompile
  · refine ⟨hbalanced, compiled, hcompile, ?_⟩
    rw [hlaidOut.spaces_eq]
    decide

/-- A balanced source has no layout at a width below the 64-bit integers. -/
theorem not_laidOut_below_words :
    ¬ ∀ (settings : Settings) (source : String), Balanced source.toList →
      ∃ compiled, compile settings source = .ok compiled ∧
        LaidOut settings.baseIndent settings.indentStep
          (Run.layout [] (Run.ofSource source.toList)) compiled.text := by
  intro h
  obtain ⟨compiled, hcompile, -⟩ := h { baseIndent := -0x8000000000000001 } "." (by decide)
  have hrefused : compile { baseIndent := -0x8000000000000001 } "." =
      .error (.margin .outOfRange) := by rfl
  rw [hrefused] at hcompile
  cases hcompile

end Body

end BrainfuckWasm
