import Mathlib.Data.List.Forall2
import BrainfuckWasm.Proofs.RunLength

/-!
# The layout of runs

From the run-length form of a source alone one can say which lines there are, how many loops are
open around each, and which stand one space further in; each run is placed by counting the loop
starts and loop ends before it. A pass gets to the same widths by raising and lowering one width as
it goes.

So the layout also decides whether a balanced source compiles: it does if every place of it has a
margin, and the first place that has none gives the error.
-/

namespace BrainfuckWasm

namespace Listing

/-- What a line is, as far as its margin goes: it has a label, or closes a parenthesis, or
neither. -/
inductive LineKind where
  | labelled (kind : MarkKind)
  | close
  | plain
  deriving DecidableEq, Repr

/-- The place of a line in a layout: its kind, the number of loops that are open around it, and by
how much it is set in beyond them. -/
structure Slot where
  kind : LineKind
  depth : Int
  extra : Int
  deriving DecidableEq, Repr

/-- The width of a slot, for the width outside all loops and the step inwards. -/
def Slot.width (base step : Int) (slot : Slot) : Int :=
  base + step * slot.depth + slot.extra

end Listing

namespace Run

open Listing (Slot)

/-- What a run adds to the number of open loops. -/
def opened : Run → Int
  | .loopStart => 1
  | .loopEnd => -1
  | _ => 0

/-- The number of loops that are open after runs. -/
def openAfter (runs : List Run) : Int :=
  (runs.map opened).sum

/-- The slots of a run, for the number of loops that are open before it. A loop start is written
outside its loop. So is a loop end, but for the branch back, which is its first line. -/
def slots (depth : Int) : Run → List Slot
  | .moves _ | .changes _ | .output => [⟨.plain, depth, 0⟩, ⟨.plain, depth, 0⟩]
  | .input => [⟨.plain, depth, 0⟩]
  | .loopStart =>
    [⟨.labelled .block, depth, 0⟩, ⟨.labelled .entry, depth, 1⟩, ⟨.labelled .loop, depth, 1⟩]
  | .loopEnd => [⟨.labelled .again, depth, 0⟩, ⟨.close, depth - 1, 1⟩, ⟨.close, depth - 1, 0⟩]

/-- The slots of runs that come after others. -/
def layout (before : List Run) : List Run → List Slot
  | [] => []
  | run :: rest => run.slots (openAfter before) ++ layout (before ++ [run]) rest

/-- Open loops are counted piece by piece. -/
theorem openAfter_append (first second : List Run) :
    openAfter (first ++ second) = openAfter first + openAfter second := by
  rw [openAfter, List.map_append, List.sum_append]
  rfl

/-- Runs are laid out piece by piece. -/
theorem layout_append (before first second : List Run) :
    layout before (first ++ second) = layout before first ++ layout (before ++ first) second := by
  induction first generalizing before with
  | nil => simp [layout]
  | cons run rest ih =>
    rw [List.cons_append, layout, layout, ih, List.append_assoc, List.append_assoc,
      List.singleton_append]

end Run

/-- Code leaves no loop open. -/
theorem Code.openAfter_runs (code : Code) : Run.openAfter code.runs = 0 := by
  have hcons (run : Run) (rest : List Run) :
      Run.openAfter (run :: rest) = Run.openAfter [run] + Run.openAfter rest :=
    Run.openAfter_append [run] rest
  induction code with
  | done => rfl
  | move _ rest ih | change _ rest ih | output rest ih | input rest ih =>
    rw [runs, hcons, ih]
    rfl
  | loop body rest ihbody ihrest =>
    rw [runs, hcons, Run.openAfter_append, ihbody, hcons .loopEnd, ihrest]
    rfl

namespace Body

open Listing

/-- The kind of the line of an instruction. -/
def Instruction.lineKind : Instruction → LineKind
  | .block _ => .labelled .block
  | .leaveIfZero _ => .labelled .entry
  | .loop _ => .labelled .loop
  | .againUnlessZero _ => .labelled .again
  | .close => .close
  | _ => .plain

/-- A line stands in a slot. -/
structure Line.Fits (base step : Int) (line : Line) (slot : Slot) : Prop where
  width_eq : line.width = slot.width base step
  kind_eq : line.instruction.lineKind = slot.kind

/-- A line at the width of its depth stands in a slot of that depth. -/
theorem Line.Fits.plain {base step width depth : Int} (hwidth : width = base + step * depth)
    (instruction : Instruction) :
    Line.Fits base step ⟨width, instruction⟩ ⟨instruction.lineKind, depth, 0⟩ :=
  ⟨by rw [hwidth, Slot.width, Int.add_zero], rfl⟩

/-- A line that is set in by one more stands in such a slot. -/
theorem Line.Fits.inset {base step width depth : Int} (hwidth : width = base + step * depth)
    (instruction : Instruction) :
    Line.Fits base step ⟨width + 1, instruction⟩ ⟨instruction.lineKind, depth, 1⟩ :=
  ⟨by rw [hwidth, Slot.width], rfl⟩

/-- The lines that open a loop stand in the slots of a loop start. -/
theorem fits_openingLines {base step width : Int} {before : List Run}
    (hwidth : width = base + step * Run.openAfter before) (label : Nat) :
    List.Forall₂ (Line.Fits base step) (openingLines width label)
      (Run.layout before [.loopStart]) :=
  .cons (.plain hwidth _) (.cons (.inset hwidth _) (.cons (.inset hwidth _) .nil))

/-- The lines that close a loop stand in the slots of a loop end. -/
theorem fits_closingLines {base step width : Int} {before : List Run}
    (hwidth : width + step = base + step * Run.openAfter before) (label : Nat) :
    List.Forall₂ (Line.Fits base step) (closingLines width step label)
      (Run.layout before [.loopEnd]) := by
  have hout : width = base + step * (Run.openAfter before - 1) := by
    rw [Int.mul_sub, Int.mul_one]
    omega
  exact .cons (.plain hwidth _) (.cons (.inset hout _) (.cons (.plain hout _) .nil))

/-- Lines stand in the slots of runs in a row if they do piece by piece. -/
theorem fits_append {base step : Int} {before first second : List Run} {lines more : List Line}
    (hfirst : List.Forall₂ (Line.Fits base step) lines (Run.layout before first))
    (hsecond : List.Forall₂ (Line.Fits base step) more (Run.layout (before ++ first) second)) :
    List.Forall₂ (Line.Fits base step) (lines ++ more) (Run.layout before (first ++ second)) := by
  rw [Run.layout_append]
  exact List.rel_append hfirst hsecond

/-- What a run adds to the open loops it adds to the width of what comes after it. -/
theorem width_append {base step width : Int} {before : List Run}
    (hwidth : width = base + step * Run.openAfter before) (runs : List Run) :
    width + step * Run.openAfter runs = base + step * Run.openAfter (before ++ runs) := by
  rw [Run.openAfter_append, Int.mul_add, hwidth, Int.add_assoc]

/-- After runs that leave no loop open, the width is the same. -/
theorem width_append_of_closed {base step width : Int} {before : List Run}
    (hwidth : width = base + step * Run.openAfter before) {runs : List Run}
    (hruns : Run.openAfter runs = 0) : width = base + step * Run.openAfter (before ++ runs) := by
  rw [← width_append hwidth, hruns, Int.mul_zero, Int.add_zero]

/-- The lines of code stand in the slots of its runs. -/
theorem fits_lines (base step : Int) (code : Code) (before : List Run) {width : Int}
    (hwidth : width = base + step * Run.openAfter before) (label : Nat) :
    List.Forall₂ (Line.Fits base step) (code.lines step width label)
      (Run.layout before code.runs) := by
  induction code generalizing before width label with
  | done => exact .nil
  | move _ rest ih | change _ rest ih | output rest ih =>
    exact .cons (.plain hwidth _) (.cons (.plain hwidth _)
      (ih _ (width_append_of_closed hwidth rfl) label))
  | input rest ih => exact .cons (.plain hwidth _) (ih _ (width_append_of_closed hwidth rfl) label)
  | loop body rest ihbody ihrest =>
    have hinside : width + step = base + step * Run.openAfter (before ++ [.loopStart]) := by
      rw [← width_append hwidth]
      exact congrArg (width + ·) (Int.mul_one step).symm
    have hend : width + step = base + step * Run.openAfter (before ++ [.loopStart] ++ body.runs) :=
      width_append_of_closed hinside body.openAfter_runs
    have hout : width = base + step *
        Run.openAfter (before ++ [.loopStart] ++ body.runs ++ [.loopEnd]) := by
      rw [← width_append hend]
      change width = width + step + step * -1
      omega
    rw [Code.lines, List.append_assoc, List.append_assoc]
    exact fits_append (fits_openingLines hwidth label)
      (fits_append (ihbody _ hinside (label + 2))
        (fits_append (fits_closingLines hend (label + 1)) (ihrest _ hout _)))

/-! ## The first line without a margin -/

/-- The error of the first line without a margin, among those that runs come to. -/
def Settings.refusal? (settings : Settings) (runs : List Run) : Option MarginError :=
  (Run.layout [] runs).findSome? fun slot =>
    marginError? (slot.width settings.baseIndent settings.indentStep)

/-- Lines fail where the slots do that they stand in. -/
theorem firstMarginError_eq_of_fits {base step : Int} {lines : List Line} {slots : List Slot}
    (h : List.Forall₂ (Line.Fits base step) lines slots) :
    firstMarginError lines = slots.findSome? fun slot => marginError? (slot.width base step) := by
  induction h with
  | nil => rfl
  | cons hfits _ ih =>
    rw [firstMarginError] at ih ⊢
    rw [List.findSome?_cons, List.findSome?_cons, hfits.width_eq, ih]

/-- Fused code is typeset unless the layout of its runs has a place without a margin. -/
theorem typesetCode_of_refusal? (settings : Settings) (code : Code) :
    (∃ cause, settings.refusal? code.runs = some cause ∧
      typesetCode settings code = .error (.margin cause)) ∨
    settings.refusal? code.runs = none ∧ ∃ compiled, typesetCode settings code = .ok compiled := by
  have hwidth : settings.baseIndent =
      settings.baseIndent + settings.indentStep * Run.openAfter [] := by simp [Run.openAfter]
  have hlines := firstMarginError_eq_of_fits (fits_lines _ _ code [] hwidth 0)
  rw [typesetCode, typeset, hlines, Settings.refusal?]
  cases (Run.layout [] code.runs).findSome? fun slot =>
      marginError? (slot.width settings.baseIndent settings.indentStep) with
  | some cause => exact Or.inl ⟨cause, rfl, rfl⟩
  | none => exact Or.inr ⟨rfl, _, rfl⟩

/-- A balanced source compiles unless the layout of its runs has a place without a margin, and then
the first such place gives the error. -/
theorem compile_of_refusal? (settings : Settings) {source : String} (h : Balanced source.toList) :
    (∃ cause, settings.refusal? (Run.ofSource source.toList) = some cause ∧
      compile settings source = .error (.margin cause)) ∨
    settings.refusal? (Run.ofSource source.toList) = none ∧
      ∃ compiled, compile settings source = .ok compiled := by
  obtain ⟨program, hprogram⟩ := TapeProgram.exists_of_balanced h
  rw [compile_eq_typesetCode settings h hprogram, ← runs_of_symbols hprogram]
  exact typesetCode_of_refusal? settings (program.fuse 0 0)

end Body

end BrainfuckWasm
