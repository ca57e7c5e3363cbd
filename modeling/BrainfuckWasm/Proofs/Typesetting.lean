import BrainfuckWasm.Proofs.Code
import BrainfuckWasm.Proofs.Diagnosis

/-!
# The text of code

Typesetting turns lines into text, or fails at the first line without a margin. For a balanced
source, compiling is nothing else than fusing its program and typesetting the lines of the code, so
every later statement about compiled text starts from here and never looks at a pass again.
-/

namespace BrainfuckWasm.Body

/-- The text of lines, unless one of them has no margin. -/
def typeset (mode : Addressing) (lines : List Line) : Except Stop String :=
  match firstMarginError lines with
  | some cause => .error (.margin cause)
  | none => .ok (String.join (lines.map (Line.render mode)))

/-- Lines are typeset piece by piece. -/
theorem typeset_append (mode : Addressing) (first second : List Line) :
    typeset mode (first ++ second) =
      (typeset mode first).bind fun before =>
        (typeset mode second).map fun after => before ++ after := by
  simp only [typeset, firstMarginError_append]
  cases firstMarginError first with
  | some cause => rfl
  | none =>
    rw [Option.none_or]
    cases firstMarginError second with
    | some cause => rfl
    | none =>
      simp only [Except.bind, Except.map, List.map_append, String.join_append]

/-- Fused code as a compiled body, with labels counted from nought. -/
def typesetCode (settings : Settings) (code : Code) : Except Stop Compiled :=
  (typeset settings.addressing (code.lines settings.indentStep settings.baseIndent 0)).map
    fun text => ⟨text, code.labels⟩

/-- A balanced source compiles to the fused code of its program. -/
theorem compile_eq_typesetCode (settings : Settings) {source : String} {program : TapeProgram}
    (hbalanced : Balanced source.toList)
    (hprogram : Symbol.ofSource source.toList = program.symbols) :
    compile settings source = typesetCode settings (program.fuse 0 0) := by
  have hwrites := Pass.readFrom_flush_writes program (Pass.start settings) 0 source.toList hprogram
  rw [← Pass.run_eq_of_balanced settings hbalanced] at hwrites
  rw [typesetCode, typeset]
  cases hmargin : firstMarginError ((program.fuse 0 0).lines settings.indentStep
      settings.baseIndent 0) with
  | some cause => exact compile_eq_error (hwrites.stopped cause hmargin)
  | none =>
    rw [compile, hwrites.finished hmargin]
    simp [Pass.body, Pass.output, Pass.coded, Pass.extend, Pass.settled, Pass.start, Pass.linesOf,
      Except.map]

/-- A source that compiles is balanced. -/
theorem balanced_of_compile {settings : Settings} {source : String} {compiled : Compiled}
    (h : compile settings source = .ok compiled) : Balanced source.toList := by
  have herror {stop : Stop} (hstop : (Pass.run settings source.toList).stop = some stop) :
      Balanced source.toList := by
    rw [compile_eq_error hstop] at h
    cases h
  rcases Pass.run_outcome settings source.toList with ⟨pass, -, hbalanced⟩ |
    ⟨position, hstop, -⟩ | ⟨position, hstop, -⟩ | ⟨cause, hstop⟩
  · exact hbalanced
  · exact herror hstop
  · exact herror hstop
  · exact herror hstop

end BrainfuckWasm.Body
