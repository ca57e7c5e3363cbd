import BrainfuckWasm.Proofs.Relabel

/-!
# Compiling piece by piece

A pass carries pending sums, a width and a label counter from one symbol to the next. Where two
sources meet, the sums matter only if the last symbol before the boundary and the first one after it
go into the same sum; otherwise what follows starts afresh, with its labels counted on. A loop is
its opening lines, its body one step further in with the labels from two on, and its closing lines.

Both equations hold for every outcome: a piece without a margin stops the whole with the same error.
-/

namespace BrainfuckWasm

/-- Two symbols that go into the same sum when they are neighbours. -/
def Symbol.fusesWith (first second : Symbol) : Bool :=
  first.isMove && second.isMove || first.isChange && second.isChange

/-- The last symbol of a text and the first one of another do not go into the same sum. -/
def Apart (first second : List Char) : Prop :=
  ∀ last ∈ (Symbol.ofSource first).getLast?, ∀ next ∈ (Symbol.ofSource second).head?,
    last.fusesWith next = false

instance (first second : List Char) : Decidable (Apart first second) :=
  inferInstanceAs (Decidable (∀ last ∈ (Symbol.ofSource first).getLast?,
    ∀ next ∈ (Symbol.ofSource second).head?, last.fusesWith next = false))

/-- Code followed by further code. -/
def Code.append : Code → Code → Code
  | .done, next => next
  | .move amount rest, next => .move amount (rest.append next)
  | .change amount rest, next => .change amount (rest.append next)
  | .output rest, next => .output (rest.append next)
  | .input rest, next => .input (rest.append next)
  | .loop body rest, next => .loop body (rest.append next)

namespace Code

/-- Labels are counted piece by piece. -/
theorem labels_append (first second : Code) :
    (first.append second).labels = first.labels + second.labels := by
  induction first with
  | done => exact (Nat.zero_add _).symm
  | move amount rest ih | change amount rest ih | output rest ih | input rest ih => exact ih
  | loop body rest ihbody ihrest => simp only [append, labels, ihrest, Nat.add_assoc]

/-- Further code comes after that of the first, with its labels counted on. -/
theorem lines_append (first second : Code) (step width : Int) (label : Nat) :
    (first.append second).lines step width label =
      first.lines step width label ++ second.lines step width (label + first.labels) := by
  induction first generalizing label with
  | done => rfl
  | move amount rest ih | change amount rest ih | output rest ih | input rest ih =>
    simp only [append, lines, ih, labels, List.cons_append]
  | loop body rest ihbody ihrest =>
    simp only [append, lines, ihrest, labels, List.append_assoc]
    congr 5
    omega

/-- What comes after a move comes after what follows it. -/
theorem moved_append (amount : Int) (first second : Code) :
    (moved amount first).append second = moved amount (first.append second) := by
  by_cases h : amount = 0
  · simp [moved, h]
  · simp [moved, h, append]

/-- What comes after a change comes after what follows it. -/
theorem changed_append (amount : Int) (first second : Code) :
    (changed amount first).append second = changed amount (first.append second) := by
  by_cases h : amount = 0
  · simp [changed, h]
  · simp [changed, h, append]

end Code

namespace TapeProgram

/-- A program followed by a further one. -/
def append : TapeProgram → TapeProgram → TapeProgram
  | done, next => next
  | move forward rest, next => move forward (rest.append next)
  | change up rest, next => change up (rest.append next)
  | output rest, next => output (rest.append next)
  | input rest, next => input (rest.append next)
  | loop body rest, next => loop body (rest.append next)

/-- The symbols of a program come before those of the further one. -/
theorem symbols_append (first second : TapeProgram) :
    (first.append second).symbols = first.symbols ++ second.symbols := by
  induction first with
  | done => rfl
  | move forward rest ih | change up rest ih | output rest ih | input rest ih =>
    simp only [append, symbols, ih, List.cons_append]
  | loop body rest ihbody ihrest =>
    simp only [append, symbols, ihrest, List.cons_append, List.append_assoc]

/-- Sums that are not nought come from a last symbol of their kind. -/
structure Pending (moves changes : Int) (last : Option Symbol) : Prop where
  moves_eq : moves ≠ 0 → ∃ symbol ∈ last, symbol.isMove = true
  changes_eq : changes ≠ 0 → ∃ symbol ∈ last, symbol.isChange = true

/-- Nothing is pending at first, or after a symbol that settles both sums. -/
theorem pending_zero (last : Option Symbol) : Pending 0 0 last :=
  ⟨fun h => absurd rfl h, fun h => absurd rfl h⟩

/-- A program that does not add to the sums settles them and starts afresh. -/
theorem fuse_eq_of_pending {moves changes : Int} {last : Option Symbol}
    (h : Pending moves changes last) (program : TapeProgram)
    (hapart : ∀ symbol ∈ last, ∀ next ∈ program.symbols.head?, symbol.fusesWith next = false) :
    program.fuse moves changes = .moved moves (.changed changes (program.fuse 0 0)) := by
  cases program with
  | done => rfl
  | move forward rest =>
    have hmoves : moves = 0 := by
      by_contra hne
      obtain ⟨symbol, hsymbol, hmove⟩ := h.moves_eq hne
      have hfalse := hapart symbol hsymbol (moveSymbol forward) rfl
      simp [Symbol.fusesWith, hmove, isMove_moveSymbol] at hfalse
    simp [fuse, hmoves, Code.moved, Code.changed]
  | change up rest =>
    have hchanges : changes = 0 := by
      by_contra hne
      obtain ⟨symbol, hsymbol, hchange⟩ := h.changes_eq hne
      have hfalse := hapart symbol hsymbol (changeSymbol up) rfl
      simp [Symbol.fusesWith, hchange, isChange_changeSymbol] at hfalse
    simp [fuse, hchanges, Code.moved, Code.changed]
  | output rest | input rest | loop body rest => simp [fuse, Code.moved, Code.changed]

/-- The last symbol of a program, or the one read before it. -/
def lastSymbol (before : Option Symbol) : TapeProgram → Option Symbol
  | done => before
  | move forward rest => rest.lastSymbol (some (moveSymbol forward))
  | change up rest => rest.lastSymbol (some (changeSymbol up))
  | output rest => rest.lastSymbol (some .output)
  | input rest => rest.lastSymbol (some .input)
  | loop _ rest => rest.lastSymbol (some .loopClose)

/-- The last symbol is the last of all symbols. -/
theorem lastSymbol_eq (program : TapeProgram) (before : Option Symbol) :
    program.lastSymbol before = program.symbols.getLast?.or before := by
  induction program generalizing before with
  | done => rfl
  | move _ rest ih | change _ rest ih | output rest ih | input rest ih =>
    rw [lastSymbol, ih, symbols, List.getLast?_cons]
    cases rest.symbols.getLast? <;> rfl
  | loop body rest _ ih =>
    rw [lastSymbol, ih, symbols, List.getLast?_cons, List.getLast?_append, List.getLast?_cons]
    cases rest.symbols.getLast? <;> rfl

/-- A program followed by one that does not add to its last sums is fused piece by piece. -/
theorem fuse_append {moves changes : Int} {last : Option Symbol} (h : Pending moves changes last)
    (first second : TapeProgram)
    (hapart : ∀ symbol ∈ first.lastSymbol last, ∀ next ∈ second.symbols.head?,
      symbol.fusesWith next = false) :
    (first.append second).fuse moves changes =
      (first.fuse moves changes).append (second.fuse 0 0) := by
  induction first generalizing moves changes last with
  | done =>
    rw [append, fuse_eq_of_pending h second hapart, fuse, Code.moved_append, Code.changed_append]
    rfl
  | move forward rest ih =>
    have hpending : Pending (moves + unit forward) 0 (some (moveSymbol forward)) :=
      ⟨fun _ => ⟨_, rfl, isMove_moveSymbol forward⟩, fun hne => absurd rfl hne⟩
    rw [append, fuse, fuse, ih hpending hapart, Code.changed_append]
  | change up rest ih =>
    have hpending : Pending 0 (changes + unit up) (some (changeSymbol up)) :=
      ⟨fun hne => absurd rfl hne, fun _ => ⟨_, rfl, isChange_changeSymbol up⟩⟩
    rw [append, fuse, fuse, ih hpending hapart, Code.moved_append]
  | output rest ih | input rest ih =>
    rw [append, fuse, fuse, ih (pending_zero _) hapart, Code.moved_append, Code.changed_append]
    rfl
  | loop body rest ihbody ihrest =>
    rw [append, fuse, fuse, ihrest (pending_zero _) hapart, Code.moved_append, Code.changed_append]
    rfl

end TapeProgram

namespace Body

/-- Code after other code is typeset after it, with its labels shifted beyond the others. -/
theorem typesetCode_append (settings : Settings) (first second : Code) :
    typesetCode settings (first.append second) = do
      let before ← typesetCode settings first
      let after ← typesetCode settings second
      return ⟨before.text ++ relabel before.labelCount after.text,
        before.labelCount + after.labelCount⟩ := by
  simp only [typesetCode, Code.lines_append, Code.labels_append, typeset_append, Nat.zero_add]
  have hshift := typeset_lines_add_label settings.addressing second settings.indentStep
    settings.baseIndent 0 first.labels
  rw [Nat.zero_add] at hshift
  rw [hshift]
  cases typeset settings.addressing (first.lines settings.indentStep settings.baseIndent 0) with
  | error stop => rfl
  | ok before =>
    cases typeset settings.addressing
      (second.lines settings.indentStep settings.baseIndent 0) with
    | error stop => rfl
    | ok after => rfl

/-- The code of a loop is typeset as its opening lines, its body one step further in with the labels
from two on, and its closing lines. -/
theorem typesetCode_loop (settings : Settings) (body : Code) :
    typesetCode settings (.loop body .done) = do
      let opening ← typeset settings.addressing (openingLines settings.baseIndent 0)
      let inner ← typesetCode
        { settings with baseIndent := settings.baseIndent + settings.indentStep } body
      let closing ← typeset settings.addressing
        (closingLines settings.baseIndent settings.indentStep 1)
      return ⟨opening ++ relabel 2 inner.text ++ closing, inner.labelCount + 2⟩ := by
  have hshift := typeset_lines_add_label settings.addressing body settings.indentStep
    (settings.baseIndent + settings.indentStep) 0 2
  simp only [typesetCode, Code.lines, Code.labels, typeset_append, List.append_nil, hshift]
  cases typeset settings.addressing (openingLines settings.baseIndent 0) with
  | error stop => rfl
  | ok opening =>
    cases typeset settings.addressing (body.lines settings.indentStep
      (settings.baseIndent + settings.indentStep) 0) with
    | error stop => rfl
    | ok inner =>
      cases typeset settings.addressing
        (closingLines settings.baseIndent settings.indentStep (0 + 1)) with
      | error stop => rfl
      | ok closing =>
        simp [Except.bind, Except.map, bind, pure, Except.pure, Nat.add_comm]

/-- The three lines that open a loop, word by word. -/
theorem typeset_openingLines (mode : Addressing) {width : Int} (leave : Nat)
    (hwidth : marginError? width = none) (hinset : marginError? (width + 1) = none) :
    typeset mode (openingLines width leave) = .ok (
      margin width ++ "(block $label$" ++ toString leave ++ "\n" ++
      margin (width + 1) ++ "(br_if $label$" ++ toString leave ++ " (i32.eq (i32.load8_u (" ++
        mode.word ++ ".get $ptr)) (i32.const 0)))\n" ++
      margin (width + 1) ++ "(loop $label$" ++ toString (leave + 1) ++ "\n") := by
  simp only [typeset, firstMarginError, openingLines, List.findSome?_cons, List.findSome?_nil,
    hwidth, hinset, Except.ok.injEq, ← String.toList_inj]
  simp [String.join, Line.render, Instruction.text, labelText, cellText, pointerText, constText]

/-- The three lines that close a loop, word by word. -/
theorem typeset_closingLines (mode : Addressing) {width step : Int} (again : Nat)
    (hinside : marginError? (width + step) = none) (hinset : marginError? (width + 1) = none)
    (hwidth : marginError? width = none) :
    typeset mode (closingLines width step again) = .ok (
      margin (width + step) ++ "(br_if $label$" ++ toString again ++ " (i32.ne (i32.load8_u (" ++
        mode.word ++ ".get $ptr)) (i32.const 0)))\n" ++
      margin (width + 1) ++ ")\n" ++ margin width ++ ")\n") := by
  simp only [typeset, firstMarginError, closingLines, List.findSome?_cons, List.findSome?_nil,
    hinside, hwidth, hinset, Except.ok.injEq, ← String.toList_inj]
  simp [String.join, Line.render, Instruction.text, labelText, cellText, pointerText, constText]

/-- Compiling is compositional. Two balanced sources in a row, unless they meet in one sum, give the
text of the first and the relabelled text of the second. A balanced source in a loop gives the
opening lines, its relabelled text one step further in, and the closing lines. -/
theorem compile_compositional (settings : Settings) :
    (∀ first second : String, Balanced first.toList → Balanced second.toList →
      Apart first.toList second.toList →
      compile settings (first ++ second) = do
        let before ← compile settings first
        let after ← compile settings second
        return ⟨before.text ++ relabel before.labelCount after.text,
          before.labelCount + after.labelCount⟩) ∧
    ∀ source : String, Balanced source.toList →
      compile settings ("[" ++ source ++ "]") = do
        let opening ← typeset settings.addressing (openingLines settings.baseIndent 0)
        let inner ← compile
          { settings with baseIndent := settings.baseIndent + settings.indentStep } source
        let closing ← typeset settings.addressing
          (closingLines settings.baseIndent settings.indentStep 1)
        return ⟨opening ++ relabel 2 inner.text ++ closing, inner.labelCount + 2⟩ := by
  constructor
  · intro first second hfirst hsecond hapart
    obtain ⟨firstProgram, hfirstProgram⟩ := TapeProgram.exists_of_balanced hfirst
    obtain ⟨secondProgram, hsecondProgram⟩ := TapeProgram.exists_of_balanced hsecond
    have hboth : Symbol.ofSource (first ++ second).toList =
        (firstProgram.append secondProgram).symbols := by
      rw [String.toList_append, TapeProgram.symbols_append, ← hfirstProgram, ← hsecondProgram]
      exact List.filterMap_append
    have hbalanced : Balanced (first ++ second).toList := by
      rw [String.toList_append]
      exact hfirst.append hsecond
    have hfuse : (firstProgram.append secondProgram).fuse 0 0 =
        (firstProgram.fuse 0 0).append (secondProgram.fuse 0 0) := by
      apply TapeProgram.fuse_append (TapeProgram.pending_zero none)
      rw [TapeProgram.lastSymbol_eq, Option.or_none, ← hfirstProgram, ← hsecondProgram]
      exact hapart
    rw [compile_eq_typesetCode settings hbalanced hboth, hfuse, typesetCode_append,
      ← compile_eq_typesetCode settings hfirst hfirstProgram,
      ← compile_eq_typesetCode settings hsecond hsecondProgram]
  · intro source hsource
    obtain ⟨program, hprogram⟩ := TapeProgram.exists_of_balanced hsource
    have hlist : ("[" ++ source ++ "]").toList = '[' :: (source.toList ++ [']']) := by
      simp [String.toList_append]
    have hsymbols : Symbol.ofSource ("[" ++ source ++ "]").toList =
        (TapeProgram.loop program .done).symbols := by
      rw [hlist, Symbol.ofSource_cons_some rfl, TapeProgram.symbols, ← hprogram]
      exact congrArg _ List.filterMap_append
    have hbalanced : Balanced ("[" ++ source ++ "]").toList := by
      rw [hlist]
      exact hsource.enclose
    have hfuse : (TapeProgram.loop program .done).fuse 0 0 = .loop (program.fuse 0 0) .done := by
      simp [TapeProgram.fuse, Code.moved, Code.changed]
    rw [compile_eq_typesetCode settings hbalanced hsymbols, hfuse, typesetCode_loop,
      ← compile_eq_typesetCode _ hsource hprogram]

/-- A source that ends in a loop and one that begins with a move meet in no sum; the labels of the
second come after those of the first, also within a loop around it. -/
theorem compile_compositional_loop_move :
    Balanced "+[-]".toList ∧ Balanced ">[.]".toList ∧ Apart "+[-]".toList ">[.]".toList ∧
      (compile {} ("+[-]" ++ ">[.]") = do
        let before ← compile {} "+[-]"
        let after ← compile {} ">[.]"
        return ⟨before.text ++ relabel before.labelCount after.text,
          before.labelCount + after.labelCount⟩) ∧
      compile {} ("[" ++ ">[.]" ++ "]") = do
        let opening ← typeset .localVariable (openingLines 2 0)
        let inner ← compile { baseIndent := 4 } ">[.]"
        let closing ← typeset .localVariable (closingLines 2 2 1)
        return ⟨opening ++ relabel 2 inner.text ++ closing, inner.labelCount + 2⟩ :=
  ⟨by decide, by decide, by decide,
    (compile_compositional {}).1 "+[-]" ">[.]" (by decide) (by decide) (by decide),
    (compile_compositional {}).2 ">[.]" (by decide)⟩

end Body

end BrainfuckWasm
