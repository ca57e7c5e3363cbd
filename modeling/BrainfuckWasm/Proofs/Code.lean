import BrainfuckWasm.Proofs.TapeProgram
import BrainfuckWasm.Proofs.Writing

/-!
# Fused code and its lines

Between the program and the text stands the fused code: each stretch of moves and each stretch of
changes is one operation with their sum, and those that cancel are gone. Fusing needs only the two
sums read so far, and laying the code out needs only the width and the next label. A pass over a
source of the program writes exactly the lines of its fused code.
-/

namespace BrainfuckWasm

/-- Fused code, operation by operation. -/
inductive Code where
  | done
  | move (amount : Int) (rest : Code)
  | change (amount : Int) (rest : Code)
  | output (rest : Code)
  | input (rest : Code)
  | loop (body rest : Code)
  deriving DecidableEq, Repr

namespace Code

/-- A move before further code, unless it is by nothing. -/
def moved (amount : Int) (rest : Code) : Code :=
  if amount = 0 then rest else .move amount rest

/-- A change before further code, unless it is by nothing. -/
def changed (amount : Int) (rest : Code) : Code :=
  if amount = 0 then rest else .change amount rest

/-- The number of labels in code: two for each loop. -/
def labels : Code → Nat
  | done => 0
  | move _ rest => rest.labels
  | change _ rest => rest.labels
  | output rest => rest.labels
  | input rest => rest.labels
  | loop body rest => 2 + body.labels + rest.labels

/-- The lines of code at a width, with labels counted from a given one on. -/
def lines (step width : Int) (label : Nat) : Code → List Body.Line
  | done => []
  | move amount rest =>
    ⟨width, .movedPointer amount⟩ :: ⟨width, .setPointer⟩ :: rest.lines step width label
  | change amount rest =>
    ⟨width, .pointer⟩ :: ⟨width, .storeChanged amount⟩ :: rest.lines step width label
  | output rest => ⟨width, .cell⟩ :: ⟨width, .put⟩ :: rest.lines step width label
  | input rest => ⟨width, .get⟩ :: rest.lines step width label
  | loop body rest =>
    Body.openingLines width label ++ body.lines step (width + step) (label + 2) ++
      Body.closingLines width step (label + 1) ++ rest.lines step width (label + 2 + body.labels)

/-- A move that is by nothing has no lines. -/
@[simp]
theorem lines_moved (step width amount : Int) (label : Nat) (rest : Code) :
    (moved amount rest).lines step width label =
      Body.moveLines width amount ++ rest.lines step width label := by
  by_cases h : amount = 0
  · simp [moved, Body.moveLines, h]
  · simp [moved, Body.moveLines, h, lines]

/-- A change that is by nothing has no lines. -/
@[simp]
theorem lines_changed (step width amount : Int) (label : Nat) (rest : Code) :
    (changed amount rest).lines step width label =
      Body.changeLines width amount ++ rest.lines step width label := by
  by_cases h : amount = 0
  · simp [changed, Body.changeLines, h]
  · simp [changed, Body.changeLines, h, lines]

/-- A move has no labels. -/
@[simp]
theorem labels_moved (amount : Int) (rest : Code) : (moved amount rest).labels = rest.labels := by
  by_cases h : amount = 0
  · simp [moved, h]
  · simp [moved, h, labels]

/-- A change has no labels. -/
@[simp]
theorem labels_changed (amount : Int) (rest : Code) :
    (changed amount rest).labels = rest.labels := by
  by_cases h : amount = 0
  · simp [changed, h]
  · simp [changed, h, labels]

end Code

namespace TapeProgram

/-- Fuse a program after moves and changes that are not yet written. A move settles the changes and
a change the moves; anything else settles both. -/
def fuse (moves changes : Int) : TapeProgram → Code
  | done => .moved moves (.changed changes .done)
  | move forward rest => .changed changes (rest.fuse (moves + unit forward) 0)
  | change up rest => .moved moves (rest.fuse 0 (changes + unit up))
  | output rest => .moved moves (.changed changes (.output (rest.fuse 0 0)))
  | input rest => .moved moves (.changed changes (.input (rest.fuse 0 0)))
  | loop body rest => .moved moves (.changed changes (.loop (body.fuse 0 0) (rest.fuse 0 0)))

end TapeProgram

namespace Body.Pass

/-- Comments change nothing. -/
theorem readFrom_comments (pass : Pass) (position : Nat) (comments : List Char)
    (h : ∀ c ∈ comments, Symbol.ofChar? c = none) :
    pass.readFrom position comments = ⟨pass, none⟩ := by
  induction comments generalizing position with
  | nil => rfl
  | cons c rest ih =>
    have hread : pass.readChar position c = ⟨pass, none⟩ := by
      rw [readChar, h c List.mem_cons_self]
    rw [readFrom_cons, hread, Progress.andThen_none]
    exact ih _ fun other hother => h other (List.mem_cons_of_mem _ hother)

/-- A source with a first symbol is read by that symbol, at its position, and then the rest. -/
theorem exists_readFrom_eq {source : List Char} {symbol : Symbol} {symbols : List Symbol}
    (h : Symbol.ofSource source = symbol :: symbols) (start : Nat) :
    ∃ position rest, Symbol.ofSource rest = symbols ∧ ∀ pass : Pass,
      pass.readFrom start source =
        (pass.readSymbol position symbol).andThen fun next => next.readFrom (position + 1) rest := by
  obtain ⟨comments, c, rest, rfl, hcomments, hsymbol, hrest⟩ := List.filterMap_eq_cons_iff.mp h
  refine ⟨start + comments.length, rest, hrest, fun pass => ?_⟩
  have hread : pass.readChar (start + comments.length) c =
      pass.readSymbol (start + comments.length) symbol := by rw [readChar, hsymbol]
  rw [readFrom_append, readFrom_comments pass start comments hcomments, Progress.andThen_none,
    readFrom_cons, hread]

/-- The lines of code at the width and the labels where a pass stands. -/
def linesOf (pass : Pass) (code : Code) : List Line :=
  code.lines pass.settings.indentStep pass.indent pass.nextLabel

/-- A pass that has written code and has nothing pending. -/
def coded (pass : Pass) (code : Code) : Pass :=
  { (pass.extend (pass.linesOf code)).settled with nextLabel := pass.nextLabel + code.labels }

/-- A symbol that writes lines, and then the rest of a source and a flush that write further ones.
-/
theorem readFrom_flush_cons {pass middle last : Pass} {start position : Nat} {symbol : Symbol}
    {source rest : List Char} {first second lines : List Line} {next : Pass}
    (hread : ∀ pass : Pass, pass.readFrom start source =
      (pass.readSymbol position symbol).andThen fun next => next.readFrom (position + 1) rest)
    (hfirst : (pass.readSymbol position symbol).Writes first middle)
    (hsecond : ((middle.readFrom (position + 1) rest).andThen flush).Writes second last)
    (hlines : first ++ second = lines) (hnext : last = next) :
    ((pass.readFrom start source).andThen flush).Writes lines next := by
  subst hlines hnext
  rw [hread, Progress.andThen_assoc]
  exact hfirst.andThen _ hsecond

/-- Reading a source of a program and then flushing writes its fused code. -/
theorem readFrom_flush_writes (program : TapeProgram) (pass : Pass) (start : Nat)
    (source : List Char) (h : Symbol.ofSource source = program.symbols) :
    ((pass.readFrom start source).andThen flush).Writes
      (pass.linesOf (program.fuse pass.pendingMove pass.pendingDelta))
      (pass.coded (program.fuse pass.pendingMove pass.pendingDelta)) := by
  induction program generalizing pass start source with
  | done =>
    have hread := readFrom_comments pass start source (List.filterMap_eq_nil_iff.mp h)
    have hlines : pass.linesOf (TapeProgram.done.fuse pass.pendingMove pass.pendingDelta) =
        pass.pendingLines := by
      simp [linesOf, TapeProgram.fuse, Code.lines, pendingLines]
    rw [hread, Progress.andThen_none, coded, hlines]
    simpa [TapeProgram.fuse, Code.labels, settled, extend] using flush_writes pass
  | move forward rest ih =>
    obtain ⟨position, tail, htail, hread⟩ := exists_readFrom_eq h start
    have hsymbol : pass.readSymbol position (TapeProgram.moveSymbol forward) =
        pass.move (unit forward) := by cases forward <;> rfl
    refine readFrom_flush_cons hread (hsymbol ▸ move_writes (unit forward) pass)
      (ih _ (position + 1) tail htail) ?_ ?_
    · simp [linesOf, TapeProgram.fuse, extend]
    · simp [linesOf, coded, TapeProgram.fuse, extend, settled]
  | change up rest ih =>
    obtain ⟨position, tail, htail, hread⟩ := exists_readFrom_eq h start
    have hsymbol :
        pass.readSymbol position (TapeProgram.changeSymbol up) = pass.change (unit up) := by
      cases up <;> rfl
    refine readFrom_flush_cons hread (hsymbol ▸ change_writes (unit up) pass)
      (ih _ (position + 1) tail htail) ?_ ?_
    · simp [linesOf, TapeProgram.fuse, extend]
    · simp [linesOf, coded, TapeProgram.fuse, extend, settled]
  | output rest ih =>
    obtain ⟨position, tail, htail, hread⟩ := exists_readFrom_eq h start
    refine readFrom_flush_cons hread (readSymbol_writes pass position .output (by simp))
      (ih _ (position + 1) tail htail) ?_ ?_
    · simp [linesOf, TapeProgram.fuse, extend, settled, turn, due, pendingLines, Code.lines]
    · simp [linesOf, coded, TapeProgram.fuse, extend, settled, turn, due, pendingLines, Code.lines,
        Code.labels]
  | input rest ih =>
    obtain ⟨position, tail, htail, hread⟩ := exists_readFrom_eq h start
    refine readFrom_flush_cons hread (readSymbol_writes pass position .input (by simp))
      (ih _ (position + 1) tail htail) ?_ ?_
    · simp [linesOf, TapeProgram.fuse, extend, settled, turn, due, pendingLines, Code.lines]
    · simp [linesOf, coded, TapeProgram.fuse, extend, settled, turn, due, pendingLines, Code.lines,
        Code.labels]
  | loop body rest ihbody ihrest =>
    obtain ⟨position, tail, htail, hread⟩ := exists_readFrom_eq h start
    obtain ⟨inner, outer, rfl, hinner, houter⟩ := List.filterMap_eq_append_iff.mp htail
    obtain ⟨endPosition, final, hfinal, hend⟩ :=
      exists_readFrom_eq houter (position + 1 + inner.length)
    let after := fun left : Pass => (left.readFrom (endPosition + 1) final).andThen flush
    let close := fun inside : Pass => (inside.closeInnermost endPosition).andThen after
    -- The loop end begins with a flush, which is taken to belong to the body.
    have hsplit (entered : Pass) :
        (entered.readFrom (position + 1) (inner ++ outer)).andThen flush =
          ((entered.readFrom (position + 1) inner).andThen flush).andThen close := by
      simp only [readFrom_append, hend, readSymbol, Progress.andThen_assoc, close, after]
    let entered := (pass.extend (pass.due .loopOpen)).turn position .loopOpen
    have hloops : (entered.coded (body.fuse 0 0)).openLoops =
        ⟨pass.nextLabel + 1, position⟩ :: pass.openLoops := rfl
    have hclose := (closeInnermost_writes endPosition hloops).andThen after
      (ihrest _ (endPosition + 1) final hfinal)
    have hbody := (ihbody entered (position + 1) inner hinner).andThen close hclose
    refine readFrom_flush_cons hread (readSymbol_writes pass position .loopOpen (by simp))
      (hsplit entered ▸ hbody) ?_ ?_
    · simp [entered, linesOf, coded, TapeProgram.fuse, extend, settled, turn, due, enter,
        pendingLines, Code.lines]
    · simp [entered, linesOf, coded, TapeProgram.fuse, extend, settled, turn, due, enter,
        pendingLines, Code.lines, Code.labels]
      omega

end Body.Pass

end BrainfuckWasm
