import BrainfuckWasm.Body.Pass

/-!
# What each operation of a pass writes

An operation of a pass writes a fixed list of lines and then reaches a fixed state, unless the
margin of one of the lines cannot be made. The first such line decides the error, whichever
operation it belongs to, so the lines of successive operations may simply be appended. These
specifications replace the margin checks of the single writes in every later argument.

A loop end without an open loop is the one way to stop that is not about margins.
-/

namespace BrainfuckWasm.Body

/-- The first margin error among lines, in the order in which they are written. -/
def firstMarginError (lines : List Line) : Option MarginError :=
  lines.findSome? fun line => marginError? line.width

/-- Lines that are written one after another fail where the earlier ones do, or else where the
later ones do. -/
theorem firstMarginError_append (first second : List Line) :
    firstMarginError (first ++ second) = (firstMarginError first).or (firstMarginError second) :=
  List.findSome?_append

/-- A margin error belongs to one of the lines. -/
theorem exists_line_of_firstMarginError {lines : List Line} {cause : MarginError}
    (h : firstMarginError lines = some cause) :
    ∃ line ∈ lines, marginError? line.width = some cause :=
  List.exists_of_findSome?_eq_some h

/-- A stopped step is final. -/
theorem Progress.stop_andThen {progress : Progress} {stop : Stop} (h : progress.stop = some stop)
    (next : Pass → Progress) : (progress.andThen next).stop = some stop := by
  obtain ⟨pass, reason⟩ := progress
  change reason = some stop at h
  rw [h, Progress.andThen_some]

/-- A step that writes the lines and reaches the next state, unless a margin cannot be made. -/
structure Progress.Writes (progress : Progress) (lines : List Line) (next : Pass) : Prop where
  finished : firstMarginError lines = none → progress = ⟨next, none⟩
  stopped : ∀ cause, firstMarginError lines = some cause → progress.stop = some (.margin cause)

/-- A step that writes nothing reaches its next state. -/
theorem Progress.Writes.nothing (pass : Pass) : Progress.Writes ⟨pass, none⟩ [] pass where
  finished := fun _ => rfl
  stopped := by
    intro cause h
    simp [firstMarginError] at h

/-- Two steps in sequence write the lines of the first and then those of the second. -/
theorem Progress.Writes.andThen {progress : Progress} {first second : List Line}
    {middle last : Pass} (hfirst : progress.Writes first middle) (next : Pass → Progress)
    (hsecond : (next middle).Writes second last) :
    (progress.andThen next).Writes (first ++ second) last where
  finished := by
    intro h
    rw [firstMarginError_append, Option.or_eq_none_iff] at h
    rw [hfirst.finished h.1, Progress.andThen_none]
    exact hsecond.finished h.2
  stopped := by
    intro cause h
    rw [firstMarginError_append] at h
    cases hmargin : firstMarginError first with
    | none =>
      rw [hmargin, Option.none_or] at h
      rw [hfirst.finished hmargin, Progress.andThen_none]
      exact hsecond.stopped cause h
    | some earlier =>
      rw [hmargin, Option.some_or, Option.some.injEq] at h
      subst h
      exact Progress.stop_andThen (hfirst.stopped _ hmargin) next

/-- The lines of a move, if it is not by nothing. -/
def moveLines (width amount : Int) : List Line :=
  if amount = 0 then [] else [⟨width, .movedPointer amount⟩, ⟨width, .setPointer⟩]

/-- The lines of a change, if it is not by nothing. -/
def changeLines (width amount : Int) : List Line :=
  if amount = 0 then [] else [⟨width, .pointer⟩, ⟨width, .storeChanged amount⟩]

/-- The lines that open a loop with two labels, of which the first is given. -/
def openingLines (width : Int) (leave : Nat) : List Line :=
  [⟨width, .block leave⟩, ⟨width + 1, .leaveIfZero leave⟩, ⟨width + 1, .loop (leave + 1)⟩]

/-- The lines that close a loop, for the width outside it, the step inwards and its label. -/
def closingLines (width step : Int) (again : Nat) : List Line :=
  [⟨width + step, .againUnlessZero again⟩, ⟨width + 1, .close⟩, ⟨width, .close⟩]

namespace Pass

/-- A pass with further lines. -/
def extend (lines : List Line) (pass : Pass) : Pass :=
  { pass with lines := pass.lines ++ lines.toArray }

/-- Further lines come in order. -/
theorem extend_extend (first second : List Line) (pass : Pass) :
    (pass.extend first).extend second = pass.extend (first ++ second) := by
  simp [extend, Array.append_assoc]

/-- No further lines change nothing. -/
theorem extend_nil (pass : Pass) : pass.extend [] = pass := by
  simp [extend]

/-- A pass with nothing pending. -/
def settled (pass : Pass) : Pass :=
  { pass with pendingMove := 0, pendingDelta := 0 }

/-- The lines of all that is pending, at the current width. -/
def pendingLines (pass : Pass) : List Line :=
  moveLines pass.indent pass.pendingMove ++ changeLines pass.indent pass.pendingDelta

/-- A write is of one line. -/
theorem write_writes (instruction : Instruction) (extra : Int) (pass : Pass) :
    (pass.write instruction extra).Writes [⟨pass.indent + extra, instruction⟩]
      (pass.extend [⟨pass.indent + extra, instruction⟩]) := by
  cases hmargin : marginError? (pass.indent + extra) with
  | none =>
    constructor
    · intro _
      simp [write, hmargin, extend]
    · intro cause h
      simp [firstMarginError, hmargin] at h
  | some cause =>
    constructor
    · intro h
      simp [firstMarginError, hmargin] at h
    · intro other h
      simp only [firstMarginError, List.findSome?_cons, hmargin, Option.some.injEq] at h
      simp [write, hmargin, h]

/-- Flushing moves writes them and leaves none pending. -/
theorem flushMove_writes (pass : Pass) :
    pass.flushMove.Writes (moveLines pass.indent pass.pendingMove)
      { pass.extend (moveLines pass.indent pass.pendingMove) with pendingMove := 0 } := by
  by_cases hzero : pass.pendingMove = 0
  · have hsame : { pass with pendingMove := 0 } = pass := by rw [← hzero]
    simp only [flushMove, moveLines, hzero, if_true, extend_nil, hsame]
    exact .nothing pass
  · simp only [flushMove, moveLines, hzero, if_false]
    have hwrites := (write_writes (.movedPointer pass.pendingMove) 0
      { pass with pendingMove := 0 }).andThen _ (write_writes .setPointer 0 _)
    simp only [extend_extend, Int.add_zero] at hwrites
    exact hwrites

/-- Flushing changes writes them and leaves none pending. -/
theorem flushDelta_writes (pass : Pass) :
    pass.flushDelta.Writes (changeLines pass.indent pass.pendingDelta)
      { pass.extend (changeLines pass.indent pass.pendingDelta) with pendingDelta := 0 } := by
  by_cases hzero : pass.pendingDelta = 0
  · have hsame : { pass with pendingDelta := 0 } = pass := by rw [← hzero]
    simp only [flushDelta, changeLines, hzero, if_true, extend_nil, hsame]
    exact .nothing pass
  · simp only [flushDelta, changeLines, hzero, if_false]
    have hwrites := (write_writes .pointer 0 { pass with pendingDelta := 0 }).andThen _
      (write_writes (.storeChanged pass.pendingDelta) 0 _)
    simp only [extend_extend, Int.add_zero] at hwrites
    exact hwrites

/-- Flushing writes all that is pending, moves first. -/
theorem flush_writes (pass : Pass) :
    pass.flush.Writes pass.pendingLines (pass.extend pass.pendingLines).settled := by
  have hwrites := (flushMove_writes pass).andThen _ (flushDelta_writes _)
  rw [pendingLines, ← extend_extend]
  exact hwrites

/-- A move is preceded by the pending changes. -/
theorem move_writes (amount : Int) (pass : Pass) :
    (pass.move amount).Writes (changeLines pass.indent pass.pendingDelta)
      { pass.extend (changeLines pass.indent pass.pendingDelta) with
        pendingMove := pass.pendingMove + amount, pendingDelta := 0 } := by
  have hwrites := (flushDelta_writes pass).andThen
    (fun flushed => ⟨{ flushed with pendingMove := flushed.pendingMove + amount }, none⟩)
    (.nothing _)
  rw [List.append_nil] at hwrites
  exact hwrites

/-- A change is preceded by the pending moves. -/
theorem change_writes (amount : Int) (pass : Pass) :
    (pass.change amount).Writes (moveLines pass.indent pass.pendingMove)
      { pass.extend (moveLines pass.indent pass.pendingMove) with
        pendingMove := 0, pendingDelta := pass.pendingDelta + amount } := by
  have hwrites := (flushMove_writes pass).andThen
    (fun flushed => ⟨{ flushed with pendingDelta := flushed.pendingDelta + amount }, none⟩)
    (.nothing _)
  rw [List.append_nil] at hwrites
  exact hwrites

/-- Opening a loop writes its three first lines and remembers it. -/
theorem openLoop_writes (position : Nat) (pass : Pass) :
    (pass.openLoop position).Writes (openingLines pass.indent pass.nextLabel)
      ((pass.extend (openingLines pass.indent pass.nextLabel)).enter position) := by
  have hwrites := (((write_writes (.block pass.nextLabel) 0 pass).andThen _
    (write_writes (.leaveIfZero pass.nextLabel) 1 _)).andThen _
      (write_writes (.loop (pass.nextLabel + 1)) 1 _)).andThen
        (fun written => ⟨written.enter position, none⟩) (.nothing _)
  simp only [extend_extend, List.append_nil, Int.add_zero] at hwrites
  exact hwrites

/-- Closing a loop writes its three last lines, from the width inside it to that outside. -/
theorem closeLoop_writes (loop : OpenLoop) (rest : List OpenLoop) (pass : Pass) :
    (pass.closeLoop loop rest).Writes
      (closingLines (pass.indent - pass.settings.indentStep) pass.settings.indentStep loop.label)
      { pass.extend (closingLines (pass.indent - pass.settings.indentStep)
          pass.settings.indentStep loop.label) with
        depth := pass.depth - 1
        indent := pass.indent - pass.settings.indentStep
        openLoops := rest } := by
  let lower := fun repeated : Pass =>
    { repeated with indent := repeated.indent - repeated.settings.indentStep }
  have hwrites := ((write_writes (.againUnlessZero loop.label) 0
    { pass with depth := pass.depth - 1, openLoops := rest }).andThen
      (fun repeated => (lower repeated).write .close 1) (write_writes .close 1 (lower _))).andThen _
        (write_writes .close 0 _)
  rw [extend_extend, Int.add_zero] at hwrites
  rw [closingLines, Int.sub_add_cancel]
  simpa [closeLoop, extend, lower] using hwrites

/-- With a loop open, the innermost one is closed. -/
theorem closeInnermost_writes (position : Nat) {pass : Pass} {loop : OpenLoop}
    {rest : List OpenLoop} (h : pass.openLoops = loop :: rest) :
    (pass.closeInnermost position).Writes
      (closingLines (pass.indent - pass.settings.indentStep) pass.settings.indentStep loop.label)
      { pass.extend (closingLines (pass.indent - pass.settings.indentStep)
          pass.settings.indentStep loop.label) with
        depth := pass.depth - 1
        indent := pass.indent - pass.settings.indentStep
        openLoops := rest } := by
  rw [closeInnermost, h]
  exact closeLoop_writes loop rest pass

/-- The lines that reading a symbol writes. -/
def due (pass : Pass) : Symbol → List Line
  | .right | .left => changeLines pass.indent pass.pendingDelta
  | .increment | .decrement => moveLines pass.indent pass.pendingMove
  | .output => pass.pendingLines ++ [⟨pass.indent, .cell⟩, ⟨pass.indent, .put⟩]
  | .input => pass.pendingLines ++ [⟨pass.indent, .get⟩]
  | .loopOpen => pass.pendingLines ++ openingLines pass.indent pass.nextLabel
  | .loopClose =>
    match pass.openLoops with
    | [] => pass.pendingLines
    | loop :: _ => pass.pendingLines ++
      closingLines (pass.indent - pass.settings.indentStep) pass.settings.indentStep loop.label

/-- What reading a symbol changes beside the lines. -/
def turn (position : Nat) (symbol : Symbol) (pass : Pass) : Pass :=
  match symbol with
  | .right => { pass with pendingMove := pass.pendingMove + 1, pendingDelta := 0 }
  | .left => { pass with pendingMove := pass.pendingMove + -1, pendingDelta := 0 }
  | .increment => { pass with pendingMove := 0, pendingDelta := pass.pendingDelta + 1 }
  | .decrement => { pass with pendingMove := 0, pendingDelta := pass.pendingDelta + -1 }
  | .output | .input => pass.settled
  | .loopOpen => pass.settled.enter position
  | .loopClose =>
    { pass.settled with
      depth := pass.depth - 1
      indent := pass.indent - pass.settings.indentStep
      openLoops := pass.openLoops.tail }

/-- Reading a symbol writes what is due and turns the state, unless it is a loop end with nothing
open. -/
theorem readSymbol_writes (pass : Pass) (position : Nat) (symbol : Symbol)
    (h : symbol = .loopClose → pass.openLoops ≠ []) :
    (pass.readSymbol position symbol).Writes (pass.due symbol)
      ((pass.extend (pass.due symbol)).turn position symbol) := by
  cases symbol with
  | right => exact move_writes 1 pass
  | left => exact move_writes (-1) pass
  | increment => exact change_writes 1 pass
  | decrement => exact change_writes (-1) pass
  | output =>
    have hwrites := ((flush_writes pass).andThen _ (write_writes .cell 0 _)).andThen _
      (write_writes .put 0 _)
    simp only [extend_extend, Int.add_zero, List.append_assoc] at hwrites
    rw [due, ← extend_extend]
    exact hwrites
  | input =>
    have hwrites := (flush_writes pass).andThen _ (write_writes .get 0 _)
    simp only [Int.add_zero] at hwrites
    rw [due, ← extend_extend]
    exact hwrites
  | loopOpen =>
    rw [due, ← extend_extend]
    exact (flush_writes pass).andThen _ (openLoop_writes position _)
  | loopClose =>
    cases hloops : pass.openLoops with
    | nil => exact absurd hloops (h rfl)
    | cons loop rest =>
      have hflushed : (pass.extend pass.pendingLines).settled.openLoops = loop :: rest := hloops
      have hwrites := (flush_writes pass).andThen _ (closeInnermost_writes position hflushed)
      rw [show rest = pass.openLoops.tail by rw [hloops, List.tail_cons]] at hwrites
      simp only [due, hloops]
      rw [← extend_extend]
      exact hwrites

/-- Reading a loop end with nothing open is a fault once all that is pending is written. -/
theorem readSymbol_loopClose_of_nil (pass : Pass) (position : Nat) (h : pass.openLoops = [])
    (hmargin : firstMarginError pass.pendingLines = none) :
    pass.readSymbol position .loopClose =
      ⟨(pass.extend pass.pendingLines).settled, some (.unbalanced (.unmatchedClose position))⟩ := by
  have hloops : (pass.extend pass.pendingLines).settled.openLoops = [] := h
  rw [readSymbol, (flush_writes pass).finished hmargin, Progress.andThen_none, closeInnermost, hloops]

/-- Reading a loop end with nothing open stops before the fault if what is pending has no margin. -/
theorem readSymbol_loopClose_stopped (pass : Pass) (position : Nat) {cause : MarginError}
    (hmargin : firstMarginError pass.pendingLines = some cause) :
    (pass.readSymbol position .loopClose).stop = some (.margin cause) :=
  Progress.stop_andThen ((flush_writes pass).stopped cause hmargin) _

/-- Characters are read one after another. -/
theorem readFrom_cons (pass : Pass) (position : Nat) (c : Char) (rest : List Char) :
    pass.readFrom position (c :: rest) =
      (pass.readChar position c).andThen fun next => next.readFrom (position + 1) rest := by
  rw [readFrom]
  split
  · next heq => rw [heq, Progress.andThen_none]
  · next hstopped =>
    generalize pass.readChar position c = progress at hstopped
    obtain ⟨reached, stop⟩ := progress
    cases stop with
    | none => exact absurd rfl (hstopped reached)
    | some stop => rfl

/-- A text is read piece by piece. -/
theorem readFrom_append (pass : Pass) (position : Nat) (first second : List Char) :
    pass.readFrom position (first ++ second) =
      (pass.readFrom position first).andThen fun next =>
        next.readFrom (position + first.length) second := by
  induction first generalizing pass position with
  | nil => rfl
  | cons c rest ih =>
    rw [List.cons_append, readFrom_cons, readFrom_cons, Progress.andThen_assoc]
    congr 1
    funext next
    rw [ih, List.length_cons, Nat.add_comm rest.length 1, Nat.add_assoc]

end Pass

end BrainfuckWasm.Body
