import BrainfuckWasm.Body.Line
import BrainfuckWasm.Symbol

/-!
# One pass over a source

A pass reads the source from left to right and collects the lines of the function body. Runs of
moves and runs of changes are summed in two accumulators and written as one change when an
operation of another kind arrives. A loop opens a block and a loop with two fresh labels and is
remembered until its end. A loop end with nothing open, an open loop at the end of the source, or a
line whose margin cannot be made stops the pass; what it has reached by then stays visible.
-/

namespace BrainfuckWasm.Body

/-- How a body is written. -/
structure Settings where
  addressing : Addressing := .localVariable
  baseIndent : Int := 2
  indentStep : Int := 2
  deriving DecidableEq, Repr

/-- A loop that has been opened and not yet closed. -/
structure OpenLoop where
  /-- The label that the loop's end jumps back to. -/
  label : Nat
  /-- Where in the source the loop was opened. -/
  position : Nat
  deriving DecidableEq, Repr

/-- What is wrong with the loops of a source. -/
inductive Fault where
  | unmatchedClose (position : Nat)
  | unmatchedOpen (position : Nat)
  deriving DecidableEq, Repr

/-- The position that a fault points at, counted in characters. -/
def Fault.position : Fault → Nat
  | .unmatchedClose position => position
  | .unmatchedOpen position => position

/-- The diagnostic of a fault. -/
def Fault.message : Fault → String
  | .unmatchedClose position => "Unmatched ']' at position " ++ toString position
  | .unmatchedOpen position => "Unmatched '[' at position " ++ toString position

/-- What stops a pass. -/
inductive Stop where
  | unbalanced (fault : Fault)
  | margin (cause : MarginError)
  deriving DecidableEq, Repr

/-- The diagnostic of a stopped pass. -/
def Stop.message : Stop → String
  | .unbalanced fault => fault.message
  | .margin cause => cause.message

/-- The state of a pass. -/
structure Pass where
  /-- The settings in force when the pass began. -/
  settings : Settings
  /-- The lines written so far. -/
  lines : Array Line
  /-- Moves read and not yet written. -/
  pendingMove : Int
  /-- Changes read and not yet written. -/
  pendingDelta : Int
  /-- The next fresh label. -/
  nextLabel : Nat
  /-- The number of open loops, kept as a running count. -/
  depth : Nat
  /-- The width of the next plain line, raised and lowered with the depth. -/
  indent : Int
  /-- The open loops, innermost first. -/
  openLoops : List OpenLoop
  deriving DecidableEq, Repr

namespace Pass

/-- The state before the first character. -/
def start (settings : Settings) : Pass where
  settings := settings
  lines := #[]
  pendingMove := 0
  pendingDelta := 0
  nextLabel := 0
  depth := 0
  indent := settings.baseIndent
  openLoops := []

/-- The labels that the ends of the open loops jump back to, innermost first. -/
def loopLabels (pass : Pass) : List Nat :=
  pass.openLoops.map OpenLoop.label

/-- Where the open loops were opened, innermost first. -/
def openPositions (pass : Pass) : List Nat :=
  pass.openLoops.map OpenLoop.position

/-- There is a label for each open loop. -/
@[simp]
theorem length_loopLabels (pass : Pass) : pass.loopLabels.length = pass.openLoops.length :=
  List.length_map _

/-- There is a position for each open loop, so the two stacks are equally high. -/
@[simp]
theorem length_openPositions (pass : Pass) : pass.openPositions.length = pass.openLoops.length :=
  List.length_map _

end Pass

/-- Where a pass stands, and what has stopped it, if anything. -/
structure Progress where
  pass : Pass
  stop : Option Stop := none
  deriving DecidableEq, Repr

/-- Go on with a pass unless it has stopped. -/
def Progress.andThen (progress : Progress) (next : Pass → Progress) : Progress :=
  match progress with
  | ⟨pass, none⟩ => next pass
  | stopped => stopped

/-- A pass that has not stopped goes on. -/
@[simp]
theorem Progress.andThen_none (pass : Pass) (next : Pass → Progress) :
    (Progress.mk pass none).andThen next = next pass := rfl

/-- A stopped pass stays where it is. -/
@[simp]
theorem Progress.andThen_some (pass : Pass) (stop : Stop) (next : Pass → Progress) :
    (Progress.mk pass (some stop)).andThen next = ⟨pass, some stop⟩ := rfl

/-- Steps may be grouped in any way. -/
theorem Progress.andThen_assoc (progress : Progress) (second third : Pass → Progress) :
    (progress.andThen second).andThen third =
      progress.andThen fun pass => (second pass).andThen third := by
  obtain ⟨pass, stop⟩ := progress
  cases stop with
  | none => simp
  | some stop => simp

namespace Pass

/-- Write a line, indented further than the current width by some extra. -/
def write (instruction : Instruction) (extra : Int) (pass : Pass) : Progress :=
  let width := pass.indent + extra
  match marginError? width with
  | some cause => ⟨pass, some (.margin cause)⟩
  | none => ⟨{ pass with lines := pass.lines.push ⟨width, instruction⟩ }, none⟩

/-- Write the moves read so far, if they do not cancel. They no longer count as pending when the
first line is written. -/
def flushMove (pass : Pass) : Progress :=
  if pass.pendingMove = 0 then ⟨pass, none⟩
  else
    ({ pass with pendingMove := 0 }.write (.movedPointer pass.pendingMove) 0).andThen
      (write .setPointer 0)

/-- Write the changes read so far, if they do not cancel. They no longer count as pending when the
first line is written. -/
def flushDelta (pass : Pass) : Progress :=
  if pass.pendingDelta = 0 then ⟨pass, none⟩
  else
    ({ pass with pendingDelta := 0 }.write .pointer 0).andThen
      (write (.storeChanged pass.pendingDelta) 0)

/-- Write all that is pending. -/
def flush (pass : Pass) : Progress :=
  pass.flushMove.andThen flushDelta

/-- Read a move by one cell. -/
def move (amount : Int) (pass : Pass) : Progress :=
  pass.flushDelta.andThen fun flushed =>
    ⟨{ flushed with pendingMove := flushed.pendingMove + amount }, none⟩

/-- Read a change by one. -/
def change (amount : Int) (pass : Pass) : Progress :=
  pass.flushMove.andThen fun flushed =>
    ⟨{ flushed with pendingDelta := flushed.pendingDelta + amount }, none⟩

/-- Count a loop as open, once its first lines are written. -/
def enter (position : Nat) (pass : Pass) : Pass :=
  { pass with
    nextLabel := pass.nextLabel + 2
    depth := pass.depth + 1
    indent := pass.indent + pass.settings.indentStep
    openLoops := ⟨pass.nextLabel + 1, position⟩ :: pass.openLoops }

/-- Open a loop with two fresh labels: the even one leaves it, the odd one repeats it. -/
def openLoop (position : Nat) (pass : Pass) : Progress :=
  let leave := pass.nextLabel
  (((pass.write (.block leave) 0).andThen (write (.leaveIfZero leave) 1)).andThen
    (write (.loop (leave + 1)) 1)).andThen fun written => ⟨written.enter position, none⟩

/-- Close a loop, which is the innermost open one, with the rest still open. The width is lowered
after the line that repeats the loop. -/
def closeLoop (loop : OpenLoop) (rest : List OpenLoop) (pass : Pass) : Progress :=
  let closed := { pass with depth := pass.depth - 1, openLoops := rest }
  ((closed.write (.againUnlessZero loop.label) 0).andThen fun repeated =>
    { repeated with indent := repeated.indent - repeated.settings.indentStep }.write .close
      1).andThen (write .close 0)

/-- Close the innermost open loop; with nothing open this is a fault. -/
def closeInnermost (position : Nat) (pass : Pass) : Progress :=
  match pass.openLoops with
  | [] => ⟨pass, some (.unbalanced (.unmatchedClose position))⟩
  | loop :: rest => pass.closeLoop loop rest

/-- Read one symbol at a position of the source. -/
def readSymbol (pass : Pass) (position : Nat) : Symbol → Progress
  | .right => pass.move 1
  | .left => pass.move (-1)
  | .increment => pass.change 1
  | .decrement => pass.change (-1)
  | .output => (pass.flush.andThen (write .cell 0)).andThen (write .put 0)
  | .input => pass.flush.andThen (write .get 0)
  | .loopOpen => pass.flush.andThen (openLoop position)
  | .loopClose => pass.flush.andThen (closeInnermost position)

/-- Read one character: a comment leaves the state as it is. -/
def readChar (pass : Pass) (position : Nat) (c : Char) : Progress :=
  match Symbol.ofChar? c with
  | some symbol => pass.readSymbol position symbol
  | none => ⟨pass, none⟩

/-- Read characters from a position on, until something stops the pass. -/
def readFrom (pass : Pass) (position : Nat) : List Char → Progress
  | [] => ⟨pass, none⟩
  | c :: rest =>
    match pass.readChar position c with
    | ⟨next, none⟩ => next.readFrom (position + 1) rest
    | stopped => stopped

/-- End a pass: an open loop is a fault, and otherwise what is pending is written. -/
def finish (pass : Pass) : Progress :=
  match pass.openLoops with
  | loop :: _ => ⟨pass, some (.unbalanced (.unmatchedOpen loop.position))⟩
  | [] => pass.flush

/-- A whole pass over a source. -/
def run (settings : Settings) (source : List Char) : Progress :=
  ((start settings).readFrom 0 source).andThen finish

/-- The lines of a pass as text, each with its line feed. -/
def output (pass : Pass) : List String :=
  pass.lines.toList.map (Line.render pass.settings.addressing)

/-- The text of the body that a pass has written. -/
def body (pass : Pass) : String :=
  String.join pass.output

end Pass

/-- The text of a function body and the number of labels in it. -/
structure Compiled where
  text : String
  labelCount : Nat
  deriving DecidableEq, Repr

/-- Compile a source to a function body. -/
def compile (settings : Settings) (source : String) : Except Stop Compiled :=
  match Pass.run settings source.toList with
  | ⟨pass, none⟩ => .ok ⟨pass.body, pass.nextLabel⟩
  | ⟨_, some stop⟩ => .error stop

end BrainfuckWasm.Body
