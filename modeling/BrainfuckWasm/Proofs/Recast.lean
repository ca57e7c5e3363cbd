import BrainfuckWasm.Proofs.Writing

/-!
# What a pass never looks at

A pass keeps the positions of its open loops and names one of them in a fault, but no step compares
positions or computes with them. Nor does it look at the addressing, which only matters when lines
are rendered. So a pass with another addressing and with other positions takes the same steps: every
operation commutes with recasting the state, and the outcome is the recast outcome.
-/

namespace BrainfuckWasm.Body

/-- The same fault at another position. -/
def Fault.moveTo (position : Nat) : Fault → Fault
  | .unmatchedClose _ => .unmatchedClose position
  | .unmatchedOpen _ => .unmatchedOpen position

/-- What stops a pass, with the position of a fault recast. -/
def Stop.recast (place : Nat → Nat) : Stop → Stop
  | .unbalanced fault => .unbalanced (fault.moveTo (place fault.position))
  | .margin cause => .margin cause

/-- An open loop with its position recast. -/
def OpenLoop.recast (place : Nat → Nat) (loop : OpenLoop) : OpenLoop :=
  ⟨loop.label, place loop.position⟩

/-- A pass with another addressing and with the positions of its loops recast. -/
def Pass.recast (mode : Addressing) (place : Nat → Nat) (pass : Pass) : Pass :=
  { pass with
    settings := { pass.settings with addressing := mode }
    openLoops := pass.openLoops.map (OpenLoop.recast place) }

/-- A step with its pass and what has stopped it recast. -/
def Progress.recast (mode : Addressing) (place : Nat → Nat) (progress : Progress) : Progress :=
  ⟨progress.pass.recast mode place, progress.stop.map (Stop.recast place)⟩

section

variable (mode : Addressing) (place : Nat → Nat)

/-- Two steps that commute with recasting do so in sequence. -/
theorem Progress.recast_andThen (progress : Progress) {next recastNext : Pass → Progress}
    (h : ∀ pass, recastNext (pass.recast mode place) = (next pass).recast mode place) :
    (progress.recast mode place).andThen recastNext =
      (progress.andThen next).recast mode place := by
  obtain ⟨pass, stop⟩ := progress
  cases stop with
  | none => exact h pass
  | some stop => rfl

namespace Pass

/-- A recast pass writes the same line. -/
theorem write_recast (instruction : Instruction) (extra : Int) (pass : Pass) :
    (pass.recast mode place).write instruction extra =
      (pass.write instruction extra).recast mode place := by
  have hindent : (pass.recast mode place).indent = pass.indent := rfl
  simp only [write, hindent]
  cases marginError? (pass.indent + extra) with
  | none => rfl
  | some cause => rfl

/-- A recast pass has the same moves to write. -/
theorem flushMove_recast (pass : Pass) :
    (pass.recast mode place).flushMove = pass.flushMove.recast mode place := by
  have hpending : (pass.recast mode place).pendingMove = pass.pendingMove := rfl
  rw [flushMove, flushMove, hpending]
  split
  · rfl
  · have hfirst := write_recast mode place (.movedPointer pass.pendingMove) 0
      { pass with pendingMove := 0 }
    rw [← Progress.recast_andThen mode place _ (write_recast mode place .setPointer 0), ← hfirst]
    rfl

/-- A recast pass has the same changes to write. -/
theorem flushDelta_recast (pass : Pass) :
    (pass.recast mode place).flushDelta = pass.flushDelta.recast mode place := by
  have hpending : (pass.recast mode place).pendingDelta = pass.pendingDelta := rfl
  rw [flushDelta, flushDelta, hpending]
  split
  · rfl
  · have hfirst := write_recast mode place .pointer 0 { pass with pendingDelta := 0 }
    rw [← Progress.recast_andThen mode place _
      (write_recast mode place (.storeChanged pass.pendingDelta) 0), ← hfirst]
    rfl

/-- A recast pass flushes alike. -/
theorem flush_recast (pass : Pass) :
    (pass.recast mode place).flush = pass.flush.recast mode place := by
  rw [flush, flush, flushMove_recast]
  exact Progress.recast_andThen mode place _ (flushDelta_recast mode place)

/-- A recast pass moves alike. -/
theorem move_recast (amount : Int) (pass : Pass) :
    (pass.recast mode place).move amount = (pass.move amount).recast mode place := by
  rw [move, move, flushDelta_recast]
  exact Progress.recast_andThen mode place _ fun _ => rfl

/-- A recast pass changes alike. -/
theorem change_recast (amount : Int) (pass : Pass) :
    (pass.recast mode place).change amount = (pass.change amount).recast mode place := by
  rw [change, change, flushMove_recast]
  exact Progress.recast_andThen mode place _ fun _ => rfl

/-- A recast pass opens the same loop, at the recast position. -/
theorem openLoop_recast (position : Nat) (pass : Pass) :
    (pass.recast mode place).openLoop (place position) =
      (pass.openLoop position).recast mode place := by
  have hlabel : (pass.recast mode place).nextLabel = pass.nextLabel := rfl
  simp only [openLoop, hlabel, write_recast]
  rw [Progress.recast_andThen mode place _ (write_recast mode place _ _),
    Progress.recast_andThen mode place _ (write_recast mode place _ _)]
  exact Progress.recast_andThen mode place _ fun _ => rfl

/-- A recast pass closes the same loop. -/
theorem closeLoop_recast (loop : OpenLoop) (rest : List OpenLoop) (pass : Pass) :
    (pass.recast mode place).closeLoop (loop.recast place) (rest.map (OpenLoop.recast place)) =
      (pass.closeLoop loop rest).recast mode place := by
  have hfirst : ({ pass.recast mode place with
      depth := (pass.recast mode place).depth - 1
      openLoops := rest.map (OpenLoop.recast place) } : Pass).write
        (.againUnlessZero (loop.recast place).label) 0 = _ :=
    write_recast mode place (.againUnlessZero loop.label) 0
      { pass with depth := pass.depth - 1, openLoops := rest }
  rw [closeLoop, closeLoop]
  simp only [hfirst]
  rw [← Progress.recast_andThen mode place _ (write_recast mode place .close 0)]
  congr 1
  apply Progress.recast_andThen
  intro repeated
  exact write_recast mode place .close 1
    { repeated with indent := repeated.indent - repeated.settings.indentStep }

/-- A recast pass closes its innermost loop, or has the same fault at the recast position. -/
theorem closeInnermost_recast (position : Nat) (pass : Pass) :
    (pass.recast mode place).closeInnermost (place position) =
      (pass.closeInnermost position).recast mode place := by
  have hloops : (pass.recast mode place).openLoops =
      pass.openLoops.map (OpenLoop.recast place) := rfl
  rw [closeInnermost, closeInnermost, hloops]
  cases pass.openLoops with
  | nil => rfl
  | cons loop rest => exact closeLoop_recast mode place loop rest pass

/-- A recast pass reads a symbol alike, at the recast position. -/
theorem readSymbol_recast (pass : Pass) (position : Nat) (symbol : Symbol) :
    (pass.recast mode place).readSymbol (place position) symbol =
      (pass.readSymbol position symbol).recast mode place := by
  cases symbol with
  | right | left => exact move_recast mode place _ pass
  | increment | decrement => exact change_recast mode place _ pass
  | output =>
    rw [readSymbol, readSymbol, flush_recast,
      Progress.recast_andThen mode place _ (write_recast mode place .cell 0)]
    exact Progress.recast_andThen mode place _ (write_recast mode place .put 0)
  | input =>
    rw [readSymbol, readSymbol, flush_recast]
    exact Progress.recast_andThen mode place _ (write_recast mode place .get 0)
  | loopOpen =>
    rw [readSymbol, readSymbol, flush_recast]
    exact Progress.recast_andThen mode place _ (openLoop_recast mode place position)
  | loopClose =>
    rw [readSymbol, readSymbol, flush_recast]
    exact Progress.recast_andThen mode place _ (closeInnermost_recast mode place position)

/-- A recast pass reads a character alike, at the recast position. -/
theorem readChar_recast (pass : Pass) (position : Nat) (c : Char) :
    (pass.recast mode place).readChar (place position) c =
      (pass.readChar position c).recast mode place := by
  rw [readChar, readChar]
  cases Symbol.ofChar? c with
  | none => rfl
  | some symbol => exact readSymbol_recast mode place pass position symbol

/-- A recast pass ends alike. -/
theorem finish_recast (pass : Pass) :
    (pass.recast mode place).finish = pass.finish.recast mode place := by
  have hloops : (pass.recast mode place).openLoops =
      pass.openLoops.map (OpenLoop.recast place) := rfl
  rw [finish, finish, hloops]
  cases pass.openLoops with
  | nil => exact flush_recast mode place pass
  | cons loop rest => rfl

/-- With its positions left as they are, a recast pass reads a text alike. -/
theorem readFrom_recast (source : List Char) (pass : Pass) (position : Nat) :
    (pass.recast mode id).readFrom position source =
      (pass.readFrom position source).recast mode id := by
  induction source generalizing pass position with
  | nil => rfl
  | cons c rest ih =>
    have hread : (pass.recast mode id).readChar position c = _ :=
      readChar_recast mode id pass position c
    rw [readFrom_cons, readFrom_cons, hread]
    exact Progress.recast_andThen mode id _ fun next => ih next (position + 1)

/-- A run for another addressing is the recast run. -/
theorem run_recast (settings : Settings) (source : List Char) :
    run { settings with addressing := mode } source = (run settings source).recast mode id := by
  have hstart : start { settings with addressing := mode } = (start settings).recast mode id := rfl
  rw [run, run, hstart, readFrom_recast]
  exact Progress.recast_andThen mode id _ (finish_recast mode id)

/-- A run keeps the addressing that it was started for. -/
theorem addressing_run (settings : Settings) (source : List Char) :
    (run settings source).pass.settings.addressing = settings.addressing := by
  have hsame : run settings source = (run settings source).recast settings.addressing id :=
    run_recast settings.addressing settings source
  rw [hsame]
  rfl

end Pass

end

end BrainfuckWasm.Body
