import BrainfuckWasm.Proofs.Machine

/-!
# Running a source symbol by symbol

The reference machine stands between the symbols that it has passed and those ahead of it. It
executes one symbol at a time, and at a loop start or a loop end it may have to look for the
matching one. This needs no tree: brackets are found by counting.

For the symbols of a program the same runs can be given by recursion on the program, with a bound on
how often a loop is repeated. What finishes or traps within a bound does so after some number of
steps, and what is unfinished takes at least as many steps as the bound says, so that the two agree
on what happens in the end.
-/

namespace BrainfuckWasm

/-- A machine that stands between the symbols passed, the nearest first, and those ahead. -/
structure Cursor where
  passed : List Symbol
  ahead : List Symbol
  machine : Machine

/-- Pass symbols up to the outer bracket that matches, with a count of the inner ones that are to be
matched before it. -/
def seek (inner outer : Symbol) (depth : Nat) (passed : List Symbol) :
    List Symbol → List Symbol × List Symbol
  | [] => (passed, [])
  | symbol :: ahead =>
    if symbol = outer then
      match depth with
      | 0 => (symbol :: passed, ahead)
      | depth + 1 => seek inner outer depth (symbol :: passed) ahead
    else if symbol = inner then seek inner outer (depth + 1) (symbol :: passed) ahead
    else seek inner outer depth (symbol :: passed) ahead

/-- What a symbol does to a machine; brackets do nothing to it. -/
def Symbol.act? (input : Nat → BitVec 32) (machine : Machine) : Symbol → Option Machine
  | .right => some (machine.moved 1)
  | .left => some (machine.moved (-1))
  | .increment => machine.changed? 1
  | .decrement => machine.changed? (-1)
  | .output => machine.put?
  | .input => machine.get? input
  | .loopOpen => some machine
  | .loopClose => some machine

/-- What one step can come to. -/
inductive Step where
  | halted
  | trapped
  | next (cursor : Cursor)

namespace Cursor

/-- Pass a symbol with the machine that it leaves. -/
def pass (cursor : Cursor) (symbol : Symbol) (ahead : List Symbol) (machine : Machine) : Cursor :=
  ⟨symbol :: cursor.passed, ahead, machine⟩

/-- Go past the loop end that matches a loop start. -/
def skip (cursor : Cursor) (ahead : List Symbol) : Cursor :=
  let (passed, rest) := seek .loopOpen .loopClose 0 (.loopOpen :: cursor.passed) ahead
  ⟨passed, rest, cursor.machine⟩

/-- Go back to the loop start that matches a loop end. -/
def back (cursor : Cursor) : Cursor :=
  let (ahead, rest) := seek .loopClose .loopOpen 0 cursor.ahead cursor.passed
  ⟨rest, ahead, cursor.machine⟩

/-- Execute the symbol ahead. A loop start with a cell of nought goes past its loop end, and a loop
end with any other cell goes back to its loop start. -/
def step (input : Nat → BitVec 32) (cursor : Cursor) : Step :=
  match cursor.ahead with
  | [] => .halted
  | .loopOpen :: ahead =>
    match cursor.machine.cell? with
    | none => .trapped
    | some byte =>
      if byte = 0 then .next (cursor.skip ahead)
      else .next (cursor.pass .loopOpen ahead cursor.machine)
  | .loopClose :: ahead =>
    match cursor.machine.cell? with
    | none => .trapped
    | some byte =>
      if byte = 0 then .next (cursor.pass .loopClose ahead cursor.machine)
      else .next cursor.back
  | symbol :: ahead =>
    match symbol.act? input cursor.machine with
    | none => .trapped
    | some machine => .next (cursor.pass symbol ahead machine)

/-- Execute at most a number of steps; a machine that has nothing ahead is finished. -/
def run (input : Nat → BitVec 32) : Nat → Cursor → Ending
  | 0, _ => .unfinished
  | steps + 1, cursor =>
    match cursor.step input with
    | .halted => .finished cursor.machine
    | .trapped => .trapped
    | .next cursor => cursor.run input steps

/-- A run that has ended stays as it is. -/
theorem run_add {input : Nat → BitVec 32} {steps : Nat} {cursor : Cursor} {ending : Ending}
    (h : cursor.run input steps = ending) (hended : ending ≠ .unfinished) (more : Nat) :
    cursor.run input (steps + more) = ending := by
  induction steps generalizing cursor with
  | zero => exact absurd h.symm hended
  | succ steps ih =>
    rw [Nat.add_right_comm, run]
    rw [run] at h
    cases hstep : cursor.step input with
    | halted => simpa only [hstep] using h
    | trapped => simpa only [hstep] using h
    | next middle =>
      rw [hstep] at h
      exact ih h

/-- Two runs that have both ended have ended alike. -/
theorem ending_unique {input : Nat → BitVec 32} {cursor : Cursor} {first second : Nat}
    {ending other : Ending} (h : cursor.run input first = ending) (hended : ending ≠ .unfinished)
    (hother : cursor.run input second = other) (hotherEnded : other ≠ .unfinished) :
    ending = other := by
  have hfirst := run_add h hended second
  have hsecond := run_add hother hotherEnded first
  rw [Nat.add_comm] at hsecond
  exact hfirst.symm.trans hsecond

end Cursor

/-- Executing symbols one by one finishes with a machine. -/
def Finishes (host : Nat → BitVec 32) (symbols : List Symbol) (start final : Machine) : Prop :=
  ∃ steps, (Cursor.mk [] symbols start).run host steps = .finished final

/-- Executing symbols one by one traps. -/
def Traps (host : Nat → BitVec 32) (symbols : List Symbol) (start : Machine) : Prop :=
  ∃ steps, (Cursor.mk [] symbols start).run host steps = .trapped

/-- Executing symbols one by one never ends. -/
def Diverges (host : Nat → BitVec 32) (symbols : List Symbol) (start : Machine) : Prop :=
  ∀ steps, (Cursor.mk [] symbols start).run host steps = .unfinished

namespace TapeProgram

/-- Looking for a loop end, a machine passes a whole program. -/
theorem seek_symbols (program : TapeProgram) (depth : Nat) (passed ahead : List Symbol) :
    seek .loopOpen .loopClose depth passed (program.symbols ++ ahead) =
      seek .loopOpen .loopClose depth (program.symbols.reverse ++ passed) ahead := by
  induction program generalizing depth passed ahead with
  | done => rfl
  | move forward rest ih => cases forward <;> simp [symbols, moveSymbol, seek, ih]
  | change up rest ih => cases up <;> simp [symbols, changeSymbol, seek, ih]
  | output rest ih | input rest ih => simp [symbols, seek, ih]
  | loop body rest ihbody ihrest => simp [symbols, seek, ihbody, ihrest]

/-- Looking for a loop start, a machine passes a whole program the other way. -/
theorem seek_symbols_reverse (program : TapeProgram) (depth : Nat) (passed ahead : List Symbol) :
    seek .loopClose .loopOpen depth passed (program.symbols.reverse ++ ahead) =
      seek .loopClose .loopOpen depth (program.symbols ++ passed) ahead := by
  induction program generalizing depth passed ahead with
  | done => rfl
  | move forward rest ih => cases forward <;> simp [symbols, moveSymbol, seek, ih]
  | change up rest ih => cases up <;> simp [symbols, changeSymbol, seek, ih]
  | output rest ih | input rest ih => simp [symbols, seek, ih]
  | loop body rest ihbody ihrest => simp [symbols, seek, ihbody, ihrest]

/-- Run a program, with a bound on how often a loop is repeated each time it is entered. -/
def run (host : Nat → BitVec 32) (bound : Nat) : TapeProgram → Machine → Ending
  | done, machine => .finished machine
  | move forward rest, machine => rest.run host bound (machine.moved (unit forward))
  | change up rest, machine =>
    (Ending.ofAction (machine.changed? (unit up))).andThen (rest.run host bound)
  | output rest, machine => (Ending.ofAction machine.put?).andThen (rest.run host bound)
  | input rest, machine => (Ending.ofAction (machine.get? host)).andThen (rest.run host bound)
  | loop body rest, machine =>
    (machine.unlessZero (repeatUntilZero (body.run host bound) bound machine)).andThen
      (rest.run host bound)

end TapeProgram

/-- From a cursor the machine comes to an ending: to the cursor that goes with a finished machine,
to a trap, or to at least as many steps as the bound says. -/
def Cursor.Leads (input : Nat → BitVec 32) (bound : Nat) (start : Cursor)
    (next : Machine → Cursor) : Ending → Prop
  | .finished machine =>
    ∃ steps, ∀ more, start.run input (more + steps) = (next machine).run input more
  | .trapped => ∃ steps, start.run input steps = .trapped
  | .unfinished => ∃ steps, bound ≤ steps ∧ start.run input steps = .unfinished

namespace Cursor.Leads

variable {input : Nat → BitVec 32} {bound : Nat} {start middle : Cursor} {next : Machine → Cursor}
  {ending : Ending}

/-- No step leads to the cursor itself. -/
theorem here (next : Machine → Cursor) (machine : Machine) :
    (next machine).Leads input bound next (.finished machine) :=
  ⟨0, fun _ => rfl⟩

/-- A step before others counts as one more. -/
theorem step (hstep : start.step input = .next middle) (h : middle.Leads input bound next ending) :
    start.Leads input (bound + 1) next ending := by
  have hrun (steps : Nat) : start.run input (steps + 1) = middle.run input steps := by
    rw [run, hstep]
  cases ending with
  | finished machine =>
    obtain ⟨steps, h⟩ := h
    exact ⟨steps + 1, fun more => (hrun (more + steps)).trans (h more)⟩
  | trapped =>
    obtain ⟨steps, h⟩ := h
    exact ⟨steps + 1, (hrun steps).trans h⟩
  | unfinished =>
    obtain ⟨steps, hsteps, h⟩ := h
    exact ⟨steps + 1, Nat.succ_le_succ hsteps, (hrun steps).trans h⟩

/-- A step may lead to a trap. -/
theorem trap (hstep : start.step input = .trapped) : start.Leads input bound next .trapped :=
  ⟨1, by rw [run, hstep]⟩

/-- Fewer steps may be asked for. -/
theorem mono (h : start.Leads input bound next ending) {fewer : Nat} (hfewer : fewer ≤ bound) :
    start.Leads input fewer next ending := by
  cases ending with
  | finished machine => exact h
  | trapped => exact h
  | unfinished =>
    obtain ⟨steps, hsteps, h⟩ := h
    exact ⟨steps, hfewer.trans hsteps, h⟩

/-- A run that goes on from where another is finished. -/
theorem andThen {between : Machine → Cursor} {rest : Machine → Ending}
    (h : start.Leads input bound between ending)
    (hrest : ∀ machine, (between machine).Leads input bound next (rest machine)) :
    start.Leads input bound next (ending.andThen rest) := by
  cases ending with
  | trapped => exact h
  | unfinished => exact h
  | finished machine =>
    obtain ⟨steps, h⟩ := h
    have hmachine := hrest machine
    change start.Leads input bound next (rest machine)
    cases hending : rest machine with
    | finished last =>
      rw [hending] at hmachine
      obtain ⟨further, hfurther⟩ := hmachine
      exact ⟨further + steps, fun more => by rw [← Nat.add_assoc, h, hfurther]⟩
    | trapped =>
      rw [hending] at hmachine
      obtain ⟨further, hfurther⟩ := hmachine
      exact ⟨further + steps, by rw [h, hfurther]⟩
    | unfinished =>
      rw [hending] at hmachine
      obtain ⟨further, hbound, hfurther⟩ := hmachine
      exact ⟨further + steps, by omega, by rw [h, hfurther]⟩

/-- A symbol that is no bracket acts on the machine and is passed. -/
theorem act {symbol : Symbol} (hopen : symbol ≠ .loopOpen) (hclose : symbol ≠ .loopClose)
    (passed ahead : List Symbol) (machine : Machine) :
    (Cursor.mk passed (symbol :: ahead) machine).Leads input bound
      (Cursor.mk (symbol :: passed) ahead) (.ofAction (symbol.act? input machine)) := by
  have hstep : (Cursor.mk passed (symbol :: ahead) machine).step input =
      match symbol.act? input machine with
      | none => .trapped
      | some next => .next ⟨symbol :: passed, ahead, next⟩ := by
    cases symbol with
    | loopOpen => exact absurd rfl hopen
    | loopClose => exact absurd rfl hclose
    | right | left | increment | decrement | output | input => rfl
  cases haction : symbol.act? input machine with
  | none =>
    rw [haction] at hstep
    exact trap hstep
  | some next =>
    rw [haction] at hstep
    exact (step hstep (here (Cursor.mk (symbol :: passed) ahead) next)).mono (Nat.le_succ bound)

end Cursor.Leads

namespace TapeProgram

variable (input : Nat → BitVec 32) (bound : Nat)

/-- A symbol that is no bracket comes before the rest of a program. -/
theorem leads_cons (symbol : Symbol) (hopen : symbol ≠ .loopOpen) (hclose : symbol ≠ .loopClose)
    {rest : TapeProgram} {passed ahead : List Symbol}
    (hrest : ∀ machine, (Cursor.mk (symbol :: passed) (rest.symbols ++ ahead) machine).Leads input
      bound (Cursor.mk (rest.symbols.reverse ++ symbol :: passed) ahead)
      (rest.run input bound machine)) (machine : Machine) :
    (Cursor.mk passed (symbol :: rest.symbols ++ ahead) machine).Leads input bound
      (Cursor.mk ((symbol :: rest.symbols).reverse ++ passed) ahead)
      ((Ending.ofAction (symbol.act? input machine)).andThen (rest.run input bound)) := by
  rw [List.reverse_cons, List.append_assoc, List.cons_append]
  exact (Cursor.Leads.act hopen hclose passed (rest.symbols ++ ahead) machine).andThen hrest

/-- From a loop start the machine goes past the loop if its cell is nought, and else into it. -/
theorem leads_loopOpen (body : TapeProgram) (passed ahead : List Symbol) (machine : Machine)
    {ending : Ending}
    (hinside : (Cursor.mk (.loopOpen :: passed) (body.symbols ++ .loopClose :: ahead) machine).Leads
      input bound (Cursor.mk (.loopClose :: (body.symbols.reverse ++ .loopOpen :: passed)) ahead)
      ending) :
    (Cursor.mk passed (.loopOpen :: (body.symbols ++ .loopClose :: ahead)) machine).Leads input
      bound (Cursor.mk (.loopClose :: (body.symbols.reverse ++ .loopOpen :: passed)) ahead)
      (machine.unlessZero ending) := by
  let start := Cursor.mk passed (.loopOpen :: (body.symbols ++ .loopClose :: ahead)) machine
  let past := Cursor.mk (.loopClose :: (body.symbols.reverse ++ .loopOpen :: passed)) ahead
  have hskip : start.skip (body.symbols ++ .loopClose :: ahead) = past machine := by
    simp [start, past, Cursor.skip, seek_symbols, seek]
  cases hcell : machine.cell? with
  | none =>
    have hstep : start.step input = .trapped := by simp [start, Cursor.step, hcell]
    simp only [Machine.unlessZero, hcell]
    exact Cursor.Leads.trap hstep
  | some byte =>
    by_cases hzero : byte = 0
    · have hstep : start.step input = .next (past machine) := by
        rw [← hskip]
        simp [start, Cursor.step, hcell, hzero]
      simp only [Machine.unlessZero, hcell, if_pos hzero]
      exact (Cursor.Leads.step hstep (Cursor.Leads.here past machine)).mono (Nat.le_succ bound)
    · have hstep : start.step input =
          .next ⟨.loopOpen :: passed, body.symbols ++ .loopClose :: ahead, machine⟩ := by
        simp only [start, Cursor.step, hcell, if_neg hzero]
        rfl
      simp only [Machine.unlessZero, hcell, if_neg hzero]
      exact (Cursor.Leads.step hstep hinside).mono (Nat.le_succ bound)

/-- From a loop end the machine goes past the loop if its cell is nought, and else back into it,
which takes a step or more. -/
theorem leads_loopClose (body : TapeProgram) (passed ahead : List Symbol) (machine : Machine)
    {ending : Ending}
    (hinside : (Cursor.mk (.loopOpen :: passed) (body.symbols ++ .loopClose :: ahead) machine).Leads
      input bound (Cursor.mk (.loopClose :: (body.symbols.reverse ++ .loopOpen :: passed)) ahead)
      ending) :
    (Cursor.mk (body.symbols.reverse ++ .loopOpen :: passed) (.loopClose :: ahead) machine).Leads
      input (bound + 1) (Cursor.mk (.loopClose :: (body.symbols.reverse ++ .loopOpen :: passed)) ahead)
      (machine.unlessZero ending) := by
  let start := Cursor.mk (body.symbols.reverse ++ .loopOpen :: passed) (.loopClose :: ahead) machine
  let past := Cursor.mk (.loopClose :: (body.symbols.reverse ++ .loopOpen :: passed)) ahead
  let opening := Cursor.mk passed (.loopOpen :: (body.symbols ++ .loopClose :: ahead)) machine
  have hback : start.back = opening := by
    simp [start, opening, Cursor.back, seek_symbols_reverse, seek]
  have hopen := leads_loopOpen input bound body passed ahead machine hinside
  cases hcell : machine.cell? with
  | none =>
    have hstep : start.step input = .trapped := by simp [start, Cursor.step, hcell]
    simp only [Machine.unlessZero, hcell]
    exact Cursor.Leads.trap hstep
  | some byte =>
    by_cases hzero : byte = 0
    · have hstep : start.step input = .next (past machine) := by
        simp [start, past, Cursor.step, Cursor.pass, hcell, hzero]
      simp only [Machine.unlessZero, hcell, if_pos hzero]
      exact Cursor.Leads.step hstep (Cursor.Leads.here past machine)
    · have hstep : start.step input = .next opening := by
        rw [← hback]
        simp only [start, Cursor.step, hcell, if_neg hzero]
      exact Cursor.Leads.step hstep hopen

/-- The machine repeats the body of a loop and goes past the loop in the end. -/
theorem leads_repeatUntilZero {body : TapeProgram} {passed ahead : List Symbol}
    (hbody : ∀ machine, (Cursor.mk (.loopOpen :: passed) (body.symbols ++ .loopClose :: ahead)
      machine).Leads input bound (Cursor.mk (body.symbols.reverse ++ .loopOpen :: passed)
        (.loopClose :: ahead)) (body.run input bound machine))
    {count : Nat} (hcount : count ≤ bound) (machine : Machine) :
    (Cursor.mk (.loopOpen :: passed) (body.symbols ++ .loopClose :: ahead) machine).Leads input count
      (Cursor.mk (.loopClose :: (body.symbols.reverse ++ .loopOpen :: passed)) ahead)
      (repeatUntilZero (body.run input bound) count machine) := by
  induction count generalizing machine with
  | zero => exact ⟨0, Nat.le_refl 0, rfl⟩
  | succ count ih =>
    have hrepeat (next : Machine) := leads_loopClose input count body passed ahead next
      (ih (Nat.le_of_succ_le hcount) next)
    exact ((hbody machine).mono hcount).andThen hrepeat

/-- From before a program the machine comes to what running the program gives. -/
theorem leads_run (program : TapeProgram) (passed ahead : List Symbol) (machine : Machine) :
    (Cursor.mk passed (program.symbols ++ ahead) machine).Leads input bound
      (Cursor.mk (program.symbols.reverse ++ passed) ahead) (program.run input bound machine) := by
  induction program generalizing passed ahead machine with
  | done => exact Cursor.Leads.here (Cursor.mk passed ahead) machine
  | move forward rest ih =>
    cases forward with
    | true => exact leads_cons input bound .right nofun nofun (ih (.right :: passed) ahead) machine
    | false => exact leads_cons input bound .left nofun nofun (ih (.left :: passed) ahead) machine
  | change up rest ih =>
    cases up with
    | true =>
      exact leads_cons input bound .increment nofun nofun (ih (.increment :: passed) ahead) machine
    | false =>
      exact leads_cons input bound .decrement nofun nofun (ih (.decrement :: passed) ahead) machine
  | output rest ih =>
    exact leads_cons input bound .output nofun nofun (ih (.output :: passed) ahead) machine
  | input rest ih =>
    exact leads_cons input bound .input nofun nofun (ih (.input :: passed) ahead) machine
  | loop body rest ihbody ihrest =>
    have hrepeat := leads_repeatUntilZero input bound
      (ihbody (.loopOpen :: passed) (.loopClose :: (rest.symbols ++ ahead))) (Nat.le_refl bound)
    have hloop := leads_loopOpen input bound body passed (rest.symbols ++ ahead) machine
      (hrepeat machine)
    have hrest := hloop.andThen
      (ihrest (.loopClose :: (body.symbols.reverse ++ .loopOpen :: passed)) ahead)
    simpa [symbols, run] using hrest

/-- A bounded run has the same ending as some number of steps, which is at least the bound if it is
unfinished. -/
theorem exists_steps (program : TapeProgram) (start : Machine) :
    ∃ steps, (program.run input bound start = .unfinished → bound ≤ steps) ∧
      (Cursor.mk [] program.symbols start).run input steps = program.run input bound start := by
  have hleads := program.leads_run input bound [] [] start
  rw [List.append_nil] at hleads
  cases hending : program.run input bound start with
  | finished final =>
    rw [hending] at hleads
    obtain ⟨steps, hsteps⟩ := hleads
    exact ⟨1 + steps, nofun, hsteps 1⟩
  | trapped =>
    rw [hending] at hleads
    obtain ⟨steps, hsteps⟩ := hleads
    exact ⟨steps, nofun, hsteps⟩
  | unfinished =>
    rw [hending] at hleads
    obtain ⟨steps, hbound, hsteps⟩ := hleads
    exact ⟨steps, fun _ => hbound, hsteps⟩

/-- The machine comes to an end exactly if a bounded run does, and to the same one. -/
theorem exists_run_eq_iff (program : TapeProgram) (start : Machine) {ending : Ending}
    (hended : ending ≠ .unfinished) :
    (∃ steps, (Cursor.mk [] program.symbols start).run input steps = ending) ↔
      ∃ bound, program.run input bound start = ending := by
  constructor
  · rintro ⟨steps, hsteps⟩
    obtain ⟨reached, hbound, hreached⟩ := exists_steps input (steps + 1) program start
    refine ⟨steps + 1, ?_⟩
    by_cases hunfinished : program.run input (steps + 1) start = .unfinished
    · have hlonger := Cursor.run_add hsteps hended (reached - steps)
      have hle := hbound hunfinished
      rw [show steps + (reached - steps) = reached by omega, hreached, hunfinished] at hlonger
      exact absurd hlonger.symm hended
    · exact (Cursor.ending_unique hsteps hended hreached hunfinished).symm
  · rintro ⟨bound, hrun⟩
    obtain ⟨steps, -, hsteps⟩ := exists_steps input bound program start
    exact ⟨steps, hsteps.trans hrun⟩

/-- The symbols of a program finish exactly if a bounded run does. -/
theorem finishes_iff (program : TapeProgram) (start final : Machine) :
    Finishes input program.symbols start final ↔
      ∃ bound, program.run input bound start = .finished final :=
  exists_run_eq_iff input program start nofun

/-- The symbols of a program trap exactly if a bounded run does. -/
theorem traps_iff (program : TapeProgram) (start : Machine) :
    Traps input program.symbols start ↔ ∃ bound, program.run input bound start = .trapped :=
  exists_run_eq_iff input program start nofun

/-- If the symbols of a program never end, no bounded run does. -/
theorem run_eq_unfinished {program : TapeProgram} {start : Machine}
    (h : Diverges input program.symbols start) : program.run input bound start = .unfinished := by
  obtain ⟨steps, -, hsteps⟩ := exists_steps input bound program start
  exact hsteps.symm.trans (h steps)

end TapeProgram

end BrainfuckWasm
