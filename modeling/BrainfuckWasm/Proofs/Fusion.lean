import Mathlib.Algebra.Ring.Int.Defs
import BrainfuckWasm.Proofs.Code
import BrainfuckWasm.Proofs.UnitStep

/-!
# Fused code runs like its program

While a program is fused, the machine that runs the code is behind the one that runs the program by
the sums that are not yet written. Where a sum is written the two meet again, and everything that
can be seen of a machine happens at such a place.

There is one difference. A stretch of changes that cancel is not written at all, so the code does
not touch the cell, and if there is no cell then the program traps and the code goes on. This is the
only way in which the two can differ.
-/

namespace BrainfuckWasm

/-- Run fused code, with a bound on how often a loop is repeated each time it is entered. -/
def Code.run (host : Nat → BitVec 32) (bound : Nat) : Code → Machine → Ending
  | done, machine => .finished machine
  | move amount rest, machine => rest.run host bound (machine.moved amount)
  | change amount rest, machine =>
    (Ending.ofAction (machine.changed? amount)).andThen (rest.run host bound)
  | output rest, machine => (Ending.ofAction machine.put?).andThen (rest.run host bound)
  | input rest, machine => (Ending.ofAction (machine.get? host)).andThen (rest.run host bound)
  | loop body rest, machine =>
    (machine.unlessZero (repeatUntilZero (body.run host bound) bound machine)).andThen
      (rest.run host bound)

/-- The ending of a program and that of its code: they are the same, or the program traps under some
condition. -/
def Agrees (condition : Prop) (ending other : Ending) : Prop :=
  ending = other ∨ ending = .trapped ∧ condition

namespace Agrees

variable {condition : Prop}

/-- Endings agree with themselves. -/
theorem refl (condition : Prop) (ending : Ending) : Agrees condition ending ending :=
  Or.inl rfl

/-- Runs that agree may be followed by runs that agree. -/
theorem andThen {ending other : Ending} {next otherNext : Machine → Ending}
    (h : Agrees condition ending other)
    (hnext : ∀ machine, Agrees condition (next machine) (otherNext machine)) :
    Agrees condition (ending.andThen next) (other.andThen otherNext) := by
  rcases h with rfl | ⟨rfl, hcondition⟩
  · cases ending with
    | finished machine => exact hnext machine
    | trapped => exact refl condition .trapped
    | unfinished => exact refl condition .unfinished
  · exact Or.inr ⟨rfl, hcondition⟩

/-- Runs that agree may be left out where a cell is nought. -/
theorem unlessZero {ending other : Ending} (machine : Machine) (h : Agrees condition ending other) :
    Agrees condition (machine.unlessZero ending) (machine.unlessZero other) := by
  cases hcell : machine.cell? with
  | none =>
    simp only [Machine.unlessZero, hcell]
    exact refl condition .trapped
  | some byte =>
    by_cases hzero : byte = 0
    · simp only [Machine.unlessZero, hcell, if_pos hzero]
      exact refl condition (.finished machine)
    · simpa only [Machine.unlessZero, hcell, if_neg hzero] using h

/-- Bodies that agree may be repeated. -/
theorem repeatUntilZero {body other : Machine → Ending}
    (h : ∀ machine, Agrees condition (body machine) (other machine)) (count : Nat)
    (machine : Machine) :
    Agrees condition (BrainfuckWasm.repeatUntilZero body count machine)
      (BrainfuckWasm.repeatUntilZero other count machine) := by
  induction count generalizing machine with
  | zero => exact refl condition .unfinished
  | succ count ih => exact (h machine).andThen fun next => (ih next).unlessZero next

end Agrees

namespace TapeProgram

/-- A stretch of changes in a program comes to nothing, given the sum of the one that is under way
if there is one. -/
def Cancels (stretch : Option Int) : TapeProgram → Prop
  | done => stretch = some 0
  | move _ rest => stretch = some 0 ∨ rest.Cancels none
  | change up rest => rest.Cancels (some (stretch.getD 0 + unit up))
  | output rest => stretch = some 0 ∨ rest.Cancels none
  | input rest => stretch = some 0 ∨ rest.Cancels none
  | loop body rest => stretch = some 0 ∨ body.Cancels none ∨ rest.Cancels none

/-- What is still to be written to the machine that runs the code, for it to be the one that runs
the program: moves, or a stretch of changes in a cell that is there. -/
inductive Owes : Int → Int → Option Int → Machine → Machine → Prop where
  | moves (amount : Int) (machine : Machine) : Owes amount 0 none machine (machine.moved amount)
  | changes {amount : Int} {machine next : Machine} (h : machine.changed? amount = some next) :
    Owes 0 amount (some amount) machine next

/-- Nothing is owed at first. -/
theorem Owes.nothing (machine : Machine) : Owes 0 0 none machine machine := by
  have hmoves := Owes.moves 0 machine
  rwa [Machine.moved_zero] at hmoves

variable {host : Nat → BitVec 32} {bound : Nat}

/-- Code that begins with a move moves the pointer first. -/
theorem run_moved (amount : Int) (rest : Code) (machine : Machine) :
    (Code.moved amount rest).run host bound machine =
      rest.run host bound (machine.moved amount) := by
  by_cases h : amount = 0
  · rw [Code.moved, if_pos h, h, Machine.moved_zero]
  · rw [Code.moved, if_neg h, Code.run]

/-- Code that begins with a change of a cell that is there changes it first. -/
theorem run_changed {amount : Int} {machine next : Machine}
    (h : machine.changed? amount = some next)
    (rest : Code) :
    (Code.changed amount rest).run host bound machine = rest.run host bound next := by
  by_cases hamount : amount = 0
  · subst hamount
    rw [Code.changed, if_pos rfl, Machine.eq_of_changed?_zero h]
  · rw [Code.changed, if_neg hamount, Code.run, h]
    rfl

/-- Writing what is owed makes the two machines the same. -/
theorem Owes.run_eq {moves changes : Int} {stretch : Option Int} {written actual : Machine}
    (h : Owes moves changes stretch written actual) (rest : Code) :
    (Code.moved moves (.changed changes rest)).run host bound written =
      rest.run host bound actual := by
  cases h with
  | moves amount machine => rw [run_moved, Code.changed, if_pos rfl]
  | changes h => rw [run_moved, Machine.moved_zero, run_changed h]

/-- Code that is to change a cell that is not there traps, unless the changes come to nothing. -/
theorem run_fuse_of_cell?_eq_none {machine : Machine} (h : machine.cell? = none)
    (program : TapeProgram) (sum : Int) :
    (program.fuse 0 sum).run host bound machine = .trapped ∨ program.Cancels (some sum) := by
  have htrap {amount : Int} (hne : amount ≠ 0) (rest : Code) :
      (Code.changed amount rest).run host bound machine = .trapped := by
    rw [Code.changed, if_neg hne, Code.run, Machine.changed?_eq_none h]
    rfl
  induction program generalizing sum with
  | done =>
    by_cases hsum : sum = 0
    · exact Or.inr (congrArg some hsum)
    · rw [fuse, run_moved, Machine.moved_zero]
      exact Or.inl (htrap hsum _)
  | move forward rest ih =>
    by_cases hsum : sum = 0
    · exact Or.inr (Or.inl (congrArg some hsum))
    · exact Or.inl (htrap hsum _)
  | change up rest ih =>
    rw [fuse, run_moved, Machine.moved_zero]
    exact ih (sum + unit up)
  | output rest ih | input rest ih | loop body rest ihbody ih =>
    by_cases hsum : sum = 0
    · exact Or.inr (Or.inl (congrArg some hsum))
    · rw [fuse, run_moved, Machine.moved_zero]
      exact Or.inl (htrap hsum _)

/-- Fused code agrees with its program. -/
theorem agrees_fuse {condition : Prop} (program : TapeProgram) {moves changes : Int}
    {stretch : Option Int} {written actual : Machine}
    (h : Owes moves changes stretch written actual)
    (hcancels : program.Cancels stretch → condition) :
    Agrees condition (program.run host bound actual)
      ((program.fuse moves changes).run host bound written) := by
  induction program generalizing moves changes stretch written actual with
  | done =>
    rw [fuse, h.run_eq]
    exact Agrees.refl condition (.finished actual)
  | move forward rest ih =>
    have hrest (hnone : rest.Cancels none) : condition := hcancels (Or.inr hnone)
    cases h with
    | moves amount machine =>
      rw [run, fuse, Machine.moved_moved, Code.changed, if_pos rfl]
      exact ih (.moves (moves + unit forward) written) hrest
    | changes h =>
      rw [run, fuse, run_changed h, Int.zero_add]
      exact ih (.moves (unit forward) actual) hrest
  | change up rest ih =>
    rw [run, fuse]
    cases h with
    | moves amount machine =>
      have hrest : rest.Cancels (some (unit up)) → condition := by
        simpa [Cancels] using hcancels
      rw [run_moved, Int.zero_add]
      cases haction : (written.moved moves).changed? (unit up) with
      | some next => exact ih (.changes haction) hrest
      | none =>
        -- The program traps at this change, and the code at the end of the stretch if at all.
        have hcell := Machine.cell?_eq_none haction
        rcases run_fuse_of_cell?_eq_none hcell rest (unit up) with htrapped | hcancel
        · exact Or.inl htrapped.symm
        · exact Or.inr ⟨rfl, hrest hcancel⟩
    | changes h =>
      rw [run_moved, Machine.moved_zero]
      have hboth := Machine.changed?_changed? h (unit up)
      cases haction : actual.changed? (unit up) with
      | some next => exact ih (.changes (hboth.symm.trans haction)) hcancels
      | none =>
        have hcell := Machine.cell?_eq_none (hboth.symm.trans haction)
        rw [Machine.changed?_eq_none hcell] at h
        cases h
  | output rest ih | input rest ih =>
    rw [run, fuse, h.run_eq]
    refine (Agrees.refl condition _).andThen fun next => ?_
    exact ih (.nothing next) fun hnone => hcancels (Or.inr hnone)
  | loop body rest ihbody ihrest =>
    rw [run, fuse, h.run_eq]
    have hbody (machine : Machine) :
        Agrees condition (body.run host bound machine) ((body.fuse 0 0).run host bound machine) :=
      ihbody (.nothing machine) fun hnone => hcancels (Or.inr (Or.inl hnone))
    refine ((Agrees.repeatUntilZero hbody bound actual).unlessZero actual).andThen fun next => ?_
    exact ihrest (.nothing next) fun hnone => hcancels (Or.inr (Or.inr hnone))

end TapeProgram

/-- The change that a symbol makes to the current cell. -/
def Symbol.change : Symbol → Int
  | .increment => 1
  | .decrement => -1
  | _ => 0

/-- A whole stretch of changes between other symbols comes to nothing. -/
structure CancellingStretch (before stretch after : List Symbol) : Prop where
  ne_nil : stretch ≠ []
  isChange : ∀ symbol ∈ stretch, symbol.isChange = true
  before_ends : ∀ symbol ∈ before.getLast?, symbol.isChange = false
  after_starts : ∀ symbol ∈ after.head?, symbol.isChange = false
  sum_eq : (stretch.map Symbol.change).sum = 0

/-- Some stretch of changes among symbols comes to nothing. -/
def HasCancellingStretch (symbols : List Symbol) : Prop :=
  ∃ before stretch after, symbols = before ++ stretch ++ after ∧
    CancellingStretch before stretch after

/-- The sum of a stretch that is under way, if there is one. -/
def sumOf (stretch : List Symbol) : Option Int :=
  if stretch = [] then none else some (stretch.map Symbol.change).sum

/-- A stretch that is under way goes on with a change. -/
theorem sumOf_append_changeSymbol (stretch : List Symbol) (up : Bool) :
    sumOf (stretch ++ [TapeProgram.changeSymbol up]) = some ((sumOf stretch).getD 0 + unit up) := by
  have hchange : (TapeProgram.changeSymbol up).change = unit up := by cases up <;> rfl
  by_cases h : stretch = []
  · simp [sumOf, h, hchange]
  · simp [sumOf, h, hchange]

/-- A stretch that comes to nothing and is not followed by a change. -/
theorem hasCancellingStretch_of_sumOf {before stretch after : List Symbol}
    (hstretch : ∀ symbol ∈ stretch, symbol.isChange = true)
    (hbefore : ∀ symbol ∈ before.getLast?, symbol.isChange = false)
    (hafter : ∀ symbol ∈ after.head?, symbol.isChange = false) (h : sumOf stretch = some 0) :
    HasCancellingStretch (before ++ stretch ++ after) := by
  by_cases hnil : stretch = []
  · simp [sumOf, hnil] at h
  · rw [sumOf, if_neg hnil, Option.some.injEq] at h
    exact ⟨before, stretch, after, rfl, hnil, hstretch, hbefore, hafter, h⟩

/-- What cancels in a program, with a stretch under way before it, is a stretch of the symbols. -/
theorem TapeProgram.Cancels.hasCancellingStretch_append {program : TapeProgram}
    {before stretch after : List Symbol}
    (hstretch : ∀ symbol ∈ stretch, symbol.isChange = true)
    (hbefore : ∀ symbol ∈ before.getLast?, symbol.isChange = false)
    (hafter : ∀ symbol ∈ after.head?, symbol.isChange = false)
    (h : program.Cancels (sumOf stretch)) :
    HasCancellingStretch (before ++ stretch ++ (program.symbols ++ after)) := by
  -- After a symbol that is no change a new stretch begins.
  have hempty : ∀ symbol ∈ ([] : List Symbol), symbol.isChange = true := nofun
  have hfresh (passed : List Symbol) (symbol : Symbol) (hsymbol : symbol.isChange = false) :
      ∀ last ∈ (passed ++ [symbol]).getLast?, last.isChange = false := by
    simpa using hsymbol
  induction program generalizing before stretch after with
  | done => exact hasCancellingStretch_of_sumOf hstretch hbefore hafter h
  | change up rest ih =>
    have hlonger : ∀ symbol ∈ stretch ++ [changeSymbol up], symbol.isChange = true :=
      List.forall_mem_append.mpr ⟨hstretch, by simpa using isChange_changeSymbol up⟩
    rw [Cancels, ← sumOf_append_changeSymbol] at h
    simpa [symbols] using ih hlonger hbefore hafter h
  | move forward rest ih =>
    have hsymbol : (moveSymbol forward).isChange = false := by cases forward <;> rfl
    rcases h with hzero | hrest
    · exact hasCancellingStretch_of_sumOf hstretch hbefore (by simpa [symbols] using hsymbol) hzero
    · simpa [symbols] using ih hempty (hfresh (before ++ stretch) _ hsymbol) hafter hrest
  | output rest ih =>
    rcases h with hzero | hrest
    · exact hasCancellingStretch_of_sumOf hstretch hbefore
        (by simp [symbols, Symbol.isChange]) hzero
    · simpa [symbols] using ih hempty (hfresh (before ++ stretch) .output rfl) hafter hrest
  | input rest ih =>
    rcases h with hzero | hrest
    · exact hasCancellingStretch_of_sumOf hstretch hbefore
        (by simp [symbols, Symbol.isChange]) hzero
    · simpa [symbols] using ih hempty (hfresh (before ++ stretch) .input rfl) hafter hrest
  | loop body rest ihbody ihrest =>
    rcases h with hzero | hbody | hrest
    · exact hasCancellingStretch_of_sumOf hstretch hbefore
        (by simp [symbols, Symbol.isChange]) hzero
    · have hclose : ∀ symbol ∈ (Symbol.loopClose :: (rest.symbols ++ after)).head?,
          symbol.isChange = false := by simp [Symbol.isChange]
      simpa [symbols] using ihbody hempty (hfresh (before ++ stretch) .loopOpen rfl) hclose hbody
    · simpa [symbols] using ihrest hempty
        (hfresh (before ++ stretch ++ .loopOpen :: body.symbols) .loopClose rfl) hafter hrest

/-- What cancels in a program is a stretch of its symbols. -/
theorem TapeProgram.Cancels.hasCancellingStretch {program : TapeProgram}
    (h : program.Cancels none) :
    HasCancellingStretch program.symbols := by
  have hempty : ∀ symbol ∈ ([] : List Symbol), symbol.isChange = true := nofun
  have hfirst : ∀ symbol ∈ ([] : List Symbol).getLast?, symbol.isChange = false := nofun
  have hlast : ∀ symbol ∈ ([] : List Symbol).head?, symbol.isChange = false := nofun
  simpa using Cancels.hasCancellingStretch_append hempty hfirst hlast h

end BrainfuckWasm
