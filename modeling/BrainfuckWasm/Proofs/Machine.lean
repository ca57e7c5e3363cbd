import Mathlib.Logic.Function.Basic
import BrainfuckWasm.Proofs.TapeProgram

/-!
# The machine that programs run on

A machine has a memory of 65536 bytes, a 32-bit pointer that wraps around, the values that it has
handed to the host and the number of values that it has asked the host for. A pointer outside the
memory may be held but not used: every access to such a cell is a trap.

A run ends, traps, or is still unfinished within the bound that it was given. A trap leaves nothing
to look at, so it does not matter how far a run had got before it.
-/

namespace BrainfuckWasm

/-- The state of a machine. -/
structure Machine where
  memory : Fin 0x10000 → BitVec 8
  pointer : BitVec 32
  /-- The values handed to the host, in order. -/
  printed : List (BitVec 32)
  /-- The number of values asked of the host. -/
  consumed : Nat

namespace Machine

/-- The byte at an address within the memory. -/
def load? (machine : Machine) (address : BitVec 32) : Option (BitVec 8) :=
  if h : address.toNat < 0x10000 then some (machine.memory ⟨address.toNat, h⟩) else none

/-- The machine with a byte stored at an address within the memory. -/
def store? (machine : Machine) (address : BitVec 32) (byte : BitVec 8) : Option Machine :=
  if h : address.toNat < 0x10000 then
    some { machine with memory := Function.update machine.memory ⟨address.toNat, h⟩ byte }
  else none

/-- The machine with a value handed to the host. -/
def put (machine : Machine) (value : BitVec 32) : Machine :=
  { machine with printed := machine.printed ++ [value] }

/-- The machine with one more value asked of the host. -/
def ask (machine : Machine) : Machine :=
  { machine with consumed := machine.consumed + 1 }

/-- The current cell. -/
def cell? (machine : Machine) : Option (BitVec 8) :=
  machine.load? machine.pointer

/-- The machine with its pointer moved by an amount. -/
def moved (machine : Machine) (amount : Int) : Machine :=
  { machine with pointer := machine.pointer + BitVec.ofInt 32 amount }

/-- The machine with its current cell changed by an amount. -/
def changed? (machine : Machine) (amount : Int) : Option Machine :=
  machine.cell?.bind fun byte => machine.store? machine.pointer (byte + BitVec.ofInt 8 amount)

/-- The machine with its current cell handed to the host. -/
def put? (machine : Machine) : Option Machine :=
  machine.cell?.map fun byte => machine.put (byte.setWidth 32)

/-- The machine with the low byte of the host's next value stored in its current cell. -/
def get? (machine : Machine) (input : Nat → BitVec 32) : Option Machine :=
  machine.ask.store? machine.pointer ((input machine.consumed).setWidth 8)

/-- Moving by nothing changes nothing. -/
@[simp]
theorem moved_zero (machine : Machine) : machine.moved 0 = machine := by
  simp [moved]

/-- Two moves are one move by their sum. -/
theorem moved_moved (machine : Machine) (first second : Int) :
    (machine.moved first).moved second = machine.moved (first + second) := by
  simp [moved, BitVec.ofInt_add, BitVec.add_assoc]

/-- A cell that is not there cannot be changed. -/
theorem changed?_eq_none {machine : Machine} (h : machine.cell? = none) (amount : Int) :
    machine.changed? amount = none := by
  rw [changed?, h, Option.bind_none]

/-- A cell that cannot be changed is not there. -/
theorem cell?_eq_none {machine : Machine} {amount : Int} (h : machine.changed? amount = none) :
    machine.cell? = none := by
  by_cases hbound : machine.pointer.toNat < 0x10000
  · simp [changed?, cell?, load?, store?, hbound] at h
  · simp [cell?, load?, hbound]

/-- Changing a cell by nothing changes nothing. -/
theorem eq_of_changed?_zero {machine next : Machine} (h : machine.changed? 0 = some next) :
    next = machine := by
  by_cases hbound : machine.pointer.toNat < 0x10000
  · simp [changed?, cell?, load?, store?, hbound] at h
    exact h.symm
  · simp [changed?, cell?, load?, hbound] at h

/-- Two changes are one change by their sum. -/
theorem changed?_changed? {machine next : Machine} {first : Int}
    (h : machine.changed? first = some next) (second : Int) :
    next.changed? second = machine.changed? (first + second) := by
  by_cases hbound : machine.pointer.toNat < 0x10000
  · simp only [changed?, cell?, load?, store?, hbound, dif_pos, Option.bind_some,
      Option.some.injEq] at h
    subst h
    simp [changed?, cell?, load?, store?, hbound, BitVec.ofInt_add, BitVec.add_assoc]
  · simp [changed?, cell?, load?, hbound] at h

end Machine

/-- How a run ends within some bound. -/
inductive Ending where
  | finished (machine : Machine)
  | trapped
  | unfinished

namespace Ending

/-- Go on from a finished run. -/
def andThen (ending : Ending) (next : Machine → Ending) : Ending :=
  match ending with
  | finished machine => next machine
  | trapped => trapped
  | unfinished => unfinished

/-- The end of a single action, which traps if there is no machine after it. -/
def ofAction : Option Machine → Ending
  | some machine => finished machine
  | none => trapped

end Ending

/-- Finish if the current cell is nought, and do something else if it is not. -/
def Machine.unlessZero (machine : Machine) (other : Ending) : Ending :=
  match machine.cell? with
  | none => .trapped
  | some byte => if byte = 0 then .finished machine else other

/-- Repeat a body until the current cell is nought after it, at most a number of times. -/
def repeatUntilZero (body : Machine → Ending) : Nat → Machine → Ending
  | 0, _ => .unfinished
  | count + 1, machine =>
    (body machine).andThen fun next => next.unlessZero (repeatUntilZero body count next)

end BrainfuckWasm
