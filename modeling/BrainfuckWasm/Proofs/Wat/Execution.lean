import BrainfuckWasm.Proofs.Fusion
import BrainfuckWasm.Proofs.Wat.BodyText

/-!
# Executing instructions

Instructions work on an operand stack of 32-bit words and on a machine whose pointer is the one
declared variable. A branch leaves blocks one after another up to the one with its label, and starts
a loop with its label again, at most as often as the bound says. Each body begins with an empty
stack and has to leave one.

The instructions of fused code do what running the code does, with the operands of what follows left
as they are. What is not valid at all never happens there.
-/

namespace BrainfuckWasm

namespace Wat

/-- How executing instructions ends within some bound. -/
inductive Outcome where
  | finished (stack : List (BitVec 32)) (machine : Machine)
  | branched (label : String) (machine : Machine)
  | trapped
  | unfinished
  | invalid

namespace Outcome

/-- Go on with the stack and the machine that are left. -/
def andThen (outcome : Outcome) (next : List (BitVec 32) → Machine → Outcome) : Outcome :=
  match outcome with
  | finished stack machine => next stack machine
  | other => other

/-- Go on after a body, which has to leave an empty stack. -/
def afterBody (outcome : Outcome) (next : Machine → Outcome) : Outcome :=
  outcome.andThen fun results machine => if results = [] then next machine else invalid

/-- A branch to a label ends at the block with this label. -/
def caught (outcome : Outcome) (label : String) : Outcome :=
  match outcome with
  | branched target machine => if target = label then finished [] machine else branched target machine
  | other => other

/-- The outcome of a single access to the memory. -/
def ofAccess {α : Type} (access : Option α) (next : α → Outcome) : Outcome :=
  match access with
  | some result => next result
  | none => trapped

end Outcome

/-- Take a value from the stack. -/
def pop (stack : List (BitVec 32)) (next : BitVec 32 → List (BitVec 32) → Outcome) : Outcome :=
  match stack with
  | value :: rest => next value rest
  | [] => .invalid

/-- Replace the two topmost values by a result, of which the lower one is the first. -/
def combine (stack : List (BitVec 32)) (machine : Machine)
    (result : BitVec 32 → BitVec 32 → BitVec 32) : Outcome :=
  pop stack fun second rest => pop rest fun first rest =>
    .finished (result first second :: rest) machine

/-- The word for a truth value. -/
def truth (holds : Bool) : BitVec 32 :=
  if holds then 1 else 0

/-- A variable is the one that holds the pointer. -/
def isPointer (mode kind : Addressing) (name : String) : Bool :=
  kind = mode && name = "$ptr"

/-- Call a function of the host: one takes a value and one gives the next of its own. -/
def callHost (host : Nat → BitVec 32) (name : String) (stack : List (BitVec 32))
    (machine : Machine) : Outcome :=
  if name = "$putChar" then pop stack fun value rest => .finished rest (machine.put value)
  else if name = "$getChar" then .finished (host machine.consumed :: stack) machine.ask
  else .invalid

/-- Execute one operation, with the pointer in a variable of the given kind and the values that the
host answers with. -/
def Operation.execute (mode : Addressing) (host : Nat → BitVec 32) (stack : List (BitVec 32))
    (machine : Machine) : Operation → Outcome
  | constant value => .finished (value :: stack) machine
  | add => combine stack machine fun first second => first + second
  | sub => combine stack machine fun first second => first - second
  | equal => combine stack machine fun first second => truth (first == second)
  | unequal => combine stack machine fun first second => truth (first != second)
  | load => pop stack fun address rest =>
      .ofAccess (machine.load? address) fun byte => .finished (byte.setWidth 32 :: rest) machine
  | store => pop stack fun value rest => pop rest fun address rest =>
      .ofAccess (machine.store? address (value.setWidth 8)) fun stored => .finished rest stored
  | get kind name =>
    if isPointer mode kind name then .finished (machine.pointer :: stack) machine else .invalid
  | set kind name => pop stack fun value rest =>
      if isPointer mode kind name then .finished rest { machine with pointer := value } else .invalid
  | call name => callHost host name stack machine
  | branchIf label => pop stack fun test rest =>
      if test = 0 then .finished rest machine else .branched label machine

/-- Execute the body of a loop, and again for every branch to its label, at most a number of times.
-/
def repeatLoop (label : String) (body : Machine → Outcome) : Nat → Machine → Outcome
  | 0, _ => .unfinished
  | count + 1, machine =>
    match body machine with
    | .branched target next =>
      if target = label then repeatLoop label body count next else .branched target next
    | other => other

/-- Execute a sequence of instructions. -/
def Sequence.execute (mode : Addressing) (host : Nat → BitVec 32) (bound : Nat) :
    Sequence → List (BitVec 32) → Machine → Outcome
  | done, stack, machine => .finished stack machine
  | perform operation rest, stack, machine =>
    (operation.execute mode host stack machine).andThen (rest.execute mode host bound)
  | block label body rest, stack, machine =>
    ((body.execute mode host bound [] machine).caught label).afterBody
      (rest.execute mode host bound stack)
  | loop label body rest, stack, machine =>
    (repeatLoop label (body.execute mode host bound []) bound machine).afterBody
      (rest.execute mode host bound stack)

/-- Executing a sequence from an empty stack finishes with a machine and an empty stack. -/
def Sequence.Finishes (mode : Addressing) (host : Nat → BitVec 32) (sequence : Sequence)
    (start final : Machine) : Prop :=
  ∃ bound, sequence.execute mode host bound [] start = .finished [] final

/-- Executing a sequence from an empty stack traps. -/
def Sequence.Traps (mode : Addressing) (host : Nat → BitVec 32) (sequence : Sequence)
    (start : Machine) : Prop :=
  ∃ bound, sequence.execute mode host bound [] start = .trapped

/-- Executing a sequence from an empty stack never ends. -/
def Sequence.Diverges (mode : Addressing) (host : Nat → BitVec 32) (sequence : Sequence)
    (start : Machine) : Prop :=
  ∀ bound, sequence.execute mode host bound [] start = .unfinished

end Wat

open Wat Body

/-- Go on from a finished run with further instructions. -/
def Ending.resume (ending : Ending) (next : Machine → Outcome) : Outcome :=
  match ending with
  | finished machine => next machine
  | trapped => .trapped
  | unfinished => .unfinished

namespace Code

variable (mode : Addressing) (host : Nat → BitVec 32) (bound : Nat)

/-- Adding or subtracting a magnitude is adding the amount. -/
theorem execute_changeOperation (amount : Int) (value : BitVec 32) (stack : List (BitVec 32))
    (machine : Machine) :
    (changeOperation amount).execute mode host
      (BitVec.ofNat 32 amount.natAbs :: value :: stack) machine =
      .finished ((value + BitVec.ofInt 32 amount) :: stack) machine := by
  have hmagnitude : BitVec.ofNat 32 amount.natAbs = BitVec.ofInt 32 (amount.natAbs : Int) :=
    (BitVec.ofInt_natCast 32 amount.natAbs).symm
  by_cases h : amount > 0
  · rw [changeOperation, if_pos h, hmagnitude, Int.natAbs_of_nonneg (Int.le_of_lt h)]
    rfl
  · rw [changeOperation, if_neg h, hmagnitude, Int.ofNat_natAbs_of_nonpos (Int.not_lt.mp h),
      BitVec.ofInt_neg, ← BitVec.sub_neg]
    rfl

/-- A changed byte is stored as if it had been changed as a byte. -/
theorem setWidth_add_ofInt (byte : BitVec 8) (amount : Int) :
    (byte.setWidth 32 + BitVec.ofInt 32 amount).setWidth 8 = byte + BitVec.ofInt 8 amount := by
  have hamount : (BitVec.ofInt 32 amount).setWidth 8 = BitVec.ofInt 8 amount := by
    apply BitVec.eq_of_toNat_eq
    rw [BitVec.toNat_setWidth, BitVec.toNat_ofInt, BitVec.toNat_ofInt]
    omega
  have hbyte : (byte.setWidth 32).setWidth 8 = byte := by
    rw [BitVec.setWidth_setWidth_of_le _ (by decide), BitVec.setWidth_eq]
  rw [BitVec.setWidth_add _ _ (by decide), hamount, hbyte]

/-- A word made of a byte is nought exactly if the byte is. -/
theorem setWidth_eq_zero_iff (byte : BitVec 8) : byte.setWidth 32 = 0#32 ↔ byte = 0#8 := by
  constructor
  · intro h
    have hback := congrArg (BitVec.setWidth 8) h
    rwa [BitVec.setWidth_setWidth_of_le _ (by decide), BitVec.setWidth_eq] at hback
  · rintro rfl
    rfl

/-- The pointer is pushed. -/
theorem execute_get (next : Sequence) (stack : List (BitVec 32)) (machine : Machine) :
    (Sequence.perform (.get mode "$ptr") next).execute mode host bound stack machine =
      next.execute mode host bound (machine.pointer :: stack) machine := by
  have hpointer : isPointer mode mode "$ptr" = true := by simp [isPointer]
  rw [Sequence.execute, Operation.execute, if_pos hpointer, Outcome.andThen]

/-- The current cell is pushed, or there is none. -/
theorem execute_cellThen (next : Sequence) (stack : List (BitVec 32)) (machine : Machine) :
    (cellThen mode next).execute mode host bound stack machine =
      .ofAccess machine.cell? fun byte =>
        next.execute mode host bound (byte.setWidth 32 :: stack) machine := by
  rw [cellThen, execute_get, Sequence.execute, Operation.execute, pop, Machine.cell?]
  cases machine.load? machine.pointer with
  | none => rfl
  | some byte => rfl

/-- A value is changed by an amount. -/
theorem execute_changeThen (amount : Int) (next : Sequence) (value : BitVec 32)
    (stack : List (BitVec 32)) (machine : Machine) :
    (changeThen amount next).execute mode host bound (value :: stack) machine =
      next.execute mode host bound ((value + BitVec.ofInt 32 amount) :: stack) machine := by
  rw [changeThen, Sequence.execute, Operation.execute, Outcome.andThen, Sequence.execute,
    execute_changeOperation, Outcome.andThen]

/-- A branch is taken if the current cell is nought. -/
theorem execute_branchThen_equal (label : Nat) (next : Sequence) (stack : List (BitVec 32))
    (machine : Machine) :
    (branchThen mode .equal label next).execute mode host bound stack machine =
      .ofAccess machine.cell? fun byte =>
        if byte = 0 then .branched (labelText label) machine
        else next.execute mode host bound stack machine := by
  rw [branchThen, execute_cellThen]
  congr 1
  funext byte
  by_cases h : byte = 0#8
  · simp [Sequence.execute, Operation.execute, combine, pop, Outcome.andThen, truth, h]
  · have hword := mt (setWidth_eq_zero_iff byte).mp h
    simp [Sequence.execute, Operation.execute, combine, pop, Outcome.andThen, truth, h, hword]

/-- A branch is taken unless the current cell is nought. -/
theorem execute_branchThen_unequal (label : Nat) (next : Sequence) (stack : List (BitVec 32))
    (machine : Machine) :
    (branchThen mode .unequal label next).execute mode host bound stack machine =
      .ofAccess machine.cell? fun byte =>
        if byte = 0 then next.execute mode host bound stack machine
        else .branched (labelText label) machine := by
  rw [branchThen, execute_cellThen]
  congr 1
  funext byte
  by_cases h : byte = 0#8
  · simp [Sequence.execute, Operation.execute, combine, pop, Outcome.andThen, truth, h]
  · have hword := mt (setWidth_eq_zero_iff byte).mp h
    simp [Sequence.execute, Operation.execute, combine, pop, Outcome.andThen, truth, h, hword]

/-- What comes after a finished run starts from its machine. -/
theorem resume_finished (machine : Machine) (next : Machine → Outcome) :
    (Ending.finished machine).resume next = next machine := rfl

/-- Runs with the same outcome have the same ending. -/
theorem resume_injective {first second : Ending}
    (h : first.resume (.finished []) = second.resume (.finished [])) : first = second := by
  cases first <;> cases second <;> cases h <;> rfl

/-- What comes after two runs comes after the second. -/
theorem resume_andThen (ending : Ending) (rest : Machine → Ending) (next : Machine → Outcome) :
    (ending.andThen rest).resume next = ending.resume fun machine => (rest machine).resume next := by
  cases ending <;> rfl

/-- What comes after an action comes after the machine that it leaves. -/
theorem resume_ofAction (action : Option Machine) (next : Machine → Outcome) :
    (Ending.ofAction action).resume next = .ofAccess action next := by
  cases action <;> rfl

/-- A loop is executed by repeating its body. -/
theorem repeatLoop_eq {body : Machine → Ending} {instructions : Machine → Outcome} (label : Nat)
    (h : ∀ machine, instructions machine = (body machine).resume fun next =>
      (branchThen mode .unequal label .done).execute mode host bound [] next)
    (count : Nat) (machine : Machine) :
    repeatLoop (labelText label) instructions count machine =
      (repeatUntilZero body count machine).resume (.finished []) := by
  induction count generalizing machine with
  | zero => rfl
  | succ count ih =>
    rw [repeatLoop, h, repeatUntilZero, resume_andThen]
    cases body machine with
    | trapped => rfl
    | unfinished => rfl
    | finished next =>
      rw [resume_finished, resume_finished, execute_branchThen_unequal, Machine.unlessZero]
      cases next.cell? with
      | none => rfl
      | some byte =>
        by_cases hzero : byte = 0
        · simp only [Outcome.ofAccess, if_pos hzero]
          rfl
        · simp only [Outcome.ofAccess, if_neg hzero, if_true]
          exact ih next

/-- A loop that is entered unless the current cell is nought is caught by its block. -/
theorem execute_block {body : Machine → Ending} {instructions : Sequence} (label : Nat)
    (h : ∀ machine, instructions.execute mode host bound [] machine =
      (body machine).resume fun next =>
        (branchThen mode .unequal (label + 1) .done).execute mode host bound [] next)
    (rest : Sequence) (stack : List (BitVec 32)) (machine : Machine) :
    (Sequence.block (labelText label) (branchThen mode .equal label
      (.loop (labelText (label + 1)) instructions .done)) rest).execute mode host bound stack machine =
      (machine.unlessZero (repeatUntilZero body bound machine)).resume fun next =>
        rest.execute mode host bound stack next := by
  have hloop : (Sequence.loop (labelText (label + 1)) instructions .done).execute mode host bound []
      machine = (repeatUntilZero body bound machine).resume (.finished []) := by
    rw [Sequence.execute, repeatLoop_eq mode host bound (label + 1) h]
    cases repeatUntilZero body bound machine <;> rfl
  rw [Sequence.execute, execute_branchThen_equal, hloop, Machine.unlessZero]
  cases machine.cell? with
  | none => rfl
  | some byte =>
    by_cases hzero : byte = 0
    · simp only [Outcome.ofAccess, Outcome.caught, if_pos hzero, if_true]
      rfl
    · simp only [Outcome.ofAccess, if_neg hzero]
      cases repeatUntilZero body bound machine <;> rfl

/-- The instructions of code do what running the code does. -/
theorem execute_sequence (code : Code) (label : Nat) (next : Sequence) (stack : List (BitVec 32))
    (machine : Machine) :
    (code.sequence mode label next).execute mode host bound stack machine =
      (code.run host bound machine).resume fun last => next.execute mode host bound stack last := by
  induction code generalizing label next stack machine with
  | done => rfl
  | move amount rest ih =>
    have hpointer : isPointer mode mode "$ptr" = true := by simp [isPointer]
    rw [sequence, execute_get, execute_changeThen, Sequence.execute, Operation.execute, pop,
      if_pos hpointer, Outcome.andThen, ih]
    rfl
  | change amount rest ih =>
    rw [sequence, execute_get, execute_cellThen, run, resume_andThen, resume_ofAction,
      Machine.changed?]
    cases machine.cell? with
    | none => rfl
    | some byte =>
      rw [Outcome.ofAccess, execute_changeThen, Sequence.execute, Operation.execute, pop, pop,
        setWidth_add_ofInt, Option.bind_some]
      cases machine.store? machine.pointer (byte + BitVec.ofInt 8 amount) with
      | none => rfl
      | some stored => exact ih label next stack stored
  | output rest ih =>
    rw [sequence, execute_cellThen, run, resume_andThen, resume_ofAction, Machine.put?]
    cases machine.cell? with
    | none => rfl
    | some byte =>
      rw [Outcome.ofAccess, Sequence.execute, Operation.execute, callHost, if_pos rfl, pop]
      exact ih label next stack (machine.put (byte.setWidth 32))
  | input rest ih =>
    have hname : "$getChar" ≠ "$putChar" := by decide
    rw [sequence, execute_get, Sequence.execute, Operation.execute, callHost, if_neg hname,
      if_pos rfl, Outcome.andThen, Sequence.execute, Operation.execute, pop, pop, run, resume_andThen,
      resume_ofAction, Machine.get?]
    cases machine.ask.store? machine.pointer ((host machine.consumed).setWidth 8) with
    | none => rfl
    | some stored => exact ih label next stack stored
  | loop body rest ihbody ihrest =>
    rw [sequence,
      execute_block mode host bound label (fun entered => ihbody (label + 2) _ [] entered), run,
      resume_andThen]
    congr 1
    funext last
    exact ihrest _ next stack last

end Code

end BrainfuckWasm
