import BrainfuckWasm.Proofs.Wat.Row

/-!
# Sequences of instructions

An expression in parentheses is an instruction with its operands folded into it: the operands come
first and the instruction after them. Blocks and loops keep their bodies. What is read from a row
is the plain sequence of instructions that works on the operand stack, with each instruction
followed by the rest of its sequence.
-/

namespace BrainfuckWasm.Wat

/-- An instruction without a body. -/
inductive Operation where
  | constant (value : BitVec 32)
  | add
  | sub
  | equal
  | unequal
  | load
  | store
  | get (kind : Addressing) (name : String)
  | set (kind : Addressing) (name : String)
  | call (name : String)
  | branchIf (label : String)
  deriving DecidableEq, Repr

/-- A sequence of instructions. -/
inductive Sequence where
  | done
  | perform (operation : Operation) (rest : Sequence)
  | block (label : String) (body rest : Sequence)
  | loop (label : String) (body rest : Sequence)
  deriving DecidableEq, Repr

/-- A sequence followed by a further one. -/
def Sequence.append : Sequence → Sequence → Sequence
  | done, next => next
  | perform operation rest, next => perform operation (rest.append next)
  | block label body rest, next => block label body (rest.append next)
  | loop label body rest, next => loop label body (rest.append next)

/-- The operation of a keyword that stands alone before its operands. -/
def Keyword.plain? : Keyword → Option Operation
  | add => some .add
  | sub => some .sub
  | equal => some .equal
  | unequal => some .unequal
  | load => some .load
  | store => some .store
  | _ => none

/-- The operation of a keyword with a name or a number after it. Numbers are taken modulo two to the
power of 32. -/
def Keyword.operation? : Keyword → Atom → Option Operation
  | constant, .number value => some (.constant (BitVec.ofNat 32 value))
  | get kind, .name name => some (.get kind name)
  | set kind, .name name => some (.set kind name)
  | call, .name name => some (.call name)
  | branchIf, .name label => some (.branchIf label)
  | _, _ => none

/-- An expression with a name or a number after its keyword, given the sequence inside it and the
one that follows. -/
def Keyword.labelled? (keyword : Keyword) (atom : Atom) (inner after : Sequence) :
    Option Sequence :=
  match keyword, atom with
  | block, .name label => some (.block label inner after)
  | loop, .name label => some (.loop label inner after)
  | _, _ => (keyword.operation? atom).map fun operation => inner.append (.perform operation after)

/-- The sequence of instructions that a row says. -/
def Row.sequence? : Row → Option Sequence
  | done => some .done
  | group (atom (.keyword keyword) (atom a operands)) rest => do
    let inner ← operands.sequence?
    let after ← rest.sequence?
    keyword.labelled? a inner after
  | group (atom (.keyword keyword) operands) rest => do
    let inner ← operands.sequence?
    let after ← rest.sequence?
    let operation ← keyword.plain?
    return inner.append (.perform operation after)
  | _ => none

/-- An empty row says nothing. -/
theorem Row.sequence?_done : done.sequence? = some .done := rfl

/-- Operands come before the instruction that they are folded into. -/
theorem Row.sequence?_plain {keyword : Keyword} {operation : Operation} {operands next : Row}
    {inner after : Sequence} (hkeyword : keyword.plain? = some operation)
    (hinner : operands.sequence? = some inner) (hafter : next.sequence? = some after) :
    (group (atom (.keyword keyword) operands) next).sequence? =
      some (inner.append (.perform operation after)) := by
  cases operands with
  | atom a rest => cases hinner
  | done =>
    cases hinner
    simp [sequence?, hafter, hkeyword]
  | group first rest => simp [sequence?, hinner, hafter, hkeyword]

/-- So they do if a name or a number is given, except for blocks and loops, which keep their bodies.
-/
theorem Row.sequence?_labelled (keyword : Keyword) (a : Atom) {operands next : Row}
    {inner after : Sequence} (hinner : operands.sequence? = some inner)
    (hafter : next.sequence? = some after) :
    (group (atom (.keyword keyword) (atom a operands)) next).sequence? =
      keyword.labelled? a inner after := by
  simp [sequence?, hinner, hafter]

/-- The sequence of instructions that a text says. -/
def sequence? (text : String) : Option Sequence :=
  (row? text).bind Row.sequence?

end BrainfuckWasm.Wat
