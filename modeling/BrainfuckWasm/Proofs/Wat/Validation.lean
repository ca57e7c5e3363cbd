import BrainfuckWasm.Proofs.Wat.BodyText

/-!
# Checks on instruction sequences

Four things are checked of a sequence: its labels, the labels that its branches go to, the names
that its instructions mention, and the height of the operand stack. Every value is a 32-bit word, so
the height is all that there is to the type of a stack. A block or a loop sees none of the operands
outside it and has to leave as many as it found, and a branch takes none with it.

The instructions of fused code leave all of these as they are for what follows them.
-/

namespace BrainfuckWasm

namespace Wat

/-- How many values a function takes from the stack and how many it leaves there. -/
structure Signature where
  parameters : Nat
  results : Nat
  deriving DecidableEq, Repr

/-- How an operation changes the stack, given the signatures of functions. -/
def Operation.signature? (functions : String → Option Signature) : Operation → Option Signature
  | constant _ => some ⟨0, 1⟩
  | add => some ⟨2, 1⟩
  | sub => some ⟨2, 1⟩
  | equal => some ⟨2, 1⟩
  | unequal => some ⟨2, 1⟩
  | load => some ⟨1, 1⟩
  | store => some ⟨2, 0⟩
  | get _ _ => some ⟨0, 1⟩
  | set _ _ => some ⟨1, 0⟩
  | call name => functions name
  | branchIf _ => some ⟨1, 0⟩

namespace Sequence

/-- The labels of all blocks and loops. -/
def labels : Sequence → List String
  | done => []
  | perform _ rest => rest.labels
  | block label body rest => label :: (body.labels ++ rest.labels)
  | loop label body rest => label :: (body.labels ++ rest.labels)

/-- All operations, also those of bodies. -/
def operations : Sequence → List Operation
  | done => []
  | perform operation rest => operation :: rest.operations
  | block _ body rest => body.operations ++ rest.operations
  | loop _ body rest => body.operations ++ rest.operations

/-- Every branch goes to the label of a block or a loop around it, or to one of the given ones. -/
def BranchesWithin (enclosing : List String) : Sequence → Prop
  | done => True
  | perform operation rest =>
    (∀ label, operation = .branchIf label → label ∈ enclosing) ∧ rest.BranchesWithin enclosing
  | block label body rest => body.BranchesWithin (label :: enclosing) ∧ rest.BranchesWithin enclosing
  | loop label body rest => body.BranchesWithin (label :: enclosing) ∧ rest.BranchesWithin enclosing

/-- The height of the stack after a sequence that starts at some height, unless it takes a value
from an empty stack or a body does not end as empty as it starts. -/
def height (functions : String → Option Signature) (start : Nat) : Sequence → Option Nat
  | done => some start
  | perform operation rest =>
    match operation.signature? functions with
    | none => none
    | some signature =>
      if signature.parameters ≤ start then
        rest.height functions (start - signature.parameters + signature.results)
      else none
  | block _ body rest =>
    if body.height functions 0 = some 0 then rest.height functions start else none
  | loop _ body rest =>
    if body.height functions 0 = some 0 then rest.height functions start else none

end Sequence

end Wat

open Wat Body

namespace Code

/-- A change is an addition or a subtraction. -/
theorem changeOperation_eq_or (amount : Int) :
    changeOperation amount = .add ∨ changeOperation amount = .sub := by
  by_cases h : amount > 0
  · exact Or.inl (if_pos h)
  · exact Or.inr (if_neg h)

/-- The labels of code are numbered without gaps from the given one on. -/
theorem labels_sequence (mode : Addressing) (label : Nat) (next : Sequence) (code : Code) :
    (code.sequence mode label next).labels =
      (List.range' label code.labels).map labelText ++ next.labels := by
  induction code generalizing label next with
  | done => rfl
  | move amount rest ih | change amount rest ih | output rest ih | input rest ih => exact ih label next
  | loop body rest ihbody ihrest =>
    have hrange : List.range' label (2 + body.labels + rest.labels) =
        label :: (label + 1) :: (List.range' (label + 2) body.labels ++
          List.range' (label + 2 + body.labels) rest.labels) := by
      rw [List.range'_append_1, Nat.add_assoc, Nat.add_comm 2]
      rfl
    simp only [sequence, branchThen, cellThen, Sequence.labels, ihbody, ihrest, Code.labels, hrange,
      List.map_cons, List.map_append, List.cons_append, List.append_nil, List.append_assoc]

/-- Distinct labels have distinct names. -/
theorem labelText_injective : Function.Injective labelText := by
  intro first second h
  have hlist := congrArg String.toList h
  rw [labelText, labelText, String.toList_append, String.toList_append, List.append_cancel_left_eq,
    toList_toString, toList_toString] at hlist
  exact toDigits_inj hlist

/-- The branches of code stay within it. -/
theorem branchesWithin_sequence (mode : Addressing) (label : Nat) {next : Sequence}
    {enclosing : List String} (h : next.BranchesWithin enclosing) (code : Code) :
    (code.sequence mode label next).BranchesWithin enclosing := by
  induction code generalizing label next enclosing with
  | done => exact h
  | move amount rest ih | change amount rest ih =>
    have hrest := ih label h
    rcases changeOperation_eq_or amount with hchange | hchange <;>
      simpa [sequence, changeThen, cellThen, Sequence.BranchesWithin, hchange] using hrest
  | output rest ih | input rest ih =>
    simpa [sequence, cellThen, Sequence.BranchesWithin] using ih label h
  | loop body rest ihbody ihrest =>
    have hagain : (branchThen mode .unequal (label + 1) .done).BranchesWithin
        (labelText (label + 1) :: labelText label :: enclosing) := by
      simp [branchThen, cellThen, Sequence.BranchesWithin]
    have hleave (inner : Sequence) (hinner : inner.BranchesWithin (labelText label :: enclosing)) :
        (branchThen mode .equal label inner).BranchesWithin (labelText label :: enclosing) := by
      simpa [branchThen, cellThen, Sequence.BranchesWithin] using hinner
    exact ⟨hleave _ ⟨ihbody (label + 2) hagain, trivial⟩, ihrest _ h⟩

/-- An operation that accesses no variable but the pointer of a mode and calls no function but the
two of the host. -/
def Fits (mode : Addressing) : Operation → Prop
  | .get kind name => kind = mode ∧ name = "$ptr"
  | .set kind name => kind = mode ∧ name = "$ptr"
  | .call name => name = "$putChar" ∨ name = "$getChar"
  | _ => True

/-- All operations of code fit its mode. -/
theorem fits_sequence (mode : Addressing) (label : Nat) {next : Sequence}
    (h : ∀ operation ∈ next.operations, Fits mode operation) (code : Code) :
    ∀ operation ∈ (code.sequence mode label next).operations, Fits mode operation := by
  induction code generalizing label next with
  | done => exact h
  | move amount rest ih | change amount rest ih =>
    have hrest := ih label h
    rcases changeOperation_eq_or amount with hchange | hchange <;>
      simpa [sequence, changeThen, cellThen, Sequence.operations, Fits, hchange] using hrest
  | output rest ih | input rest ih =>
    simpa [sequence, cellThen, Sequence.operations, Fits] using ih label h
  | loop body rest ihbody ihrest =>
    have hagain : ∀ operation ∈ (branchThen mode .unequal (label + 1) .done).operations,
        Fits mode operation := by
      simp [branchThen, cellThen, Sequence.operations, Fits]
    have hbody := ihbody (label + 2) hagain
    have hrest := ihrest (label + 2 + body.labels) h
    rw [sequence, branchThen, cellThen]
    simp only [Sequence.operations, List.append_nil, List.cons_append, List.forall_mem_cons,
      List.forall_mem_append]
    exact ⟨⟨rfl, rfl⟩, trivial, trivial, trivial, trivial, hbody, hrest⟩

/-- Code leaves the stack as high as it finds it. -/
theorem height_sequence {functions : String → Option Signature} (mode : Addressing)
    (hput : functions "$putChar" = some ⟨1, 0⟩) (hget : functions "$getChar" = some ⟨0, 1⟩)
    (label : Nat) (next : Sequence) (start : Nat) (code : Code) :
    (code.sequence mode label next).height functions start = next.height functions start := by
  induction code generalizing label next start with
  | done => rfl
  | move amount rest ih | change amount rest ih =>
    rcases changeOperation_eq_or amount with hchange | hchange <;>
      simp [sequence, changeThen, cellThen, Sequence.height, Operation.signature?, hchange, ih]
  | output rest ih | input rest ih =>
    simp [sequence, cellThen, Sequence.height, Operation.signature?, hput, hget, ih]
  | loop body rest ihbody ihrest =>
    simp [sequence, branchThen, cellThen, Sequence.height, Operation.signature?, ihbody, ihrest]

end Code

end BrainfuckWasm
