import Mathlib.Data.List.Infix
import BrainfuckWasm.Proofs.Numeral

/-!
# Reading a listing

A listing is the text of a body, cut into lines. A line is recognised by what it begins and ends
with, after its blanks are stripped: a move or a change by its amount, an output, an input, the
start or the end of a loop. The lines that prepare one of these or finish it say nothing by
themselves. Apart from that, labels are read where a line declares one or branches to it.

Reading works on any text. A number within a line is found again from the head and the tail around
its digits.
-/

namespace BrainfuckWasm

/-- A stretch of a source that is done as one: moves or changes in sum, or a single other symbol. -/
inductive Run where
  | moves (total : Int)
  | changes (total : Int)
  | output
  | input
  | loopStart
  | loopEnd
  deriving DecidableEq, Repr

namespace Listing

open Text

/-- The characters that end a line. -/
def isLineEnd (c : Char) : Bool :=
  let n := c.toNat
  (0x0A ≤ n && n ≤ 0x0D) || (0x1C ≤ n && n ≤ 0x1E) || n == 0x85 || n == 0x2028 || n == 0x2029

/-- Characters cut after each line end. -/
def cutLines : List Char → List (List Char)
  | [] => []
  | c :: rest =>
    if isLineEnd c then [c] :: cutLines rest
    else
      match cutLines rest with
      | [] => [[c]]
      | line :: lines => (c :: line) :: lines

/-- The lines of a text, each with its end. -/
def textLines (text : String) : List String :=
  (cutLines text.toList).map String.ofList

/-- The characters of a line between its blanks. -/
def core (line : String) : List Char :=
  trimBoth isBlank line.toList

/-- The number that digits spell, if there are any. -/
def numeral? (digits : List Char) : Option Nat :=
  if digits = [] then none else some (natOfDigits (digits.filterMap digitValue?))

/-- The number of the constant at the end of a text, before two closing parentheses or more. -/
def amount? (text : List Char) : Option Nat :=
  let back := text.reverse
  let inner := back.dropWhile (· == ')')
  if 2 ≤ (back.takeWhile (· == ')')).length ∧
      "(i32.const ".toList.isSuffixOf (inner.dropWhile isDecimalDigit).reverse then
    numeral? (inner.takeWhile isDecimalDigit).reverse
  else none

/-- The number between a head that a text begins with and a tail right after its digits. -/
def numberBetween? (head tail : String) (text : List Char) : Option Nat :=
  let rest := text.drop head.toList.length
  if head.toList.isPrefixOf text ∧ tail.toList.isPrefixOf (rest.dropWhile isDecimalDigit) then
    numeral? (rest.takeWhile isDecimalDigit)
  else none

/-- A magnitude with a sign. -/
def signed (up : Bool) (magnitude : Nat) : Int :=
  if up then magnitude else -magnitude

/-- What the line of a move begins with. -/
def moveHeads : List String :=
  ["(i32.add (local.get $ptr)", "(i32.sub (local.get $ptr)", "(i32.add (global.get $ptr)",
    "(i32.sub (global.get $ptr)"]

/-- What a stripped line does, if it does anything. A move or change without an amount cannot be
read. -/
def readCore (text : List Char) : Option (Option Run) :=
  if moveHeads.any fun head => head.toList.isPrefixOf text then
    (amount? text).map fun n => some (.moves (signed ("(i32.add".toList.isPrefixOf text) n))
  else if "(i32.store8 (i32.".toList.isPrefixOf text then
    (amount? text).map fun n =>
      some (.changes (signed ("(i32.store8 (i32.add".toList.isPrefixOf text) n))
  else if text = "(call $putChar)".toList then some (some .output)
  else if "(call $getChar))".toList.isSuffixOf text then some (some .input)
  else if "(block".toList.isPrefixOf text then some (some .loopStart)
  else if "(br_if".toList.isPrefixOf text ∧ "i32.ne".toList <:+: text then some (some .loopEnd)
  else some none

/-- What lines do, one after another. -/
def readLines : List String → Option (List Run)
  | [] => some []
  | line :: rest => do
    let first ← readCore (core line)
    let others ← readLines rest
    return first.toList ++ others

/-- What a body does, as its text shows it. -/
def decode (text : String) : Option (List Run) :=
  readLines (textLines text)

/-- How a line uses a label: a block or a loop declares it, or a branch goes there if the cell is
zero or unless it is. -/
inductive MarkKind where
  | block
  | loop
  | entry
  | again
  deriving DecidableEq, Repr

/-- A label in a line. -/
structure Mark where
  kind : MarkKind
  label : Nat
  deriving DecidableEq, Repr

/-- The label of a stripped line. -/
def mark? (text : List Char) : Option Mark :=
  ((numberBetween? "(block $label$" "" text).map (Mark.mk .block)).or <|
    ((numberBetween? "(loop $label$" "" text).map (Mark.mk .loop)).or <|
      ((numberBetween? "(br_if $label$" " (i32.eq" text).map (Mark.mk .entry)).or
        ((numberBetween? "(br_if $label$" " (i32.ne" text).map (Mark.mk .again))

/-- The labels of a text, line by line. -/
def marks (text : String) : List Mark :=
  (textLines text).filterMap fun line => mark? (core line)

/-! ## Numbers in a line -/

/-- A number between two texts. -/
def numbered (head : String) (n : Nat) (tail : String) : List Char :=
  head.toList ++ (Nat.toDigits 10 n ++ tail.toList)

/-- A number is read back from its digits. -/
theorem numeral?_toDigits (n : Nat) : numeral? (Nat.toDigits 10 n) = some n := by
  have hvalues : (Nat.toDigits 10 n).filterMap digitValue? =
      (Nat.toDigits 10 n).map fun c => c.toNat - '0'.toNat := by
    rw [← List.filterMap_eq_map]
    exact List.filterMap_congr fun c h => digitValue?_of_isDigit (isDigit_of_mem h)
  rw [numeral?, if_neg Nat.toDigits_ne_nil, hvalues, natOfDigits_toDigits]

/-- What is no digit and neither in the head nor in the tail is not in the whole. -/
theorem not_mem_numbered {c : Char} {head tail : String} (n : Nat) (hc : c.isDigit = false)
    (hhead : c ∉ head.toList) (htail : c ∉ tail.toList) : c ∉ numbered head n tail := by
  have hdigits : c ∉ Nat.toDigits 10 n := fun h => by
    rw [isDigit_of_mem h] at hc
    cases hc
  simp [numbered, hhead, hdigits, htail]

/-- A text is cut where a class of characters ends. -/
theorem while_append {drop : Char → Bool} {first rest : List Char}
    (hfirst : ∀ c ∈ first, drop c = true) (hrest : ∀ c ∈ rest.head?, drop c = false) :
    (first ++ rest).takeWhile drop = first ∧ (first ++ rest).dropWhile drop = rest := by
  rw [List.takeWhile_append_of_pos hfirst, List.dropWhile_append_of_pos hfirst]
  cases rest with
  | nil => simp
  | cons c rest => simp [hrest c rfl]

/-- The amount of a line is the number before its last parentheses. -/
theorem amount?_numbered (before : List Char) (n : Nat) {tail : String}
    (htail : tail = "))" ∨ tail = ")))") :
    amount? (before ++ numbered "(i32.const " n tail) = some n := by
  -- Read from its end, a line is parentheses, the digits from last to first, and what is before.
  obtain ⟨count, hcount, hback⟩ : ∃ count, 2 ≤ count ∧
      (before ++ numbered "(i32.const " n tail).reverse =
        List.replicate count ')' ++ ((Nat.toDigits 10 n).reverse ++
          (before ++ "(i32.const ".toList).reverse) := by
    rcases htail with rfl | rfl
    · exact ⟨2, by decide, by simp [numbered]⟩
    · exact ⟨3, by decide, by simp [numbered]⟩
  have hdigits : ∀ c ∈ ((Nat.toDigits 10 n).reverse ++
      (before ++ "(i32.const ".toList).reverse).head?, (c == ')') = false := by
    intro c hc
    rw [List.head?_append_of_ne_nil _ (by simp), List.head?_reverse] at hc
    rw [beq_eq_false_iff_ne]
    rintro rfl
    cases isDigit_of_mem (List.mem_of_getLast? hc)
  have hblank : ∀ c ∈ (before ++ "(i32.const ".toList).reverse.head?, isDecimalDigit c = false := by
    intro c hc
    rw [List.head?_reverse, List.getLast?_append_of_ne_nil _ (by decide)] at hc
    obtain rfl : ' ' = c := Option.mem_some.mp hc
    decide
  have hclosing (c : Char) (h : c ∈ List.replicate count ')') : (c == ')') = true := by
    rw [List.eq_of_mem_replicate h]
    rfl
  have hdecimal (c : Char) (h : c ∈ (Nat.toDigits 10 n).reverse) : isDecimalDigit c = true :=
    isDecimalDigit_of_mem (List.mem_reverse.mp h)
  obtain ⟨htake, hdrop⟩ := while_append hclosing hdigits
  obtain ⟨htakeDigits, hdropDigits⟩ := while_append hdecimal hblank
  have hsuffix : "(i32.const ".toList.isSuffixOf (before ++ "(i32.const ".toList) = true :=
    List.isSuffixOf_iff_suffix.mpr (List.suffix_append _ _)
  simp only [amount?, hback, htake, hdrop, htakeDigits, hdropDigits, hsuffix,
    List.length_replicate, hcount, List.reverse_reverse, and_self, if_true, numeral?_toDigits]

/-- The number of a line is the one after its head, if the tail is right. -/
theorem numberBetween?_numbered (head expected : String) (n : Nat) {tail : String}
    (htail : ∀ c ∈ tail.toList.head?, isDecimalDigit c = false) :
    numberBetween? head expected (numbered head n tail) =
      if expected.toList.isPrefixOf tail.toList then some n else none := by
  obtain ⟨htake, hdrop⟩ := while_append (fun c => isDecimalDigit_of_mem (n := n)) htail
  have hhead : head.toList.isPrefixOf (numbered head n tail) = true :=
    List.isPrefixOf_iff_prefix.mpr (List.prefix_append _ _)
  have hrest : (numbered head n tail).drop head.toList.length =
      Nat.toDigits 10 n ++ tail.toList := List.drop_left
  simp only [numberBetween?, hhead, hrest, htake, hdrop, true_and, numeral?_toDigits]

end Listing

end BrainfuckWasm
