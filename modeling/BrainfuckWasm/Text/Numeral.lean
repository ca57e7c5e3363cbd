import BrainfuckWasm.Text.Blank
import BrainfuckWasm.Text.DecimalDigit

/-!
# Reading integers

An integer is a sign or none and decimal digits of any script, where a single underscore may stand
between two digits and padding around the whole. Leading zeros count as digits, of which there may
be only so many.
-/

namespace BrainfuckWasm.Text

/-- The greatest number of digits that a numeral may have. -/
def maxNumeralDigits : Nat := 4300

/-- The values of digits, with single underscores between them passed over. -/
def digitValues? : List Char → Option (List Nat)
  | [] => none
  | [c] => (digitValue? c).map ([·])
  | c :: '_' :: rest => do
    let first ← digitValue? c
    let others ← digitValues? rest
    return first :: others
  | c :: rest => do
    let first ← digitValue? c
    let others ← digitValues? rest
    return first :: others

/-- The number that digits spell. -/
def natOfDigits (digits : List Nat) : Nat :=
  digits.foldl (fun n digit => 10 * n + digit) 0

/-- The natural number that a numeral without sign and padding spells. -/
def unsigned? (cs : List Char) : Option Nat := do
  let digits ← digitValues? cs
  if digits.length ≤ maxNumeralDigits then some (natOfDigits digits) else none

/-- The integer that a text spells. -/
def integer? (s : String) : Option Int :=
  match trimBoth isNumeralPadding s.toList with
  | '-' :: rest => (unsigned? rest).map fun n => -(n : Int)
  | '+' :: rest => (unsigned? rest).map fun n => (n : Int)
  | rest => (unsigned? rest).map fun n => (n : Int)

end BrainfuckWasm.Text
