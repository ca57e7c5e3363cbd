import BrainfuckWasm.Number.Binary

/-!
# The shortest decimal of a binary number

A binary number is written with the fewest digits that stand for it again, and among decimals of
that length with the nearest one. Numbers whose first digit stands from four places after the point
to sixteen places before it are written out, all others with an exponent of two digits or more.
-/

namespace BrainfuckWasm.Binary

/-- The number of digits before the point, counted below zero by the zeros that follow the point of
a number less than a tenth. -/
def leadingPlace (number : Binary) : Int :=
  let whole := number.numerator / number.denominator
  if 0 < whole then (Nat.toDigits 10 whole).length
  else
    let zeros := (List.range 400).find? fun shift =>
      number.denominator ≤ number.numerator * Nat.pow 10 (shift + 1)
    Int.negOfNat (zeros.getD 0)

/-- Whether a decimal stands for a number. -/
def isRead (number : Binary) (coefficient : Nat) (exponent : Int) : Bool :=
  Decimal.magnitude? ⟨false, coefficient, exponent⟩ = some number

/-- The better of the two multiples of a power of ten around a number, if one stands for it. -/
def onGrid? (number : Binary) (exponent : Int) : Option Decimal :=
  let scaled := number.numerator * Nat.pow 10 (-exponent).toNat
  let unit := number.denominator * Nat.pow 10 exponent.toNat
  let below := scaled / unit
  let nearest := roundDivide scaled unit
  let other := if nearest = below then below + 1 else below
  if number.isRead nearest exponent then some ⟨false, nearest, exponent⟩
  else if number.isRead other exponent then some ⟨false, other, exponent⟩
  else none

/-- A decimal without the zeros at the end of its coefficient, of which at most so many are looked
at. -/
def dropZeros : Nat → Decimal → Decimal
  | 0, decimal => decimal
  | fuel + 1, decimal =>
    if decimal.coefficient ≠ 0 && decimal.coefficient % 10 = 0 then
      dropZeros fuel ⟨decimal.negative, decimal.coefficient / 10, decimal.exponent + 1⟩
    else decimal

/-- The shortest decimal that stands for a positive number. Seventeen digits are always enough. -/
def shortest (number : Binary) : Decimal :=
  let place := number.leadingPlace
  let found := (List.range 17).findSome? fun digits => number.onGrid? (place - (digits + 1 : Nat))
  dropZeros 20 (found.getD ⟨false, 0, 0⟩)

/-- Digits with a point after some of them, which may be fewer than none or more than all. -/
def pointAfter (digits : List Char) (place : Int) : List Char :=
  if place ≤ 0 then '0' :: '.' :: List.replicate (-place).toNat '0' ++ digits
  else if place < digits.length then
    digits.take place.toNat ++ '.' :: digits.drop place.toNat
  else digits ++ List.replicate (place.toNat - digits.length) '0' ++ ['.', '0']

/-- An exponent with its sign and at least two digits. -/
def exponentText (exponent : Int) : List Char :=
  let digits := Nat.toDigits 10 exponent.natAbs
  (if exponent < 0 then '-' else '+') :: List.replicate (2 - digits.length) '0' ++ digits

/-- A positive number as text. -/
def text (number : Binary) : List Char :=
  let decimal := number.shortest
  let digits := Nat.toDigits 10 decimal.coefficient
  let place : Int := digits.length + decimal.exponent
  if -4 < place && place ≤ 16 then pointAfter digits place
  else
    let head := match digits with
      | first :: second :: rest => first :: '.' :: second :: rest
      | short => short
    head ++ 'e' :: exponentText (place - 1)

end BrainfuckWasm.Binary

namespace BrainfuckWasm

/-- The number that a decimal stands for, as text. -/
def Decimal.text (decimal : Decimal) : List Char :=
  let magnitude := match decimal.magnitude? with
    | none => "inf".toList
    | some number => if number.significand = 0 then "0.0".toList else number.text
  if decimal.negative then '-' :: magnitude else magnitude

end BrainfuckWasm
