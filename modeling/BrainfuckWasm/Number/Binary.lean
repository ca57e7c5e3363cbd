/-!
# Decimals and their nearest binary numbers

A decimal is a sign, a natural number and a power of ten. It stands for the binary number nearest to
it that has a significand of 53 bits and an exponent of at least -1074; of two equally near ones the
even significand wins. A decimal that is nearer to the first power of two beyond that range than to
the greatest number in it stands for an infinity.
-/

namespace BrainfuckWasm

/-- The number `coefficient * 10 ^ exponent` with a sign. -/
structure Decimal where
  negative : Bool
  coefficient : Nat
  exponent : Int
  deriving DecidableEq, Repr

/-- The number `significand * 2 ^ exponent`. -/
structure Binary where
  significand : Nat
  exponent : Int
  deriving DecidableEq, Repr

namespace Binary

/-- The least exponent. -/
def minExponent : Int := -1074

/-- The greatest exponent of a full significand. -/
def maxExponent : Int := 971

/-- The nearest natural number to a fraction; of two equally near ones the even one. -/
def roundDivide (numerator denominator : Nat) : Nat :=
  let quotient := numerator / denominator
  let twice := 2 * (numerator % denominator)
  if twice < denominator then quotient
  else if denominator < twice then quotient + 1
  else if quotient % 2 = 0 then quotient
  else quotient + 1

/-- Whether a fraction is at least a power of two. -/
def reaches (numerator denominator : Nat) (power : Int) : Bool :=
  denominator * Nat.pow 2 power.toNat ≤ numerator * Nat.pow 2 (-power).toNat

/-- The greatest power of two that a positive fraction reaches. -/
def logTwo (numerator denominator : Nat) : Int :=
  let estimate : Int := numerator.log2 - denominator.log2
  if reaches numerator denominator estimate then estimate else estimate - 1

/-- The binary number nearest to a positive fraction, unless that is infinite. -/
def ofFraction? (numerator denominator : Nat) : Option Binary :=
  let exponent := max minExponent (logTwo numerator denominator - 52)
  let significand :=
    roundDivide (numerator * Nat.pow 2 (-exponent).toNat) (denominator * Nat.pow 2 exponent.toNat)
  let rounded : Binary :=
    if significand = Nat.pow 2 53 then ⟨Nat.pow 2 52, exponent + 1⟩ else ⟨significand, exponent⟩
  if maxExponent < rounded.exponent then none else some rounded

/-- The numerator of a binary number as a fraction. -/
def numerator (number : Binary) : Nat :=
  number.significand * Nat.pow 2 number.exponent.toNat

/-- The denominator of a binary number as a fraction. -/
def denominator (number : Binary) : Nat :=
  Nat.pow 2 (-number.exponent).toNat

end Binary

/-- The magnitude of the binary number that a decimal stands for, unless that is infinite. Decimals
far beyond the range are told by the place of their first digit. -/
def Decimal.magnitude? (decimal : Decimal) : Option Binary :=
  let place := (Nat.toDigits 10 decimal.coefficient).length + decimal.exponent
  if decimal.coefficient = 0 || place < -330 then some ⟨0, Binary.minExponent⟩
  else if 320 < place then none
  else
    Binary.ofFraction? (decimal.coefficient * Nat.pow 10 decimal.exponent.toNat)
      (Nat.pow 10 (-decimal.exponent).toNat)

end BrainfuckWasm
