/-!
# Hexadecimal text

Lowercase hexadecimal digits of a number, and of a list of bytes two by two.
-/

namespace BrainfuckWasm.Text

/-- The lowercase hexadecimal digits of a number, filled up with zeros to a width. -/
def hexPadded (width n : Nat) : String :=
  let digits := Nat.toDigits 16 n
  String.ofList (List.replicate (width - digits.length) '0' ++ digits)

/-- The value of a hexadecimal digit of either case. -/
def hexValue? (c : Char) : Option Nat :=
  if '0' ≤ c ∧ c ≤ '9' then some (c.toNat - 0x30)
  else if 'a' ≤ c ∧ c ≤ 'f' then some (c.toNat - 0x57)
  else if 'A' ≤ c ∧ c ≤ 'F' then some (c.toNat - 0x37)
  else none

/-- Bytes as pairs of hexadecimal digits. -/
def hexOfBytes (bytes : List UInt8) : String :=
  String.join (bytes.map fun byte => hexPadded 2 byte.toNat)

/-- The bytes that pairs of hexadecimal digits spell. -/
def bytesOfHex? : List Char → Option (List UInt8)
  | [] => some []
  | high :: low :: rest => do
    let h ← hexValue? high
    let l ← hexValue? low
    let bytes ← bytesOfHex? rest
    return UInt8.ofNat (16 * h + l) :: bytes
  | [_] => none

end BrainfuckWasm.Text
