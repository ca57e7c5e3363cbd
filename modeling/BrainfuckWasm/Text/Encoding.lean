import BrainfuckWasm.Text.Wide

/-!
# Encodings of a document

A document tells its encoding by a byte order mark, or else by where zero bytes stand among its
first four: they belong to ASCII characters in units of two or four bytes. Without either it is
UTF-8. Surrogates are let through in every encoding, and everything else that is ill formed makes
the document undecodable.
-/

namespace BrainfuckWasm.Text

/-- The order of the bytes of a unit. -/
inductive ByteOrder where
  | big
  | little
  deriving DecidableEq, Repr

/-- The encoding of a document. -/
inductive Encoding where
  | utf8
  | utf16 (order : ByteOrder)
  | utf32 (order : ByteOrder)
  deriving DecidableEq, Repr

/-- The encoding that a byte order mark names, and the bytes after the mark. -/
def markedEncoding? : List UInt8 → Option (Encoding × List UInt8)
  | 0x00 :: 0x00 :: 0xFE :: 0xFF :: rest => some (.utf32 .big, rest)
  | 0xFF :: 0xFE :: 0x00 :: 0x00 :: rest => some (.utf32 .little, rest)
  | 0xFE :: 0xFF :: rest => some (.utf16 .big, rest)
  | 0xFF :: 0xFE :: rest => some (.utf16 .little, rest)
  | 0xEF :: 0xBB :: 0xBF :: rest => some (.utf8, rest)
  | _ => none

/-- The encoding of bytes without a byte order mark. -/
def unmarkedEncoding : List UInt8 → Encoding
  | a :: b :: c :: d :: _ =>
    if a = 0 then (if b = 0 then .utf32 .big else .utf16 .big)
    else if b = 0 then (if c = 0 && d = 0 then .utf32 .little else .utf16 .little)
    else .utf8
  | [a, b] => if a = 0 then .utf16 .big else if b = 0 then .utf16 .little else .utf8
  | _ => .utf8

/-- Whether a leading character that was read as a replacement stands for ill-formed bytes, and not
for the replacement character itself. -/
def isIllFormed (a : UInt8) (found : Char × Nat) : Bool :=
  found.1 = replacement && !(a = 0xEF && found.2 = 2)

/-- The surrogate that three bytes of the UTF-8 pattern spell. -/
def encodedSurrogate? (a : UInt8) : List UInt8 → Option Point
  | b :: c :: _ =>
    if a = 0xED && 0xA0 ≤ b && b ≤ 0xBF && isTail c then
      some (.ofNat (0xD000 + (b.toNat - 0x80) * 0x40 + (c.toNat - 0x80)))
    else none
  | _ => none

/-- Decode UTF-8 after code points read before, which are given in reverse, and after a number of
bytes that belong to the last of them. -/
def decodeWide8 (sofar : Wide) : Nat → List UInt8 → Option Wide
  | _, [] => some sofar.reverse
  | skipped + 1, _ :: rest => decodeWide8 sofar skipped rest
  | 0, a :: rest =>
    match encodedSurrogate? a rest with
    | some point => decodeWide8 (point :: sofar) 2 rest
    | none =>
      let found := leadingChar a rest
      if isIllFormed a found then none
      else decodeWide8 (.ofChar found.1 :: sofar) found.2 rest

/-- Units of two bytes after those read before, which are given in reverse. A byte alone is no
unit. -/
def units16? (order : ByteOrder) (sofar : List Nat) : List UInt8 → Option (List Nat)
  | [] => some sofar.reverse
  | [_] => none
  | a :: b :: rest =>
    let unit := match order with
      | .big => a.toNat * 0x100 + b.toNat
      | .little => b.toNat * 0x100 + a.toNat
    units16? order (unit :: sofar) rest

/-- Join surrogate pairs among 16-bit units, after code points read before in reverse. -/
def joinUnits (sofar : Wide) : List Nat → Wide
  | [] => sofar.reverse
  | [unit] => (Point.ofNat unit :: sofar).reverse
  | high :: low :: rest =>
    if Point.isHigh high && Point.isLow low then joinUnits (.ofPair high low :: sofar) rest
    else joinUnits (.ofNat high :: sofar) (low :: rest)

/-- Code points of four bytes each after those read before, which are given in reverse. -/
def decodeWide32 (order : ByteOrder) (sofar : Wide) : List UInt8 → Option Wide
  | [] => some sofar.reverse
  | a :: b :: c :: d :: rest =>
    let bytes := match order with
      | .big => [a, b, c, d]
      | .little => [d, c, b, a]
    let value := bytes.foldl (fun n byte => n * 0x100 + byte.toNat) 0
    if h : value < 0x110000 then decodeWide32 order (⟨value, h⟩ :: sofar) rest else none
  | _ => none

/-- The text of bytes in an encoding. -/
def Encoding.decode? (encoding : Encoding) (bytes : List UInt8) : Option Wide :=
  match encoding with
  | .utf8 => decodeWide8 [] 0 bytes
  | .utf16 order => (units16? order [] bytes).map (joinUnits [])
  | .utf32 order => decodeWide32 order [] bytes

/-- The text of a document in the encoding that it shows. -/
def decodeDocument? (bytes : List UInt8) : Option Wide :=
  match markedEncoding? bytes with
  | some (encoding, rest) => encoding.decode? rest
  | none => (unmarkedEncoding bytes).decode? bytes

end BrainfuckWasm.Text
