/-!
# UTF-8 with replacement

Decoding accepts every list of bytes. A well-formed sequence gives its character. Elsewhere the
longest run of bytes that starts some well-formed sequence, or else a single byte, gives one
replacement character, and decoding goes on with the byte after it. So a byte below `0x80` is never
lost: it always stands for its own character.
-/

namespace BrainfuckWasm.Text

/-- The character that stands for bytes that are not well formed. -/
def replacement : Char := '\uFFFD'

/-- Whether a byte can continue a sequence. -/
def isTail (b : UInt8) : Bool :=
  0x80 ≤ b && b ≤ 0xBF

/-- Whether a byte can be the second of a three-byte sequence: this shuts out overlong forms and
surrogates. -/
def isSecondOfThree (a b : UInt8) : Bool :=
  if a = 0xE0 then 0xA0 ≤ b && b ≤ 0xBF
  else if a = 0xED then 0x80 ≤ b && b ≤ 0x9F
  else isTail b

/-- Whether a byte can be the second of a four-byte sequence: this shuts out overlong forms and
code points that are too large. -/
def isSecondOfFour (a b : UInt8) : Bool :=
  if a = 0xF0 then 0x90 ≤ b && b ≤ 0xBF
  else if a = 0xF4 then 0x80 ≤ b && b ≤ 0x8F
  else isTail b

/-- The character whose code point has the given bits of a first byte and of tails. -/
def joinBits (first : Nat) (tails : List UInt8) : Char :=
  Char.ofNat (tails.foldl (fun n b => n * 0x40 + (b.toNat - 0x80)) first)

/-- The character at the start of some bytes, and how many bytes it takes after the first: those
of a well-formed sequence, or those that continue a sequence which then breaks off. -/
def leadingChar (a : UInt8) (rest : List UInt8) : Char × Nat :=
  if a < 0x80 then (Char.ofNat a.toNat, 0)
  else if 0xC2 ≤ a && a ≤ 0xDF then
    match rest with
    | [] => (replacement, 0)
    | b :: _ => if isTail b then (joinBits (a.toNat - 0xC0) [b], 1) else (replacement, 0)
  else if 0xE0 ≤ a && a ≤ 0xEF then
    match rest with
    | [] => (replacement, 0)
    | b :: more =>
      if isSecondOfThree a b then
        match more with
        | [] => (replacement, 1)
        | c :: _ => if isTail c then (joinBits (a.toNat - 0xE0) [b, c], 2) else (replacement, 1)
      else (replacement, 0)
  else if 0xF0 ≤ a && a ≤ 0xF4 then
    match rest with
    | [] => (replacement, 0)
    | b :: more =>
      if isSecondOfFour a b then
        match more with
        | [] => (replacement, 1)
        | c :: last =>
          if isTail c then
            match last with
            | [] => (replacement, 2)
            | d :: _ =>
              if isTail d then (joinBits (a.toNat - 0xF0) [b, c, d], 3) else (replacement, 2)
          else (replacement, 1)
      else (replacement, 0)
  else (replacement, 0)

/-- The characters that bytes spell, after characters read before, which are given in reverse, and
after a number of bytes that belong to the last of them. -/
def decodeUtf8After (sofar : List Char) : Nat → List UInt8 → List Char
  | _, [] => sofar.reverse
  | skipped + 1, _ :: rest => decodeUtf8After sofar skipped rest
  | 0, a :: rest =>
    decodeUtf8After ((leadingChar a rest).1 :: sofar) (leadingChar a rest).2 rest

/-- The characters that bytes spell, with replacements where they are not well formed. -/
def decodeUtf8 (bytes : List UInt8) : List Char :=
  decodeUtf8After [] 0 bytes

/-- Characters read before stand in front and change nothing else. -/
theorem decodeUtf8After_eq_append (sofar : List Char) (skipped : Nat) (bytes : List UInt8) :
    decodeUtf8After sofar skipped bytes = sofar.reverse ++ decodeUtf8After [] skipped bytes := by
  induction bytes generalizing sofar skipped with
  | nil => simp [decodeUtf8After]
  | cons a rest ih =>
    cases skipped with
    | succ skipped => exact ih sofar skipped
    | zero =>
      rw [decodeUtf8After, decodeUtf8After, ih, ih [_]]
      simp

/-- Bytes are decoded one leading character at a time. -/
theorem decodeUtf8_cons (a : UInt8) (rest : List UInt8) :
    decodeUtf8 (a :: rest) =
      (leadingChar a rest).1 :: decodeUtf8After [] (leadingChar a rest).2 rest := by
  rw [decodeUtf8, decodeUtf8After, decodeUtf8After_eq_append]
  simp

/-- The bytes that spell characters. -/
def encodeUtf8 (cs : List Char) : List UInt8 :=
  cs.flatMap String.utf8EncodeChar

/-- The text of bytes, with replacements where they are not well formed. -/
def textOfBytes (bytes : List UInt8) : String :=
  String.ofList (decodeUtf8 bytes)

/-- The bytes of a text. -/
def bytesOfText (s : String) : List UInt8 :=
  encodeUtf8 s.toList

/-- The text of bytes that are well formed. -/
def textOfBytes? (bytes : List UInt8) : Option String :=
  let text := textOfBytes bytes
  if bytesOfText text == bytes then some text else none

end BrainfuckWasm.Text
