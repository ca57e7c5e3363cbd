import BrainfuckWasm.Json
import BrainfuckWasm.Text.Encoding

/-!
# Reading JSON

The reader takes JSON as it stands: no comments, no trailing commas, no control characters in
strings, nothing but blanks around the value. Beyond that it takes the words `NaN`, `Infinity` and
`-Infinity`, and escapes of surrogates that belong to no pair. A document that cannot be decoded, an
integer of too many digits and a value that is nested too deep are refused for a reason of their
own, as soon as they are met.
-/

namespace BrainfuckWasm.Json

open Text (Point Wide)

/-- Why a document is not read. -/
inductive ReadError where
  | undecodable
  | malformed
  | integerTooLong
  | nestedTooDeep
  deriving DecidableEq, Repr

/-- The greatest number of digits of an integer. -/
def maxIntegerDigits : Nat := 4300

/-- Whether a character may stand between the parts of a value. -/
def isBlank (c : Char) : Bool :=
  c = ' ' || c = '\t' || c = '\n' || c = '\r'

/-- A text without the blanks at its start. -/
def skipBlank (cs : Wide) : Wide :=
  cs.dropWhile fun point => isBlank point.char

/-- What follows a word at the start of a text. -/
def dropWord? : List Char → Wide → Option Wide
  | [], cs => some cs
  | _ :: _, [] => none
  | c :: word, point :: rest => if point.char = c then dropWord? word rest else none

/-- The value of four hexadecimal digits. -/
def hexUnit? (a b c d : Point) : Option Nat := do
  let a ← Text.hexValue? a.char
  let b ← Text.hexValue? b.char
  let c ← Text.hexValue? c.char
  let d ← Text.hexValue? d.char
  return ((a * 16 + b) * 16 + c) * 16 + d

/-- The character that a backslash and a letter stand for. -/
def escaped? : Char → Option Char
  | '"' => some '"'
  | '\\' => some '\\'
  | '/' => some '/'
  | 'b' => some '\x08'
  | 'f' => some '\x0c'
  | 'n' => some '\n'
  | 'r' => some '\r'
  | 't' => some '\t'
  | _ => none

/-- The second half of a surrogate pair at the start of a text, where an escape of it stands. -/
inductive SecondHalf where
  | absent
  | broken
  | escape (unit : Nat)
  deriving DecidableEq, Repr

/-- The escape at the start of a text, as a candidate for the second half of a pair. -/
def secondHalf : Wide → SecondHalf
  | slash :: letter :: a :: b :: c :: d :: _ =>
    if slash.char = '\\' && letter.char = 'u' then
      match hexUnit? a b c d with
      | some unit => .escape unit
      | none => .broken
    else .absent
  | _ => .absent

/-- The code point that an escape stands for after its backslash, and how many code points it takes
there. -/
def escapeAt? : Wide → Option (Point × Nat)
  | [] => none
  | letter :: rest =>
    if letter.char = 'u' then
      match rest with
      | a :: b :: c :: d :: after =>
        match hexUnit? a b c d with
        | none => none
        | some unit =>
          if Point.isHigh unit then
            match secondHalf after with
            | .broken => none
            | .absent => some (.ofNat unit, 5)
            | .escape second =>
              if Point.isLow second then some (.ofPair unit second, 11) else some (.ofNat unit, 5)
          else some (.ofNat unit, 5)
      | _ => none
    else (escaped? letter.char).map fun c => (.ofChar c, 1)

/-- Read the rest of a string after its opening quote: the text and what follows. The text read so
far is given in reverse, and so many code points belong to the last escape. -/
def readString (sofar : Wide) : Nat → Wide → Except ReadError (Wide × Wide)
  | _, [] => .error .malformed
  | skipped + 1, _ :: rest => readString sofar skipped rest
  | 0, point :: rest =>
    if point.char = '"' then .ok (sofar.reverse, rest)
    else if point.char = '\\' then
      match escapeAt? rest with
      | none => .error .malformed
      | some (found, taken) => readString (found :: sofar) taken rest
    else if point.value < 0x20 then .error .malformed
    else readString (point :: sofar) 0 rest

/-- Whether a code point is a decimal digit. -/
def isDigit (point : Point) : Bool :=
  point.char.isDigit

/-- Split off the digits at the start of a text. -/
def takeDigits (cs : Wide) : Wide × Wide :=
  (cs.takeWhile isDigit, cs.dropWhile isDigit)

/-- The number that digits spell. -/
def natOfDigits (digits : Wide) : Nat :=
  digits.foldl (fun n point => 10 * n + (point.value - 0x30)) 0

/-- Read the whole part of a number: a zero, or digits that do not start with one. -/
def readWhole? (cs : Wide) : Option (Wide × Wide) :=
  match takeDigits cs with
  | ([], _) => none
  | (first :: digits, rest) =>
    if first.char = '0' then some ([first], digits ++ rest) else some (first :: digits, rest)

/-- Read the digits of a fraction, if there is one. -/
def readFraction (cs : Wide) : Wide × Wide :=
  match dropWord? ['.'] cs with
  | none => ([], cs)
  | some rest =>
    match takeDigits rest with
    | ([], _) => ([], cs)
    | found => found

/-- Read an exponent, if there is one. -/
def readExponent (cs : Wide) : Option Int × Wide :=
  match cs with
  | [] => (none, [])
  | mark :: rest =>
    if mark.char = 'e' || mark.char = 'E' then
      let (negative, digitsOn) := match dropWord? ['+'] rest, dropWord? ['-'] rest with
        | some after, _ => (false, after)
        | none, some after => (true, after)
        | none, none => (false, rest)
      match takeDigits digitsOn with
      | ([], _) => (none, cs)
      | (digits, after) =>
        let size : Int := natOfDigits digits
        (some (if negative then -size else size), after)
    else (none, cs)

/-- The number that a decimal stands for. -/
def numberOfDecimal (decimal : Decimal) : Number :=
  if decimal.magnitude?.isNone then .infinite decimal.negative else .decimal decimal

/-- Read a number: its value and what follows. -/
def readNumber (cs : Wide) : Except ReadError (Number × Wide) :=
  let (negative, start) := match dropWord? ['-'] cs with
    | some rest => (true, rest)
    | none => (false, cs)
  match readWhole? start with
  | none => .error .malformed
  | some (whole, rest) =>
    let (fraction, rest) := readFraction rest
    let (exponent, rest) := readExponent rest
    match fraction, exponent with
    | [], none =>
      if maxIntegerDigits < whole.length then .error .integerTooLong
      else
        let size : Int := natOfDigits whole
        .ok (.integer (if negative then -size else size), rest)
    | _, _ =>
      let coefficient := natOfDigits (whole ++ fraction)
      let power := exponent.getD 0 - fraction.length
      .ok (numberOfDecimal ⟨negative, coefficient, power⟩, rest)

/-- The words that are values. -/
def wordValues : List (String × Json) :=
  [("null", .null), ("true", .bool true), ("false", .bool false),
    ("NaN", .number .undefined), ("Infinity", .number (.infinite false)),
    ("-Infinity", .number (.infinite true))]

/-- The value that a word at the start of a text stands for, and what follows. -/
def readWord? (cs : Wide) : Option (Json × Wide) :=
  wordValues.findSome? fun (word, value) => (dropWord? word.toList cs).map fun rest => (value, rest)

/-- Read a value that is no array and no object. -/
def readPlain (cs : Wide) : Except ReadError (Json × Wide) :=
  match dropWord? ['"'] cs with
  | some rest => (readString [] 0 rest).map fun (text, after) => (.string text, after)
  | none =>
    match readWord? cs with
    | some found => .ok found
    | none => (readNumber cs).map fun (value, after) => (.number value, after)

mutual

/-- Read a value and what follows it. The fuel bounds the number of values and commas, and the
depth the arrays and objects that may still be entered. -/
def readValue : Nat → Nat → Wide → Except ReadError (Json × Wide)
  | 0, _, _ => .error .malformed
  | fuel + 1, depth, cs =>
    let start := skipBlank cs
    match dropWord? ['\x7b'] start, dropWord? ['['] start with
    | some rest, _ =>
      match depth with
      | 0 => .error .nestedTooDeep
      | inner + 1 =>
        match dropWord? ['\x7d'] (skipBlank rest) with
        | some after => .ok (.object [], after)
        | none => readMembers fuel inner [] rest
    | none, some rest =>
      match depth with
      | 0 => .error .nestedTooDeep
      | inner + 1 =>
        match dropWord? [']'] (skipBlank rest) with
        | some after => .ok (.array [], after)
        | none => readItems fuel inner [] rest
    | none, none => readPlain start

/-- Read the items of an array from the next one on, after those read so far in reverse. -/
def readItems : Nat → Nat → List Json → Wide → Except ReadError (Json × Wide)
  | 0, _, _, _ => .error .malformed
  | fuel + 1, depth, sofar, cs =>
    match readValue fuel depth cs with
    | .error cause => .error cause
    | .ok (item, rest) =>
      match dropWord? [','] (skipBlank rest), dropWord? [']'] (skipBlank rest) with
      | some after, _ => readItems fuel depth (item :: sofar) after
      | none, some after => .ok (.array (item :: sofar).reverse, after)
      | none, none => .error .malformed

/-- Read the members of an object from the next one on, after those read so far. -/
def readMembers : Nat → Nat → List (Wide × Json) → Wide → Except ReadError (Json × Wide)
  | 0, _, _, _ => .error .malformed
  | fuel + 1, depth, sofar, cs =>
    match dropWord? ['"'] (skipBlank cs) with
    | none => .error .malformed
    | some rest =>
      match readString [] 0 rest with
      | .error cause => .error cause
      | .ok (name, rest) =>
        match dropWord? [':'] (skipBlank rest) with
        | none => .error .malformed
        | some rest =>
          match readValue fuel depth rest with
          | .error cause => .error cause
          | .ok (value, rest) =>
            let read := insertMember sofar name value
            match dropWord? [','] (skipBlank rest), dropWord? ['\x7d'] (skipBlank rest) with
            | some after, _ => readMembers fuel depth read after
            | none, some after => .ok (.object read, after)
            | none, none => .error .malformed

end

/-- The value that a text spells, in which at most so many arrays and objects stand inside each
other. -/
def parseWithin (depth : Nat) (cs : Wide) : Except ReadError Json :=
  match readValue (2 * cs.length + 2) depth cs with
  | .error cause => .error cause
  | .ok (value, rest) => if (skipBlank rest).isEmpty then .ok value else .error .malformed

/-- The value that a text spells, at any depth. -/
def parse (cs : Wide) : Except ReadError Json :=
  parseWithin cs.length cs

/-- The value that a document spells, in the encoding that it shows. -/
def parseDocument (depth : Nat) (bytes : List UInt8) : Except ReadError Json :=
  match Text.decodeDocument? bytes with
  | none => .error .undecodable
  | some cs => parseWithin depth cs

end BrainfuckWasm.Json
