import BrainfuckWasm.Domain.Punycode
import BrainfuckWasm.Text.Composition
import BrainfuckWasm.Text.Direction
import BrainfuckWasm.Text.Joining
import BrainfuckWasm.Text.Quoted
import BrainfuckWasm.Text.Script

/-!
# Labels of domain names

A label is a piece of a domain name. It is in composed form, does not start with a mark and holds no
hyphen at its ends. Its characters are lowercase letters, marks and digits; some others are taken in
the company of certain letters only. Letters of both directions do not stand in one label, and one
with letters from right to left starts with such a letter and ends with one or with a digit. A label
outside ASCII can be written in ASCII after a mark of four characters.
-/

namespace BrainfuckWasm.Domain

open Text (Direction)

/-- Why a name is refused. Positions count from one. -/
inductive NameError where
  | nameTooLong
  | labelTooLong
  | emptyLabel
  | notComposed
  | innerHyphens
  | outerHyphen
  | startsWithMark
  | badLetter (n position : Nat) (label : List Nat)
  | badJoiner (n position : Nat) (label : List Nat)
  | badCompany (n position : Nat) (label : List Nat)
  | unknownDirection (position : Nat) (label : List Nat)
  | startWithoutDirection (label : List Nat)
  | leftwardLetter (position : Nat)
  | rightwardLetter (position : Nat)
  | mixedDigits
  | badEnding
  /-- Nothing follows the mark of a label that is written in ASCII. -/
  | nothingWritten
  | writtenWithHyphen
  | badlyWritten
  deriving DecidableEq, Repr

/-- The number of a code point as diagnostics show it. -/
def pointText (n : Nat) : String :=
  "U+" ++ (Text.hexPadded 4 n).toUpper

/-- A label as diagnostics show it. -/
def labelText (label : List Nat) : String :=
  Text.quotedWide (label.map Text.Point.ofNat)

/-- The diagnostic of a refused name. -/
def NameError.message : NameError → String
  | .nameTooLong => "Domain too long"
  | .labelTooLong => "Label too long"
  | .emptyLabel => "Empty Label"
  | .notComposed => "Label must be in Normalization Form C"
  | .innerHyphens => "Label has disallowed hyphens in 3rd and 4th position"
  | .outerHyphen => "Label must not start or end with a hyphen"
  | .startsWithMark => "Label begins with an illegal combining character"
  | .badLetter n position label => "Codepoint " ++ pointText n ++ " at position " ++
      toString position ++ " of " ++ labelText label ++ " not allowed"
  | .badJoiner n position label => "Unknown codepoint adjacent to joiner " ++ pointText n ++
      " at position " ++ toString position ++ " in " ++ labelText label
  | .badCompany n position label => "Codepoint " ++ pointText n ++ " not allowed at position " ++
      toString position ++ " in " ++ labelText label
  | .unknownDirection position label => "Unknown directionality in label " ++ labelText label ++
      " at position " ++ toString position
  | .startWithoutDirection label => "First codepoint in label " ++ labelText label ++
      " must be directionality L, R or AL"
  | .rightwardLetter position => "Invalid direction for codepoint at position " ++
      toString position ++ " in a right-to-left label"
  | .leftwardLetter position => "Invalid direction for codepoint at position " ++
      toString position ++ " in a left-to-right label"
  | .mixedDigits => "Can not mix numeral types in a right-to-left label"
  | .badEnding => "Label ends with illegal codepoint directionality"
  | .nothingWritten => "Malformed A-label, no Punycode eligible content found"
  | .writtenWithHyphen => "A-label must not end with a hyphen"
  | .badlyWritten => "Invalid A-label"

/-- The position of the character that a name is refused for, if it is one. -/
def NameError.position? : NameError → Option Nat
  | .badLetter _ position _ | .badJoiner _ position _ | .badCompany _ position _
  | .unknownDirection position _ | .leftwardLetter position | .rightwardLetter position =>
    some position
  | _ => none

/-- The hyphen. -/
def hyphen : Nat := 0x2D

/-- The sign that keeps two letters apart. -/
def nonJoiner : Nat := 0x200C

/-- The sign that joins two letters. -/
def joiner : Nat := 0x200D

/-- Whether a joiner or a non-joiner may stand between two parts of a label, of which the first one
is given in reverse: after a mark that takes away a vowel, or, to keep them apart, between letters
that would be joined. -/
def joinerFits (n : Nat) (before after : List Nat) : Bool :=
  match before with
  | [] => false
  | last :: _ =>
    !Text.isUnfamiliar last &&
      (Text.combiningClass last = Text.vowelKiller ||
        (n = nonJoiner && (before.dropWhile Text.isPassed).head?.any Text.isJoinedAfter &&
          (after.dropWhile Text.isPassed).head?.any Text.isJoinedBefore))

/-- Whether a code point is one of the Arabic digits. -/
def isArabicDigit (n : Nat) : Bool :=
  0x660 ≤ n && n ≤ 0x669

/-- Whether a code point is one of the extended Arabic digits. -/
def isExtendedDigit (n : Nat) : Bool :=
  0x6F0 ≤ n && n ≤ 0x6F9

/-- Whether a character that depends on its company may stand between two parts of a label, of which
the first one is given in reverse; nothing is said about other characters. -/
def companyFits? (n : Nat) (before after : List Nat) : Option Bool :=
  if n = 0xB7 then some (before.head? = some 0x6C && after.head? = some 0x6C)
  else if n = 0x375 then some (after.head?.any (Text.inRanges Text.greekRanges))
  else if n = 0x5F3 || n = 0x5F4 then some (before.head?.any (Text.inRanges Text.hebrewRanges))
  else if n = 0x30FB then some ((before ++ after).any (Text.inRanges Text.japaneseRanges))
  else if isArabicDigit n then some (!(before ++ after).any isExtendedDigit)
  else if isExtendedDigit n then some (!(before ++ after).any isArabicDigit)
  else none

/-- What is wrong with the character at an index of a label. -/
def characterError? (label : List Nat) (n index : Nat) : Option NameError :=
  let before := (label.take index).reverse
  let after := label.drop (index + 1)
  if Text.isDomainLetter n then none
  else if n = nonJoiner || n = joiner then
    if joinerFits n before after then none else some (.badJoiner n (index + 1) label)
  else
    match companyFits? n before after with
    | some true => none
    | some false => some (.badCompany n (index + 1) label)
    | none => some (.badLetter n (index + 1) label)

/-- Whether a direction asks for the rules about directions. -/
def isRightToLeft (direction : Direction) : Bool :=
  direction = .rightToLeft || direction = .arabicLetter || direction = .arabicDigit

/-- Whether a direction is that of a digit. -/
def isDigit (direction : Direction) : Bool :=
  direction = .digit || direction = .arabicDigit

/-- What is wrong with the directions in a label from right to left. -/
def rightToLeftError? (directions : List Direction) : Option NameError :=
  let firstDigit := directions.find? isDigit
  let fault := directions.zipIdx.findSome? fun (direction, index) =>
    if direction = .leftToRight then some (.rightwardLetter (index + 1))
    else if isDigit direction && firstDigit ≠ some direction then some .mixedDigits
    else none
  let ending := directions.reverse.find? (· ≠ .mark)
  if fault.isSome then fault
  else if ending.any fun direction => isRightToLeft direction || direction = .digit then none
  else some .badEnding

/-- What is wrong with the directions in a label from left to right. -/
def leftToRightError? (directions : List Direction) : Option NameError :=
  let fault := directions.zipIdx.findSome? fun (direction, index) =>
    if isRightToLeft direction then some (.leftwardLetter (index + 1)) else none
  let ending := directions.reverse.find? (· ≠ .mark)
  if fault.isSome then fault
  else if ending.any fun direction => direction = .leftToRight || direction = .digit then none
  else some .badEnding

/-- What is wrong with the directions in a label. -/
def directionError? (label : List Nat) : Option NameError :=
  match label.findIdx? fun n => (Text.direction? n).isNone with
  | some index => some (.unknownDirection (index + 1) label)
  | none =>
    let directions := label.filterMap Text.direction?
    if !directions.any isRightToLeft then none
    else
      match directions.head? with
      | some .rightToLeft | some .arabicLetter => rightToLeftError? directions
      | some .leftToRight => leftToRightError? directions
      | _ => some (.startWithoutDirection label)

/-- The greatest length of a name with a dot at its end. -/
def maxNameLength : Nat := 254

/-- What is wrong with a label. -/
def labelError? (label : List Nat) : Option NameError :=
  if maxNameLength < label.length then some .labelTooLong
  else if label.isEmpty then some .emptyLabel
  else if !Text.isComposed label then some .notComposed
  else if (label.drop 2).take 2 = [hyphen, hyphen] then some .innerHyphens
  else if label.head? = some hyphen || label.getLast? = some hyphen then some .outerHyphen
  else if label.head?.any Text.isMark then some .startsWithMark
  else
    match label.zipIdx.findSome? fun (n, index) => characterError? label n index with
    | some cause => some cause
    | none => directionError? label

/-- The mark of a label that is written in ASCII. -/
def writtenMark : List Char := "xn--".toList

/-- The label that an ASCII label stands for. -/
def readLabel (cs : List Char) : Except NameError (List Nat) :=
  let small := cs.map Char.toLower
  let checked (label : List Nat) : Except NameError (List Nat) :=
    match labelError? label with
    | some cause => .error cause
    | none => .ok label
  if writtenMark.isPrefixOf small then
    let content := small.drop writtenMark.length
    if content.isEmpty then .error .nothingWritten
    else if content.getLast? = some '-' then .error .writtenWithHyphen
    else
      match Punycode.decode? content with
      | some label => checked label
      | none => .error .badlyWritten
  else checked (small.map Char.toNat)

/-- The greatest length of a label in ASCII. -/
def maxLabelLength : Nat := 63

/-- A label written in ASCII. -/
def writeLabel (cs : List Char) : Except NameError (List Char) :=
  let written : Except NameError (List Char) :=
    if cs.all (·.toNat < Punycode.firstPoint) then (readLabel cs).map fun _ => cs
    else
      let label := cs.map Char.toNat
      match labelError? label with
      | some cause => .error cause
      | none => .ok (writtenMark ++ Punycode.encode label)
  match written with
  | .error cause => .error cause
  | .ok text => if maxLabelLength < text.length then .error .labelTooLong else .ok text

end BrainfuckWasm.Domain
