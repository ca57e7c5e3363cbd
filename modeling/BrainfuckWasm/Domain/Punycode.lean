/-!
# Punycode

A label outside ASCII is written in ASCII as its ASCII characters, a hyphen, and a list of numbers.
The numbers tell, in the order of code points, where each other character goes: each of them counts
the places that are passed over, in all the texts of smaller code points that could stand there. A
number is written with digits of base 36, the least one first, and a digit below a threshold ends
it. The thresholds follow the size of the numbers before.
-/

namespace BrainfuckWasm.Domain.Punycode

/-- The threshold of a digit, for its place and the bias of the number. -/
def threshold (place bias : Nat) : Nat :=
  min 26 (max 1 (place - bias))

/-- A threshold is a digit other than zero and leaves some digits above it. -/
theorem threshold_bounds (place bias : Nat) : 1 ≤ threshold place bias ∧
    threshold place bias ≤ 26 := by
  unfold threshold
  omega

/-- The bias that numbers of some size call for, and the places to start from. -/
def scale (size places : Nat) : Nat :=
  if 455 < size then scale (size / 35) (places + 36) else places + 36 * size / (size + 38)
termination_by size
decreasing_by omega

/-- The bias after a number, when a text has grown to some length. -/
def adapt (number length : Nat) (isFirst : Bool) : Nat :=
  let size := if isFirst then number / 700 else number / 2
  scale (size + size / length) 0

/-- The bias before the first number. -/
def initialBias : Nat := 72

/-- The first code point outside ASCII. -/
def firstPoint : Nat := 0x80

/-- The greatest code point. -/
def lastPoint : Nat := 0x10FFFF

/-- A digit as a character. -/
def digitChar (digit : Nat) : Char :=
  if digit < 26 then Char.ofNat (0x61 + digit) else Char.ofNat (0x30 + (digit - 26))

/-- The digit that a character is. -/
def digitValue? (c : Char) : Option Nat :=
  if c.isAlpha then some (c.toLower.toNat - 0x61)
  else if c.isDigit then some (c.toNat - 0x30 + 26)
  else none

/-- A number as digits, from a place on. -/
def digits (bias place number : Nat) : List Char :=
  let limit := threshold place bias
  if number < limit then [digitChar number]
  else
    digitChar (limit + (number - limit) % (36 - limit)) ::
      digits bias (place + 36) ((number - limit) / (36 - limit))
termination_by number
decreasing_by
  have bounds := threshold_bounds place bias
  exact Nat.lt_of_le_of_lt (Nat.div_le_self _ _) (by omega)

/-- How far a label is written. -/
structure Writing where
  written : List Char
  /-- The places that were passed over since the last number. -/
  passed : Nat
  bias : Nat
  /-- How many characters are placed, and whether none outside ASCII is among them. -/
  placed : Nat
  isFirst : Bool

/-- Pass by one character of a label while those with some code point are placed. -/
def Writing.passBy (point : Nat) (writing : Writing) (n : Nat) : Writing :=
  if n < point then { writing with passed := writing.passed + 1 }
  else if n = point then
    { written := writing.written ++ digits writing.bias 36 writing.passed
      passed := 0
      bias := adapt writing.passed (writing.placed + 1) writing.isFirst
      placed := writing.placed + 1
      isFirst := false }
  else writing

/-- Place the characters with each of some increasing code points, from the next one on. -/
def placeAll (label : List Nat) (next : Nat) (writing : Writing) : List Nat → Writing
  | [] => writing
  | point :: rest =>
    let reached := { writing with
      passed := writing.passed + (point - next) * (writing.placed + 1) }
    let placed := label.foldl (Writing.passBy point) reached
    placeAll label (point + 1) { placed with passed := placed.passed + 1 } rest

/-- A label in ASCII. -/
def encode (label : List Nat) : List Char :=
  let ascii := (label.filter (· < firstPoint)).map Char.ofNat
  let points := ((label.filter (firstPoint ≤ ·)).mergeSort fun a b => a ≤ b).eraseDups
  let writing := placeAll label firstPoint ⟨[], 0, initialBias, ascii.length, true⟩ points
  ascii ++ (if ascii.isEmpty then [] else ['-']) ++ writing.written

/-- Read a number from a place on, where a digit has some weight, and what follows it. -/
def readNumber? (bias : Nat) : Nat → Nat → List Char → Option (Nat × List Char)
  | _, _, [] => none
  | place, weight, c :: rest =>
    match digitValue? c with
    | none => none
    | some digit =>
      if digit < threshold place bias then some (digit * weight, rest)
      else
        (readNumber? bias (place + 36) (weight * (36 - threshold place bias)) rest).map
          fun (number, after) => (digit * weight + number, after)

/-- A number takes at least one character. -/
theorem length_readNumber? {bias place weight number : Nat} {cs after : List Char}
    (h : readNumber? bias place weight cs = some (number, after)) : after.length < cs.length := by
  induction cs generalizing place weight number with
  | nil => simp [readNumber?] at h
  | cons c rest ih =>
    rw [readNumber?] at h
    split at h
    · cases h
    · split at h
      · cases h
        exact Nat.lt_succ_self _
      · obtain ⟨found, hfound, heq⟩ := Option.map_eq_some_iff.1 h
        cases heq
        exact Nat.lt_succ_of_lt (ih hfound)

/-- Put characters into a label as numbers tell, from a code point and a place on. -/
def insertAll? (label : List Nat) (bias point place : Nat) (isFirst : Bool) (cs : List Char) :
    Option (List Nat) :=
  if cs.isEmpty then some label
  else
    match h : readNumber? bias 36 1 cs with
    | none => none
    | some (number, after) =>
      let length := label.length + 1
      let reached := point + (place + number) / length
      let target := (place + number) % length
      if lastPoint < reached then none
      else
        insertAll? (label.take target ++ reached :: label.drop target)
          (adapt number length isFirst) reached (target + 1) false after
termination_by cs.length
decreasing_by exact length_readNumber? h

/-- The label that a text in ASCII stands for, if it does. -/
def decode? (cs : List Char) : Option (List Nat) :=
  let backwards := cs.reverse
  let ascii := ((backwards.dropWhile (· ≠ '-')).drop 1).reverse
  insertAll? (ascii.map Char.toNat) initialBias firstPoint 0 true
    (backwards.takeWhile (· ≠ '-')).reverse

end BrainfuckWasm.Domain.Punycode
