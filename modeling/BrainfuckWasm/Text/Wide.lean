import BrainfuckWasm.Text.Hex
import BrainfuckWasm.Text.Utf8

/-!
# Text with surrogates

Escapes and 16-bit units can spell one half of a surrogate pair without the other. Such a half is a
code point and no character, so text that may hold it is a list of code points. It cannot be encoded
as UTF-8: the first run of surrogates in it is the reason.
-/

namespace BrainfuckWasm.Text

/-- A code point: the number of a character or of a surrogate. -/
structure Point where
  value : Nat
  bounded : value < 0x110000
  deriving DecidableEq, Repr

namespace Point

/-- The code point with a number, or that of the replacement character if there is none. -/
def ofNat (n : Nat) : Point :=
  if h : n < 0x110000 then ⟨n, h⟩ else ⟨0xFFFD, by decide⟩

/-- The code point of a character. -/
def ofChar (c : Char) : Point :=
  ofNat c.toNat

/-- Whether a code point is half of a surrogate pair. -/
def isSurrogate (point : Point) : Bool :=
  0xD800 ≤ point.value && point.value ≤ 0xDFFF

/-- The character of a code point; the replacement character stands for a surrogate. -/
def char (point : Point) : Char :=
  if point.isSurrogate then replacement else Char.ofNat point.value

/-- The number of a character's code point. -/
@[simp]
theorem value_ofChar (c : Char) : (ofChar c).value = c.toNat := by
  have h : c.toNat < 0x110000 := by
    have := c.valid
    simp only [UInt32.isValidChar, Nat.isValidChar] at this
    simp only [Char.toNat]
    omega
  simp [ofChar, ofNat, h]

/-- No character is half of a surrogate pair. -/
@[simp]
theorem isSurrogate_ofChar (c : Char) : (ofChar c).isSurrogate = false := by
  have h := c.valid
  simp only [UInt32.isValidChar, Nat.isValidChar] at h
  simp only [isSurrogate, value_ofChar, Char.toNat, Bool.and_eq_false_iff,
    decide_eq_false_iff_not]
  omega

/-- A character is read back from its code point. -/
@[simp]
theorem char_ofChar (c : Char) : (ofChar c).char = c := by
  simp [char]

/-- Whether a number is the first half of a surrogate pair. -/
def isHigh (n : Nat) : Bool :=
  0xD800 ≤ n && n ≤ 0xDBFF

/-- Whether a number is the second half of a surrogate pair. -/
def isLow (n : Nat) : Bool :=
  0xDC00 ≤ n && n ≤ 0xDFFF

/-- The code point that the two halves of a surrogate pair stand for. -/
def ofPair (high low : Nat) : Point :=
  ofNat (0x10000 + (high - 0xD800) * 0x400 + (low - 0xDC00))

end Point

/-- A text that may hold surrogates. -/
abbrev Wide := List Point

/-- A text as code points. -/
def widen (s : String) : Wide :=
  s.toList.map Point.ofChar

/-- The characters of a wide text, with replacements for its surrogates. -/
def narrow (text : Wide) : String :=
  String.ofList (text.map Point.char)

/-- A text is read back from its code points. -/
@[simp]
theorem narrow_widen (s : String) : narrow (widen s) = s := by
  simp [narrow, widen, Function.comp_def]

/-- Replacements keep the length of a text, and so the positions in it. -/
@[simp]
theorem length_narrow (text : Wide) : (narrow text).length = text.length := by
  simp [narrow]

/-- A run of surrogates: where it starts, its first member and how many follow that. -/
structure SurrogateRun where
  start : Nat
  first : Point
  more : Nat
  deriving DecidableEq, Repr

/-- The first run of surrogates in a text whose first code point has a given position. -/
def surrogatesFrom? (position : Nat) : Wide → Option SurrogateRun
  | [] => none
  | point :: rest =>
    if point.isSurrogate then
      some ⟨position, point, (rest.takeWhile Point.isSurrogate).length⟩
    else surrogatesFrom? (position + 1) rest

/-- The first run of surrogates in a text. -/
def surrogates? (text : Wide) : Option SurrogateRun :=
  surrogatesFrom? 0 text

/-- There are no surrogates among characters. -/
theorem surrogatesFrom?_map_ofChar (position : Nat) (cs : List Char) :
    surrogatesFrom? position (cs.map Point.ofChar) = none := by
  induction cs generalizing position with
  | nil => rfl
  | cons c rest ih => simp [surrogatesFrom?, ih]

/-- There are no surrogates in a text of characters. -/
@[simp]
theorem surrogates?_widen (s : String) : surrogates? (widen s) = none :=
  surrogatesFrom?_map_ofChar 0 s.toList

/-- Why a text with a run of surrogates has no encoding. -/
def SurrogateRun.message (run : SurrogateRun) : String :=
  let place :=
    if run.more = 0 then
      "character '\\u" ++ hexPadded 4 run.first.value ++ "' in position " ++ toString run.start
    else
      "characters in position " ++ toString run.start ++ "-" ++ toString (run.start + run.more)
  "'utf-8' codec can't encode " ++ place ++ ": surrogates not allowed"

end BrainfuckWasm.Text
