import BrainfuckWasm.Text.DomainLetter
import BrainfuckWasm.Text.Mark

/-!
# Directions of letters

Text runs from left to right or from right to left, and this is a property of its letters. Digits,
marks and punctuation take part in either direction. Only the characters that may stand in the name
of a host are told apart; the ranges of a table may hold others between them.
-/

namespace BrainfuckWasm.Text

/-- The part that a character plays in the direction of a text. -/
inductive Direction where
  | leftToRight
  | rightToLeft
  | arabicLetter
  | digit
  | arabicDigit
  | hyphen
  | joiner
  | mark
  | neutral
  deriving DecidableEq, Repr

/-- The ranges of letters from right to left, but those of Arabic. -/
def rightToLeftRanges : List (Nat × Nat) :=
  [(0x5D0, 0x5F4), (0x7C0, 0x858), (0x10800, 0x10CF2), (0x10E80, 0x10F27), (0x10F70, 0x10FF6),
   (0x1E800, 0x1E959)]

/-- The ranges of Arabic letters. -/
def arabicRanges : List (Nat × Nat) :=
  [(0x620, 0x64A), (0x66E, 0x6EF), (0x6FA, 0x7B1), (0x860, 0x8C9), (0xFE73, 0xFE73),
   (0x10D00, 0x10D23), (0x10F30, 0x10F45)]

/-- The ranges of characters without a direction. -/
def neutralRanges : List (Nat × Nat) :=
  [(0xB7, 0xB7), (0x2B9, 0x2BA), (0x2C6, 0x2CF), (0x2EC, 0x2EC), (0x375, 0x375), (0x2E2F, 0x2E2F),
   (0x30FB, 0x30FB), (0xA67F, 0xA67F), (0xA717, 0xA71F), (0xA788, 0xA788)]

/-- The ranges of digits. -/
def digitRanges : List (Nat × Nat) :=
  [(0x30, 0x39), (0x6F0, 0x6F9)]

/-- The ranges of digits that belong to Arabic. -/
def arabicDigitRanges : List (Nat × Nat) :=
  [(0x660, 0x669), (0x10D30, 0x10D39)]

/-- The direction of a character in the name of a host, if it is known. -/
def direction? (n : Nat) : Option Direction :=
  if isUnfamiliar n then none
  else if isNonspacing n then some .mark
  else if n = 0x2D then some .hyphen
  else if n = 0x200C || n = 0x200D then some .joiner
  else if inRanges digitRanges n then some .digit
  else if inRanges arabicDigitRanges n then some .arabicDigit
  else if inRanges neutralRanges n then some .neutral
  else if inRanges arabicRanges n then some .arabicLetter
  else if inRanges rightToLeftRanges n then some .rightToLeft
  else some .leftToRight

end BrainfuckWasm.Text
