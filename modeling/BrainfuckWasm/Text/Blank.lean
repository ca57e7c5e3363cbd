/-!
# Blank characters

The characters that are trimmed from both ends of a text: the ASCII controls that move the
cursor, the four ASCII separators, and every space of the other scripts.
-/

namespace BrainfuckWasm.Text

/-- Whether a character is blank. -/
def isBlank (c : Char) : Bool :=
  let n := c.toNat
  (0x09 ≤ n && n ≤ 0x0D) || (0x1C ≤ n && n ≤ 0x20) || n == 0x85 || n == 0xA0 || n == 0x1680 ||
    (0x2000 ≤ n && n ≤ 0x200A) || n == 0x2028 || n == 0x2029 || n == 0x202F || n == 0x205F ||
    n == 0x3000

/-- Whether a character may stand around a numeral: every blank but the four ASCII separators. -/
def isNumeralPadding (c : Char) : Bool :=
  isBlank c && !(0x1C ≤ c.toNat && c.toNat ≤ 0x1F)

/-- A list without the leading and trailing members of a class. -/
def trimBoth (drop : Char → Bool) (cs : List Char) : List Char :=
  ((cs.dropWhile drop).reverse.dropWhile drop).reverse

/-- A text without its leading and trailing blanks. -/
def strip (s : String) : String :=
  String.ofList (trimBoth isBlank s.toList)

end BrainfuckWasm.Text
