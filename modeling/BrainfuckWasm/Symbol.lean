/-!
# The eight symbols

A source is a list of characters. Eight of them are symbols and every other character is a
comment: it takes up a position and does nothing else.
-/

namespace BrainfuckWasm

/-- A command of the tape machine. -/
inductive Symbol where
  | right
  | left
  | increment
  | decrement
  | output
  | input
  | loopOpen
  | loopClose
  deriving DecidableEq, Repr

/-- The symbol that a character stands for, if it is not a comment. -/
def Symbol.ofChar? : Char → Option Symbol
  | '>' => some .right
  | '<' => some .left
  | '+' => some .increment
  | '-' => some .decrement
  | '.' => some .output
  | ',' => some .input
  | '[' => some .loopOpen
  | ']' => some .loopClose
  | _ => none

/-- The character that stands for a symbol. -/
def Symbol.toChar : Symbol → Char
  | .right => '>'
  | .left => '<'
  | .increment => '+'
  | .decrement => '-'
  | .output => '.'
  | .input => ','
  | .loopOpen => '['
  | .loopClose => ']'

/-- Every symbol is read back from its character. -/
@[simp]
theorem Symbol.ofChar?_toChar (symbol : Symbol) : Symbol.ofChar? symbol.toChar = some symbol := by
  cases symbol <;> rfl

/-- The symbols of a source, in order, with all comments dropped. -/
def Symbol.ofSource (source : List Char) : List Symbol :=
  source.filterMap Symbol.ofChar?

end BrainfuckWasm
