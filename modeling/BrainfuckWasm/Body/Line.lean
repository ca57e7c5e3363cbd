import BrainfuckWasm.Addressing

/-!
# Lines of a function body

A body is a list of lines, each one instruction of the text format at some width of indentation.
An instruction may leave its parenthesis open for a later `close` line, or leave an operand on the
stack for the line after it. A width has to be a 64-bit integer, and a line that is too wide to be
held in memory is not written.
-/

namespace BrainfuckWasm.Body

/-- What one line of a body says. -/
inductive Instruction where
  /-- Push the pointer moved by an amount. -/
  | movedPointer (amount : Int)
  /-- Pop the pointer's new value. -/
  | setPointer
  /-- Push the pointer. -/
  | pointer
  /-- Pop an address and store there the current cell changed by an amount. -/
  | storeChanged (amount : Int)
  /-- Push the current cell. -/
  | cell
  /-- Pop a value and hand it to the host. -/
  | put
  /-- Store a value of the host in the current cell. -/
  | get
  /-- Open a block. -/
  | block (label : Nat)
  /-- Leave the labelled block if the current cell is zero. -/
  | leaveIfZero (label : Nat)
  /-- Open a loop. -/
  | loop (label : Nat)
  /-- Start the labelled loop again unless the current cell is zero. -/
  | againUnlessZero (label : Nat)
  /-- Close the innermost open parenthesis. -/
  | close
  deriving DecidableEq, Repr

/-- The expression that reads the pointer. -/
def pointerText (mode : Addressing) : String :=
  "(" ++ mode.word ++ ".get $ptr)"

/-- The expression that reads the current cell. -/
def cellText (mode : Addressing) : String :=
  "(i32.load8_u " ++ pointerText mode ++ ")"

/-- The expression of a constant. -/
def constText (n : Nat) : String :=
  "(i32.const " ++ toString n ++ ")"

/-- The expression that changes a value by a signed amount: an addition or a subtraction of its
magnitude. -/
def changedText (operand : String) (amount : Int) : String :=
  "(" ++ (if amount > 0 then "i32.add" else "i32.sub") ++ " " ++ operand ++ " " ++
    constText amount.natAbs ++ ")"

/-- The name of a label. -/
def labelText (label : Nat) : String :=
  "$label$" ++ toString label

/-- An instruction as text. -/
def Instruction.text (mode : Addressing) : Instruction → String
  | .movedPointer amount => changedText (pointerText mode) amount
  | .setPointer => "(" ++ mode.word ++ ".set $ptr)"
  | .pointer => pointerText mode
  | .storeChanged amount => "(i32.store8 " ++ changedText (cellText mode) amount ++ ")"
  | .cell => cellText mode
  | .put => "(call $putChar)"
  | .get => "(i32.store8 " ++ pointerText mode ++ " (call $getChar))"
  | .block label => "(block " ++ labelText label
  | .leaveIfZero label =>
    "(br_if " ++ labelText label ++ " (i32.eq " ++ cellText mode ++ " " ++ constText 0 ++ "))"
  | .loop label => "(loop " ++ labelText label
  | .againUnlessZero label =>
    "(br_if " ++ labelText label ++ " (i32.ne " ++ cellText mode ++ " " ++ constText 0 ++ "))"
  | .close => ")"

/-- An instruction at a width of indentation. -/
structure Line where
  width : Int
  instruction : Instruction
  deriving DecidableEq, Repr

/-- Why a line has no margin of some width. -/
inductive MarginError where
  /-- The width is no 64-bit integer. -/
  | outOfRange
  /-- There is no memory for so many spaces. -/
  | tooWide
  deriving DecidableEq, Repr

/-- The diagnostic of a margin error; about memory there is nothing to say. -/
def MarginError.message : MarginError → String
  | .outOfRange => "cannot fit 'int' into an index-sized integer"
  | .tooWide => ""

/-- The greatest width of a margin. It stands for the memory of the machine: at some width the
spaces can no longer be held, and where that is depends on the machine alone. -/
def maxWidth : Int := 0x100000000

/-- The least number beyond the 64-bit widths; its opposite is the least such width. -/
def wordBound : Int := 0x8000000000000000

/-- What is wrong with a width. -/
def marginError? (width : Int) : Option MarginError :=
  if width < -wordBound || wordBound ≤ width then some .outOfRange
  else if maxWidth < width then some .tooWide
  else none

/-- The spaces before a line: none if the width is negative. -/
def margin (width : Int) : String :=
  String.ofList (List.replicate width.toNat ' ')

/-- A line as text, with its line feed. -/
def Line.render (mode : Addressing) (line : Line) : String :=
  margin line.width ++ line.instruction.text mode ++ "\n"

end BrainfuckWasm.Body
