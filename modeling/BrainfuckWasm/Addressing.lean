import BrainfuckWasm.Text.Quoted

/-!
# Where the cell pointer is held

The generated function keeps its pointer in a local variable or in a global of the module. Callers
name the mode by a word; anything else they offer is refused with a message that shows the offer.
-/

namespace BrainfuckWasm

/-- The kind of variable that holds the cell pointer. -/
inductive Addressing where
  | localVariable
  | globalVariable
  deriving DecidableEq, Repr

namespace Addressing

/-- The word that names a mode, also in the instructions that access the pointer. -/
def word : Addressing → String
  | .localVariable => "local"
  | .globalVariable => "global"

/-- Both modes, in the order in which diagnostics list them. -/
def all : List Addressing := [.localVariable, .globalVariable]

/-- The mode that a word names. -/
def ofWord? (text : String) : Option Addressing :=
  all.find? fun mode => mode.word = text

/-- A mode is read back from its word. -/
@[simp]
theorem ofWord?_word (mode : Addressing) : ofWord? mode.word = some mode := by
  cases mode <;> decide

/-- What a caller offers as a mode: a word, or a value that is no word, as diagnostics show it. -/
inductive Offer where
  | named (text : String)
  | other (display : String)
  deriving DecidableEq, Repr

/-- An offer as diagnostics show it. -/
def Offer.shown : Offer → String
  | .named text => Text.quoted text
  | .other display => display

/-- The mode that an offer names. -/
def Offer.mode? : Offer → Option Addressing
  | .named text => ofWord? text
  | .other _ => none

/-- The diagnostic for an offer that names no mode. -/
def Offer.refusal (offer : Offer) : String :=
  offer.shown ++ " is not a valid CellAddressing"

end Addressing

end BrainfuckWasm
