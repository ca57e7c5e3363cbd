import BrainfuckWasm.Number.Binary
import BrainfuckWasm.Text.Wide

/-!
# JSON values

The values that requests and responses hold. Beside integers and decimals there are three numbers
that are not finite; they can be read and cannot be sent. The names of an object's members are
distinct and keep the order in which they came first.
-/

namespace BrainfuckWasm

/-- A number. -/
inductive Json.Number where
  | integer (value : Int)
  | decimal (value : Decimal)
  | infinite (negative : Bool)
  | undefined
  deriving DecidableEq, Repr

/-- Whether a number is finite. -/
def Json.Number.isFinite : Json.Number → Bool
  | .integer _ | .decimal _ => true
  | .infinite _ | .undefined => false

/-- A JSON value. -/
inductive Json where
  | null
  | bool (value : Bool)
  | number (value : Json.Number)
  | string (text : Text.Wide)
  | array (items : List Json)
  | object (members : List (Text.Wide × Json))
  deriving Repr

namespace Json

/-- The number of an integer. -/
def ofInt (n : Int) : Json :=
  .number (.integer n)

/-- The string of a text. -/
def ofText (s : String) : Json :=
  .string (Text.widen s)

/-- An object with members of given names. -/
def ofMembers (members : List (String × Json)) : Json :=
  .object (members.map fun (name, value) => (Text.widen name, value))

/-- Members with one more; a member of the same name keeps its place and takes the new value. -/
def insertMember (members : List (Text.Wide × Json)) (name : Text.Wide) (value : Json) :
    List (Text.Wide × Json) :=
  if members.any (·.1 = name) then
    members.map fun member => if member.1 = name then (name, value) else member
  else members ++ [(name, value)]

/-- The member of a name. -/
def member? (members : List (Text.Wide × Json)) (name : String) : Option Json :=
  (members.find? (·.1 = Text.widen name)).map (·.2)

end Json

end BrainfuckWasm
