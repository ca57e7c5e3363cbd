import BrainfuckWasm.Addressing
import BrainfuckWasm.Json.Reader

/-!
# Reading a compile request

The body of a compile request is a JSON object with two optional fields, both strings. All faulty
fields are reported, the code before the addressing mode, each with the value that was found there.
The mode is named in either case. A body that is refused while it is read, for another reason than
that it is malformed, is not reported on at all.
-/

namespace BrainfuckWasm.Service

open Text (Wide)

/-- What a compile request asks for. -/
structure CompileRequest where
  code : Wide
  addressing : Addressing
  deriving DecidableEq, Repr

/-- A fault of a request body: its kind, where it is, what is said about it and what was found. -/
structure Issue where
  kind : String
  location : List String
  message : String
  found : Json
  /-- Whether the fault was found by a check of the value, and not of its kind. -/
  isChecked : Bool := false
  deriving Repr

/-- The issue of a request without a body. -/
def missingBody : Issue where
  kind := "missing"
  location := ["body"]
  message := "Field required"
  found := .null

/-- The issue of a body that is not JSON. -/
def invalidBody : Issue where
  kind := "json_invalid"
  location := ["body"]
  message := "JSON decode error"
  found := .object []

/-- The issue of a body that is not an object. -/
def notAnObject (found : Json) : Issue where
  kind := "model_attributes_type"
  location := ["body"]
  message := "Input should be a valid dictionary or object to extract fields from"
  found := found

/-- The issue of a field that is not a string. -/
def notAString (field : String) (found : Json) : Issue where
  kind := "string_type"
  location := ["body", field]
  message := "Input should be a valid string"
  found := found

/-- The issue of a field that names no addressing mode. -/
def notAMode (word : Wide) : Issue where
  kind := "value_error"
  location := ["body", "addressing"]
  message := "Value error, addressing must be either 'local' or 'global'"
  found := .string word
  isChecked := true

/-- The string in a field, or a default if the field is absent. -/
def stringField (members : List (Wide × Json)) (field fallback : String) : Except Issue Wide :=
  match Json.member? members field with
  | none => .ok (Text.widen fallback)
  | some (.string text) => .ok text
  | some found => .error (notAString field found)

/-- The addressing mode that a word names in either case. No character outside ASCII has a letter
of the two words as its lowercase form, so only ASCII letters are folded. -/
def modeOfWord? (word : Wide) : Option Addressing :=
  Addressing.ofWord? (String.ofList (word.map fun point => point.char.toLower))

/-- The addressing mode of a request. -/
def modeField (members : List (Wide × Json)) : Except Issue Addressing :=
  match stringField members "addressing" "local" with
  | .error issue => .error issue
  | .ok word =>
    match modeOfWord? word with
    | some mode => .ok mode
    | none => .error (notAMode word)

/-- Why a request body is refused. -/
inductive BodyError where
  | unreadable
  | faulty (issues : List Issue)
  deriving Repr

/-- The request that members of an object spell. -/
def requestOfMembers (members : List (Wide × Json)) : Except BodyError CompileRequest :=
  match stringField members "code" "", modeField members with
  | .ok code, .ok mode => .ok ⟨code, mode⟩
  | .error first, .error second => .error (.faulty [first, second])
  | .error issue, _ => .error (.faulty [issue])
  | _, .error issue => .error (.faulty [issue])

/-- How many arrays and objects may stand inside each other in the JSON that goes through the server
around the service. The server walks through it by recursion and gives up where its call stack ends,
so the numbers are those of one version of it, and nothing rests on them. -/
structure Limits where
  /-- The limit for a request body that is read. -/
  body : Nat := 965
  /-- The limit for a response about issues. -/
  issues : Nat := 963
  /-- The limit for a value that is sent as a body. -/
  sent : Nat := 984
  deriving DecidableEq, Repr

/-- Read the body of a compile request. -/
def readRequest (limits : Limits) (body : List UInt8) : Except BodyError CompileRequest :=
  if body.isEmpty then .error (.faulty [missingBody])
  else
    match Json.parseDocument limits.body body with
    | .ok (.object members) => requestOfMembers members
    | .ok found => .error (.faulty [notAnObject found])
    | .error .malformed => .error (.faulty [invalidBody])
    | .error _ => .error .unreadable

end BrainfuckWasm.Service
