import BrainfuckWasm.Json
import BrainfuckWasm.Number.Shortest
import BrainfuckWasm.Text.Quoted

/-!
# Writing JSON

A value is written without blanks, and strings with as few escapes as JSON allows: quotes,
backslashes and control characters only. It is sent in UTF-8, which leaves out numbers that are not
finite, text with surrogates, and values that are nested too deep. Diagnostics show a value in
another form, with quoted text and words of their own.
-/

namespace BrainfuckWasm.Json

open Text (Point Wide)

/-- A number as text. -/
def Number.text : Number → String
  | .integer value => toString value
  | .decimal value => String.ofList value.text
  | .infinite negative => if negative then "-Infinity" else "Infinity"
  | .undefined => "NaN"

/-- One code point of a string. -/
def escapePoint (point : Point) : Wide :=
  let c := point.char
  if c = '"' then Text.widen "\\\""
  else if c = '\\' then Text.widen "\\\\"
  else if c = '\n' then Text.widen "\\n"
  else if c = '\r' then Text.widen "\\r"
  else if c = '\t' then Text.widen "\\t"
  else if c = '\x08' then Text.widen "\\b"
  else if c = '\x0c' then Text.widen "\\f"
  else if point.value < 0x20 then Text.widen ("\\u" ++ Text.hexPadded 4 point.value)
  else [point]

/-- A string as text. -/
def stringText (text : Wide) : Wide :=
  Text.widen "\"" ++ text.flatMap escapePoint ++ Text.widen "\""

mutual

/-- A value as text. -/
def render : Json → Wide
  | .null => Text.widen "null"
  | .bool true => Text.widen "true"
  | .bool false => Text.widen "false"
  | .number value => Text.widen value.text
  | .string text => stringText text
  | .array items => Text.widen "[" ++ (Text.widen ",").intercalate (renderAll items) ++
      Text.widen "]"
  | .object members => Text.widen "\x7b" ++ (Text.widen ",").intercalate (renderMembers members) ++
      Text.widen "\x7d"

/-- Values as texts. -/
def renderAll : List Json → List Wide
  | [] => []
  | item :: rest => render item :: renderAll rest

/-- Members as texts. -/
def renderMembers : List (Wide × Json) → List Wide
  | [] => []
  | (name, value) :: rest =>
    (stringText name ++ Text.widen ":" ++ render value) :: renderMembers rest

end

/-- Why a value cannot be sent. -/
inductive EncodeError where
  /-- It holds a number that is not finite. -/
  | notFinite
  /-- Arrays and objects stand inside each other too often. -/
  | nestedTooDeep
  /-- Its text holds surrogates. -/
  | surrogates (run : Text.SurrogateRun)
  deriving DecidableEq, Repr

/-- The diagnostic of a value that cannot be sent. -/
def EncodeError.message : EncodeError → String
  | .notFinite => "Out of range float values are not JSON compliant"
  | .nestedTooDeep => "maximum recursion depth exceeded while encoding a JSON object"
  | .surrogates run => run.message

mutual

/-- The first thing in a value that has no text, where so many arrays and objects may still be
entered. -/
def obstacle? : Nat → Json → Option EncodeError
  | _, .null | _, .bool _ | _, .string _ => none
  | _, .number value => if value.isFinite then none else some .notFinite
  | 0, .array _ | 0, .object _ => some .nestedTooDeep
  | depth + 1, .array items => itemObstacle? depth items
  | depth + 1, .object members => memberObstacle? depth members

/-- The first thing in some values that has no text. -/
def itemObstacle? : Nat → List Json → Option EncodeError
  | _, [] => none
  | depth, item :: rest => (obstacle? depth item).or (itemObstacle? depth rest)

/-- The first thing in some members that has no text. -/
def memberObstacle? : Nat → List (Wide × Json) → Option EncodeError
  | _, [] => none
  | depth, (_, value) :: rest => (obstacle? depth value).or (memberObstacle? depth rest)

end

/-- The bytes that a value is sent as, in which at most so many arrays and objects stand inside each
other. -/
def encode (depth : Nat) (value : Json) : Except EncodeError (List UInt8) :=
  match value.obstacle? depth with
  | some cause => .error cause
  | none =>
    let text := value.render
    match Text.surrogates? text with
    | some run => .error (.surrogates run)
    | none => .ok (Text.bytesOfText (Text.narrow text))

/-- A number as diagnostics show it. -/
def Number.shown : Number → String
  | .integer value => toString value
  | .decimal value => String.ofList value.text
  | .infinite negative => if negative then "-inf" else "inf"
  | .undefined => "nan"

mutual

/-- A value as diagnostics show it. -/
def shown : Json → String
  | .null => "None"
  | .bool true => "True"
  | .bool false => "False"
  | .number value => value.shown
  | .string text => Text.quotedWide text
  | .array items => "[" ++ String.intercalate ", " (shownAll items) ++ "]"
  | .object members => "\x7b" ++ String.intercalate ", " (shownMembers members) ++ "\x7d"

/-- Values as diagnostics show them. -/
def shownAll : List Json → List String
  | [] => []
  | item :: rest => shown item :: shownAll rest

/-- Members as diagnostics show them. -/
def shownMembers : List (Wide × Json) → List String
  | [] => []
  | (name, value) :: rest =>
    (Text.quotedWide name ++ ": " ++ shown value) :: shownMembers rest

end

end BrainfuckWasm.Json
