import BrainfuckWasm.Domain.Label
import BrainfuckWasm.Path

/-!
# Domain names

A domain name consists of labels with dots between them, and a dot may follow the last one. It can
be written in ASCII label by label, and read from there.
-/

namespace BrainfuckWasm.Domain

/-- The dot for any character that divides labels. -/
def plainDot (c : Char) : Char :=
  if c = '\u3002' || c = '\uFF0E' || c = '\uFF61' then '.' else c

/-- The labels of a name, and whether a dot follows the last one. -/
def labelsOf (name : List Char) : List (List Char) × Bool :=
  let pieces := Path.splitOn '.' (name.map plainDot)
  if pieces.getLast? = some [] then (pieces.dropLast, true) else (pieces, false)

/-- A name written in ASCII. -/
def write (name : List Char) : Except NameError (List Char) :=
  let (labels, isDotted) := labelsOf name
  match labels.mapM writeLabel with
  | .error cause => .error cause
  | .ok written =>
    let text := ['.'].intercalate written ++ if isDotted then ['.'] else []
    if (if isDotted then maxNameLength else maxNameLength - 1) < text.length then
      .error .nameTooLong
    else .ok text

/-- What is wrong with a name in ASCII that is read. -/
def readError? (name : List Char) : Option NameError :=
  if maxNameLength < name.length then some .nameTooLong
  else
    (labelsOf name).1.findSome? fun label =>
      match readLabel label with
      | .error cause => some cause
      | .ok _ => none

end BrainfuckWasm.Domain
