import BrainfuckWasm.Text.Quoted

/-!
# Normalised paths

A path is a root and a list of names. Reading one drops empty and `.` names and keeps `..`. Two
leading slashes are a root of their own; any other number of them is the plain root. The last name
splits into a stem and a suffix at its last dot, provided that the dot is neither the first nor the
last character of the name.
-/

namespace BrainfuckWasm

/-- What a path starts from. -/
inductive Path.Root where
  | relative
  | slash
  | doubleSlash
  deriving DecidableEq, Repr

/-- A root as text. -/
def Path.Root.text : Path.Root → String
  | .relative => ""
  | .slash => "/"
  | .doubleSlash => "//"

/-- A normalised path. -/
structure Path where
  root : Path.Root
  names : List String
  deriving DecidableEq, Repr

namespace Path

/-- The pieces of a list between separators, of which there is one more than separators. -/
def splitOn (separator : Char) : List Char → List (List Char)
  | [] => [[]]
  | c :: rest =>
    if c = separator then [] :: splitOn separator rest
    else
      match splitOn separator rest with
      | [] => [[c]]
      | piece :: pieces => (c :: piece) :: pieces

/-- The root that leading slashes denote. -/
def rootOf : List Char → Root
  | '/' :: '/' :: '/' :: _ => .slash
  | '/' :: '/' :: _ => .doubleSlash
  | '/' :: _ => .slash
  | _ => .relative

/-- Whether a piece between slashes counts as a name. -/
def isName (piece : List Char) : Bool :=
  piece ≠ [] && piece ≠ ['.']

/-- The path that a text denotes. -/
def ofText (text : String) : Path where
  root := rootOf text.toList
  names := ((splitOn '/' text.toList).filter isName).map String.ofList

/-- The path that a text denotes to the system: dots stand in it as they are, and a slash at its end
is followed by one, since only a directory may stand there. -/
def verbatim (text : String) : Path where
  root := rootOf text.toList
  names :=
    let pieces := splitOn '/' text.toList
    let ended := if pieces.getLast? = some [] then pieces.dropLast ++ [['.']] else pieces
    (ended.filter (· ≠ [])).map String.ofList

/-- A path as text; the empty relative path is a dot. -/
def render (path : Path) : String :=
  if path.root = .relative && path.names.isEmpty then "."
  else path.root.text ++ String.intercalate "/" path.names

/-- A path as diagnostics show it. -/
def shown (path : Path) : String :=
  "PosixPath(" ++ Text.quoted path.render ++ ")"

/-- A name without its suffix. -/
def stem (name : List Char) : List Char :=
  let backwards := name.reverse
  match backwards.takeWhile (· ≠ '.'), backwards.dropWhile (· ≠ '.') with
  | _ :: _, _ :: front@(_ :: _) => front.reverse
  | _, _ => name

/-- The path beside this one whose name is the stem of its name with another suffix. -/
def withSuffix? (path : Path) (suffix : String) : Option Path :=
  match path.names.getLast? with
  | none => none
  | some name =>
    some { path with
      names := path.names.dropLast ++ [String.ofList (stem name.toList) ++ suffix] }

end Path

/-- Where a build puts the text of a module and its binary. -/
structure OutputPaths where
  wat : Path
  wasm : Path
  deriving DecidableEq, Repr

/-- The output paths beside the requested output, or beside the source if no output or an empty
one is requested. A path without a name has no output paths, and is returned as the reason. -/
def OutputPaths.derive (source : String) (output : Option String) : Except Path OutputPaths :=
  let chosen := Path.ofText (match output with
    | none => source
    | some text => if text.isEmpty then source else text)
  match chosen.withSuffix? ".wat", chosen.withSuffix? ".wasm" with
  | some wat, some wasm => .ok ⟨wat, wasm⟩
  | _, _ => .error chosen

end BrainfuckWasm
