import BrainfuckWasm.Path
import BrainfuckWasm.Text.Utf8

/-!
# A tree of files

The file system that a build sees: a list of directories and files by location, a working directory,
and what the system refuses to do at a location. A path is followed name by name from the root or
from the working directory, and every name but the last must lead to a directory. Reading, writing
and deleting answer with a new tree or with the reason that the system gives.

A file is emptied before it is written. A write that is broken off therefore leaves a beginning of
what was to be written, in place of what stood there before.
-/

namespace BrainfuckWasm

/-- The names on the way from the root to a file or directory. -/
abbrev Location := List String

/-- What stands at a location. -/
inductive Node where
  | directory
  | file (content : List UInt8)
  deriving DecidableEq, Repr

/-- Why the system refuses an operation on a path. -/
inductive SystemError where
  | notFound
  | notDirectory
  | isDirectory
  | nameTooLong
  /-- Any further error, such as a missing permission or a full disk. Once the file is open, it is
  told without the path. -/
  | other (number : Nat) (words : String) (opened : Bool) (h : number ≠ 2)
  deriving DecidableEq, Repr

namespace SystemError

/-- The number of an error. -/
def number : SystemError → Nat
  | .notFound => 2
  | .notDirectory => 20
  | .isDirectory => 21
  | .nameTooLong => 36
  | .other number _ _ _ => number

/-- The words for an error. -/
def words : SystemError → String
  | .notFound => "No such file or directory"
  | .notDirectory => "Not a directory"
  | .isDirectory => "Is a directory"
  | .nameTooLong => "File name too long"
  | .other _ words _ _ => words

/-- The diagnostic of an error at a path. -/
def describe (error : SystemError) (path : Path) : String :=
  let said := "[Errno " ++ toString error.number ++ "] " ++ error.words
  match error with
  | .other _ _ true _ => said
  | _ => said ++ ": " ++ Text.quoted path.render

end SystemError

/-- Why an operation on a path fails: the path cannot be handed to the system at all, or the system
refuses it. -/
inductive AccessError where
  | embeddedNull
  | system (cause : SystemError)
  deriving DecidableEq, Repr

/-- What the system does against a write. -/
inductive WriteFault where
  /-- The file cannot be opened, and nothing has changed. -/
  | refused (cause : SystemError)
  /-- The file was emptied, and so many bytes have been written. -/
  | brokenOff (cause : SystemError) (count : Nat)
  deriving DecidableEq, Repr

/-- What the system refuses to do with the file at a location, whatever stands there. -/
structure Refusals where
  read : Option SystemError := none
  write : Option WriteFault := none
  delete : Option SystemError := none
  deriving DecidableEq, Repr

/-- Files and directories by location, the directory that relative paths start from, and what the
system refuses at each location. -/
structure FileTree where
  workingDirectory : Location
  nodes : List (Location × Node)
  refusals : Location → Refusals := fun _ => {}

/-- Why a write has failed, and the tree that it leaves. -/
structure WriteFailure where
  cause : AccessError
  left : FileTree

namespace FileTree

/-- What stands at a location; the root is always a directory. -/
def node? (tree : FileTree) (location : Location) : Option Node :=
  if location = [] then some .directory
  else (tree.nodes.find? (·.1 = location)).map (·.2)

/-- The tree with something else at a location. -/
def set (tree : FileTree) (location : Location) (node : Node) : FileTree :=
  { tree with nodes := (location, node) :: tree.nodes.filter (·.1 ≠ location) }

/-- The tree with nothing at a location. -/
def erase (tree : FileTree) (location : Location) : FileTree :=
  { tree with nodes := tree.nodes.filter (·.1 ≠ location) }

/-- What was put at a location stands there. -/
@[simp]
theorem node?_set_self (tree : FileTree) {location : Location} (node : Node) (h : location ≠ []) :
    (tree.set location node).node? location = some node := by
  simp [node?, set, h]

/-- Erasing a location changes no other. -/
theorem node?_erase_of_ne (tree : FileTree) {location other : Location}
    (h : other ≠ location) : (tree.erase location).node? other = tree.node? other := by
  have hpred : (fun entry : Location × Node =>
      decide (decide (entry.1 ≠ location) = true ∧ decide (entry.1 = other) = true)) =
      fun entry => decide (entry.1 = other) := by
    funext entry
    by_cases hentry : entry.1 = other <;> simp_all
  simp only [node?, erase, List.find?_filter, hpred]

/-- Nothing stands at a location that was erased. -/
@[simp]
theorem node?_erase_self (tree : FileTree) {location : Location} (h : location ≠ []) :
    (tree.erase location).node? location = none := by
  simp [node?, erase, h, List.find?_eq_none]

/-- Putting something at a location changes no other. -/
theorem node?_set_of_ne (tree : FileTree) {location other : Location} (node : Node)
    (h : other ≠ location) : (tree.set location node).node? other = tree.node? other := by
  have hnot : ¬location = other := fun heq => h heq.symm
  rw [← tree.node?_erase_of_ne h]
  simp [node?, set, erase, hnot]

/-- What is put at a location hides what was put there before. -/
@[simp]
theorem set_set (tree : FileTree) (location : Location) (first second : Node) :
    (tree.set location first).set location second = tree.set location second := by
  simp [set]

/-- The greatest number of bytes in a name. -/
def maxNameBytes : Nat := 255

/-- The greatest number of bytes in a path. -/
def maxPathBytes : Nat := 4095

/-- Follow one name from a location, which must be a directory. -/
def enter (tree : FileTree) (location : Location) (name : String) : Except SystemError Location :=
  match tree.node? location with
  | none => .error .notFound
  | some (.file _) => .error .notDirectory
  | some .directory =>
    if name = ".." then .ok location.dropLast
    else if name = "." then .ok location
    else if maxNameBytes < name.utf8ByteSize then .error .nameTooLong
    else .ok (location ++ [name])

/-- Follow names from a location. What the last one leads to need not exist. -/
def follow (tree : FileTree) (location : Location) : List String → Except SystemError Location
  | [] => .ok location
  | name :: rest =>
    match tree.enter location name with
    | .ok next => tree.follow next rest
    | .error cause => .error cause

/-- The location that a path leads to. -/
def locate (tree : FileTree) (path : Path) : Except AccessError Location :=
  if path.render.toList.contains '\x00' then .error .embeddedNull
  else if maxPathBytes < path.render.utf8ByteSize then .error (.system .nameTooLong)
  else
    let origin := match path.root with
      | .relative => tree.workingDirectory
      | _ => []
    (tree.follow origin path.names).mapError .system

/-- The content of the file at a path. -/
def read (tree : FileTree) (path : Path) : Except AccessError (List UInt8) :=
  match tree.locate path with
  | .error cause => .error cause
  | .ok location =>
    match (tree.refusals location).read, tree.node? location with
    | some cause, _ => .error (.system cause)
    | none, none => .error (.system .notFound)
    | none, some .directory => .error (.system .isDirectory)
    | none, some (.file content) => .ok content

/-- The tree with a content written to the file at a path, which is made if it is not there. -/
def write (tree : FileTree) (path : Path) (content : List UInt8) : Except WriteFailure FileTree :=
  match tree.locate path with
  | .error cause => .error ⟨cause, tree⟩
  | .ok location =>
    match (tree.refusals location).write, tree.node? location with
    | some (.refused cause), _ => .error ⟨.system cause, tree⟩
    | _, some .directory => .error ⟨.system .isDirectory, tree⟩
    | some (.brokenOff cause count), _ =>
      .error ⟨.system cause, tree.set location (.file (content.take count))⟩
    | none, _ => .ok (tree.set location (.file content))

/-- What an attempt to write leaves, whether it succeeds or not. -/
def afterWrite (tree : FileTree) (path : Path) (content : List UInt8) : FileTree :=
  match tree.write path content with
  | .ok written => written
  | .error failure => failure.left

/-- The tree without the file at a path. -/
def delete (tree : FileTree) (path : Path) : Except AccessError FileTree :=
  match tree.locate path with
  | .error cause => .error cause
  | .ok location =>
    match (tree.refusals location).delete, tree.node? location with
    | some cause, _ => .error (.system cause)
    | none, none => .error (.system .notFound)
    | none, some .directory => .error (.system .isDirectory)
    | none, some (.file _) => .ok (tree.erase location)

/-- The tree with a directory wherever names lead to from a location on, and the location that all
of them lead to. -/
def makeWay (tree : FileTree) (location : Location) : List String → FileTree × Location
  | [] => (tree, location)
  | ".." :: rest => tree.makeWay location.dropLast rest
  | name :: rest =>
    let next := location ++ [name]
    (if (tree.node? next).isNone then tree.set next .directory else tree).makeWay next rest

/-- A tree that holds its working directory and nothing else. -/
def empty (workingDirectory : Location) : FileTree :=
  (makeWay { workingDirectory, nodes := [] } [] workingDirectory).1

/-- The tree with a file or directory at a path, and the directories on the way to it. -/
def add (tree : FileTree) (path : Path) (node : Node) : FileTree :=
  let origin := if path.root = .relative then tree.workingDirectory else []
  match node, path.names.getLast? with
  | .file _, some name =>
    let (grown, location) := tree.makeWay origin path.names.dropLast
    grown.set (location ++ [name]) node
  | _, _ => (tree.makeWay origin path.names).1

/-- The files below a location, by their path from there, in the order of these paths. -/
def filesBelow (tree : FileTree) (location : Location) : List (String × List UInt8) :=
  let found := tree.nodes.filterMap fun (place, node) =>
    match node with
    | .file content =>
      if location.isPrefixOf place then
        some (String.intercalate "/" (place.drop location.length), content)
      else none
    | .directory => none
  found.mergeSort fun a b => a.1 ≤ b.1

end FileTree

end BrainfuckWasm
