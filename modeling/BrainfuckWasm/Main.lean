import BrainfuckWasm.CommandLine

/-!
# The compiler as a program

The program takes a picture of the files that a build can touch, runs the build on the picture, and
carries the changes over to the disk. It starts no other program, so a build that gets as far as the
assembler ends there, with the module text written.
-/

namespace BrainfuckWasm.Main

/-- The text of a location as an absolute path. -/
def absolute (location : Location) : String :=
  "/" ++ String.intercalate "/" location

/-- What stands at a location on the disk. -/
def probe (location : Location) : IO (Option Node) := do
  try
    let content ← IO.FS.readBinFile (absolute location)
    return some (.file content.toList)
  catch error =>
    match error with
    | .noFileOrDirectory .. => return none
    | _ => return some .directory

/-- The tree with what stands on the disk along names from a location. -/
def photograph (tree : FileTree) (location : Location) : List String → IO FileTree
  | [] => return tree
  | name :: rest => do
    let next := if name = ".." then location.dropLast else location ++ [name]
    match ← probe next with
    | some node => photograph (tree.set next node) next rest
    | none => return tree

/-- The tree of the files that a build of a source can touch. -/
def snapshot (invocation : CommandLine.Invocation) : IO FileTree := do
  let directory := (Path.ofText (← IO.currentDir).toString).names
  let source := Path.ofText invocation.source
  let outputs := match OutputPaths.derive invocation.source invocation.settings.build.output with
    | .ok paths => [paths.wat, paths.wasm]
    | .error _ => []
  (source :: outputs).foldlM
    (fun tree path =>
      photograph tree (if path.root = .relative then directory else []) path.names)
    (FileTree.empty directory)

/-- Carry the changes from one tree to another over to the disk. -/
def develop (before after : FileTree) : IO Unit := do
  for (location, node) in after.nodes do
    match node with
    | .file content =>
      if before.node? location ≠ some node then
        IO.FS.writeBinFile (absolute location) content.toByteArray
    | .directory => pure ()
  for (location, node) in before.nodes do
    match node with
    | .file _ =>
      if (after.node? location).isNone then IO.FS.removeFile (absolute location)
    | .directory => pure ()

/-- The tool of a program that starts no other program. -/
def noTool : Assembler.Tool := fun _ tree => (tree, .unstartable)

/-- Run the compiler on the words of a command line. -/
def run (words : List String) : IO UInt32 := do
  let before ← match CommandLine.parse words with
    | .ok invocation => snapshot invocation
    | .error _ => pure (FileTree.empty [])
  let result := CommandLine.run noTool words before
  develop before result.tree
  IO.print result.stdout
  IO.eprint result.stderr
  match result.ending with
  | .exited status => return UInt32.ofNat status
  | .escaped error =>
    IO.eprintln error.message
    return 1

end BrainfuckWasm.Main

/-- The program. -/
def main (words : List String) : IO UInt32 :=
  BrainfuckWasm.Main.run words
