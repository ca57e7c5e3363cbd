import BrainfuckWasm.Assembler
import BrainfuckWasm.Module

/-!
# Building a file

A build reads a source file, writes the module text beside it, has it assembled, and deletes the
text unless it is to be kept. Each step comes after the one before it has succeeded, so a failure
leaves what the earlier steps have done, and what has come of a write that was broken off. A report
holds the outcome, the log, the commands that were started and the files afterwards.
-/

namespace BrainfuckWasm.Build

open Assembler (Command Program Tool)

/-- What is asked of a build. -/
structure Options where
  /-- The path whose suffix is replaced; the source path if absent or empty. -/
  output : Option String := none
  /-- Stop once the module text is written. -/
  watOnly : Bool := false
  /-- Keep the module text after it was assembled. -/
  keepWat : Bool := false
  addressing : Addressing.Offer := .named "local"
  /-- The program to run; unless it is named no command can be formed. -/
  assembler : Program := Assembler.defaultProgram
  deriving DecidableEq, Repr

/-- What a build has made. -/
structure Product where
  wat : Path
  wasm : Option Path
  watRemoved : Bool
  deriving DecidableEq, Repr

/-- Why a build stops. -/
inductive Error where
  | unnamed (path : Path)
  | embeddedNull
  | sourceNotFound (path : Path)
  | unreadable (path : Path) (cause : SystemError)
  | module (error : Module.Error)
  | unwritable (path : Path) (cause : SystemError)
  | assembler (error : Assembler.Error)
  deriving DecidableEq, Repr

/-- The diagnostic of an error. -/
def Error.message : Error → String
  | .unnamed path => path.shown ++ " has an empty name"
  | .embeddedNull => "embedded null byte"
  | .sourceNotFound path => "Source file not found: " ++ path.render
  | .unreadable path cause => "Failed to read " ++ path.render ++ ": " ++ cause.describe path
  | .module error => error.message
  | .unwritable path cause => "Unable to write " ++ path.render ++ ": " ++ cause.describe path
  | .assembler error => error.message

/-- How much a log entry matters. -/
inductive Level where
  | info
  | warning
  deriving DecidableEq, Repr

/-- A level in capitals. -/
def Level.name : Level → String
  | .info => "INFO"
  | .warning => "WARNING"

/-- An entry of the log. -/
structure LogEntry where
  level : Level
  /-- The part of the program that speaks. -/
  origin : String
  message : String
  deriving DecidableEq, Repr

/-- An entry of the build itself. -/
def note (message : String) : LogEntry :=
  ⟨.info, "bf2wasm.build", message⟩

/-- The entry about a command that is to be started. -/
def runningEntry (command : Command) : LogEntry :=
  ⟨.info, "bf2wasm.assembler", "running " ++ String.intercalate " " command.words⟩

/-- The entry about a module text that could not be deleted. -/
def undeletedEntry (path : Path) (cause : SystemError) : LogEntry :=
  ⟨.warning, "bf2wasm.build",
    "could not delete intermediate " ++ path.render ++ ": " ++ cause.describe path⟩

/-- What a build leaves behind. -/
structure Report where
  outcome : Except Error Product
  log : List LogEntry
  commands : List Command
  tree : FileTree

/-- The error for a source that cannot be read. -/
def readError (path : Path) : AccessError → Error
  | .embeddedNull => .embeddedNull
  | .system .notFound => .sourceNotFound path
  | .system cause => .unreadable path cause

/-- The error for a module text that cannot be written. -/
def writeError (path : Path) : AccessError → Error
  | .embeddedNull => .embeddedNull
  | .system cause => .unwritable path cause

/-- Delete the module text, and only warn if that fails. -/
def removeText (path : Path) (tree : FileTree) : FileTree × Bool × List LogEntry :=
  match tree.delete path with
  | .ok left => (left, true, [])
  | .error (.system cause) => (tree, false, [undeletedEntry path cause])
  | .error .embeddedNull => (tree, false, [])

/-- The last part of a build, after the module text was written. -/
def finish (tool : Tool) (options : Options) (paths : OutputPaths) (log : List LogEntry)
    (tree : FileTree) : Report :=
  if options.watOnly then ⟨.ok ⟨paths.wat, none, false⟩, log, [], tree⟩
  else
    match options.assembler.command paths.wat.render paths.wasm.render with
    | .error error => ⟨.error (.assembler error), log, [], tree⟩
    | .ok command =>
      let log := log ++ [runningEntry command]
      match Assembler.assemble tool command tree with
      | (left, .error error) => ⟨.error (.assembler error), log, [command], left⟩
      | (left, .ok _) =>
        let log := log ++ [note ("assembled " ++ paths.wasm.render)]
        if options.keepWat then
          ⟨.ok ⟨paths.wat, some paths.wasm, false⟩, log, [command], left⟩
        else
          let (cleaned, removed, warnings) := removeText paths.wat left
          ⟨.ok ⟨paths.wat, some paths.wasm, removed⟩, log ++ warnings, [command], cleaned⟩

/-- Build the source file at a path. -/
def run (tool : Tool) (source : String) (options : Options) (tree : FileTree) : Report :=
  match OutputPaths.derive source options.output with
  | .error path => ⟨.error (.unnamed path), [], [], tree⟩
  | .ok paths =>
    let path := Path.ofText source
    match tree.read path with
    | .error cause => ⟨.error (readError path cause), [], [], tree⟩
    | .ok bytes =>
      let text := Text.textOfBytes bytes
      let log := [note ("read " ++ toString text.length ++ " characters from " ++ path.render)]
      match Module.compileOffered text options.addressing with
      | .error error => ⟨.error (.module error), log, [], tree⟩
      | .ok rendered =>
        match tree.write paths.wat (Text.bytesOfText rendered) with
        | .error failure => ⟨.error (writeError paths.wat failure.cause), log, [], failure.left⟩
        | .ok written =>
          finish tool options paths (log ++ [note ("wrote " ++ paths.wat.render)]) written

end BrainfuckWasm.Build
