import BrainfuckWasm.FileTree
import BrainfuckWasm.Text.Blank

/-!
# The external assembler

The binary form of a module is made by a program outside. A tool is what running that program
amounts to: the files it leaves behind and how it ended. Everything that is said about a run is
said for an arbitrary tool; a script is one that follows a fixed course of action.
-/

namespace BrainfuckWasm.Assembler

/-- The request to assemble the text at one path into a binary at another. -/
structure Command where
  executable : String
  wat : String
  wasm : String
  deriving DecidableEq, Repr

/-- The words that start a command. -/
def Command.words (command : Command) : List String :=
  [command.executable, command.wat, "-o", command.wasm]

/-- What is given as the program to run: its name, or a value that is no name, of some kind. -/
inductive Program where
  | named (executable : String)
  | other (kind : String)
  deriving DecidableEq, Repr

/-- How the run of a tool ends. -/
inductive Exit where
  /-- The system cannot start the program. -/
  | unstartable
  /-- The command is turned down before the system is asked. -/
  | rejected (reason : String)
  /-- The program ran and ended with a status and what it wrote to its error stream. -/
  | exited (status : Int) (diagnostics : String)
  /-- The program ran and ended, and what it wrote to its streams cannot be decoded. -/
  | undecodable (reason : String)
  deriving DecidableEq, Repr

/-- The effect of a command on the files, and its end. -/
abbrev Tool := Command → FileTree → FileTree × Exit

/-- A fixed course of action of a tool. -/
inductive Script where
  | unstartable
  | rejected (reason : String)
  | failing (status : Int) (diagnostics : String)
  | assembling (binary : Option (List UInt8)) (removesText : Bool)
  deriving DecidableEq, Repr

/-- The end of a run that fails to reach a file. -/
def Exit.ofAccess : AccessError → Exit
  | .system _ => .unstartable
  | .embeddedNull => .rejected "embedded null byte"

/-- The tool that follows a script. A binary that cannot be written is passed over, and a text that
cannot be deleted counts as a failure to start. -/
def Script.tool : Script → Tool
  | .unstartable, _, tree => (tree, .unstartable)
  | .rejected reason, _, tree => (tree, .rejected reason)
  | .failing status diagnostics, _, tree => (tree, .exited status diagnostics)
  | .assembling binary removesText, command, tree =>
    let written := match binary with
      | none => tree
      | some bytes => tree.afterWrite (.verbatim command.wasm) bytes
    if removesText then
      match written.delete (.verbatim command.wat) with
      | .ok left => (left, .exited 0 "")
      | .error cause => (written, .ofAccess cause)
    else (written, .exited 0 "")

/-- The program that is run unless another one is named. -/
def defaultExecutable : String := "wat2wasm"

/-- Why no binary comes of a command. -/
inductive Error where
  | notFound (executable : String)
  | failed (executable : String) (status : Int) (diagnostics : String)
  /-- The command was turned down, or its output cannot be decoded. -/
  | rejected (reason : String)
  | notNamed (kind : String)
  deriving DecidableEq, Repr

/-- The diagnostic of an error. -/
def Error.message : Error → String
  | .notFound executable =>
    "Unable to run '" ++ executable ++ "'. Is it installed and on your PATH?"
  | .failed executable status diagnostics =>
    let said := Text.strip diagnostics
    executable ++ " exited with status " ++ toString status ++
      (if said.isEmpty then "" else ": " ++ said)
  | .rejected reason => reason
  | .notNamed kind => "sequence item 0: expected str instance, " ++ kind ++ " found"

/-- The command that runs a program on two paths. -/
def Program.command (program : Program) (wat wasm : String) : Except Error Command :=
  match program with
  | .named executable => .ok ⟨executable, wat, wasm⟩
  | .other kind => .error (.notNamed kind)

/-- The program that is run unless another one is named. -/
def defaultProgram : Program := .named defaultExecutable

/-- Run a tool on a command: the files it leaves, and the path of the binary if it ended with
status zero. -/
def assemble (tool : Tool) (command : Command) (tree : FileTree) :
    FileTree × Except Error Path :=
  match tool command tree with
  | (left, .unstartable) => (left, .error (.notFound command.executable))
  | (left, .rejected reason) => (left, .error (.rejected reason))
  | (left, .undecodable reason) => (left, .error (.rejected reason))
  | (left, .exited status diagnostics) =>
    if status = 0 then (left, .ok (.ofText command.wasm))
    else (left, .error (.failed command.executable status diagnostics))

/-- A command that was started, with the module text that it found. -/
structure Call where
  command : Command
  wat : String
  deriving DecidableEq, Repr

/-- Why a text was not assembled: the command failed, or it left no binary. -/
inductive TextError where
  | assembler (error : Error)
  | noBinary
  deriving DecidableEq, Repr

/-- Assemble a text by way of two files in a scratch directory, which holds nothing before and is
gone afterwards. -/
def assembleText (tool : Tool) (program : Program) (scratch text : String) :
    List Call × Except TextError (List UInt8) :=
  match program.command (scratch ++ "/module.wat") (scratch ++ "/module.wasm") with
  | .error error => ([], .error (.assembler error))
  | .ok command =>
    let directory := Path.ofText scratch
    let before := ((FileTree.empty []).add directory .directory).add (.ofText command.wat)
      (.file (Text.bytesOfText text))
    let (after, outcome) := assemble tool command before
    let answer := match outcome with
      | .error error => .error (.assembler error)
      | .ok binary =>
        match after.read binary with
        | .ok bytes => .ok bytes
        | .error _ => .error .noBinary
    ([⟨command, text⟩], answer)

end BrainfuckWasm.Assembler
