import BrainfuckWasm.Build
import BrainfuckWasm.Options.Parse

/-!
# The compiler's command line

The words of a command line become the options of one build, and the report of that build becomes
an exit status and the text on the two output streams. Faults of the source, of the files and of
the assembler have statuses of their own. A few errors have none: they end the run without a
status.
-/

namespace BrainfuckWasm.CommandLine

open Options (Action Grammar Stop Complaint)

/-- The options of the compiler. -/
inductive Key where
  | help
  | output
  | watOnly
  | keepWat
  | addressing
  | assembler
  | verbose
  deriving DecidableEq, Repr

/-- What the compiler's command line may hold. -/
def grammar : Grammar Key where
  specs :=
    [{ key := .help, names := ["-h", "--help"] },
      { key := .output, names := ["-o", "--output"], takesValue := true },
      { key := .watOnly, names := ["-c", "--wat-only"] },
      { key := .keepWat, names := ["--keep-wat"] },
      { key := .addressing, names := ["--addressing"], takesValue := true },
      { key := .assembler, names := ["--assembler"], takesValue := true },
      { key := .verbose, names := ["-v", "--verbose"] }]
  place := some "source"

/-- What the options of a command line amount to. -/
structure Settings where
  build : Build.Options := {}
  verbose : Bool := false
  deriving DecidableEq, Repr

/-- The reason why a word is refused as an addressing mode. -/
def addressingRefusal (word : String) : String :=
  "invalid choice: " ++ Text.quoted word ++ " (choose from " ++
    String.intercalate ", " (Addressing.all.map fun mode => Text.quoted mode.word) ++ ")"

/-- The program that the value of an option names; an emptied value is a list. -/
def program (value : Options.Value) : Assembler.Program :=
  match value.word? with
  | some executable => .named executable
  | none => .other "list"

/-- What each option does. -/
def act : Action Key Settings := fun settings spec value =>
  let build := settings.build
  match spec.key with
  | .help => .error .help
  | .output => .ok { settings with build := { build with output := value.word? } }
  | .watOnly => .ok { settings with build := { build with watOnly := true } }
  | .keepWat => .ok { settings with build := { build with keepWat := true } }
  | .addressing =>
    match value with
    | .text word =>
      match Addressing.ofWord? word with
      | some _ => .ok { settings with build := { build with addressing := .named word } }
      | none => .error (.complaint (.valueRefused spec.title (addressingRefusal word)))
    | _ => .ok { settings with build := { build with addressing := .other "[]" } }
  | .assembler => .ok { settings with build := { build with assembler := program value } }
  | .verbose => .ok { settings with verbose := true }

/-- The build that a command line asks for. -/
structure Invocation where
  source : String
  settings : Settings
  deriving DecidableEq, Repr

/-- Read a command line. -/
def parse (words : List String) : Except Stop Invocation :=
  (Options.parse grammar act {} words).map fun (settings, source) =>
    ⟨source.getD "", settings⟩

/-- How to call the compiler. -/
def usage : String :=
  "usage: bf2wasm [-h] [-o OUTPUT] [-c] [--keep-wat]\n" ++
  "               [--addressing \x7blocal,global\x7d] [--assembler ASSEMBLER] [-v]\n" ++
  "               source\n"

/-- The help text. -/
def help : String :=
  usage ++
  "\n" ++
  "Compile Brainfuck to a WebAssembly module\n" ++
  "\n" ++
  "positional arguments:\n" ++
  "  source                Path to Brainfuck source file\n" ++
  "\n" ++
  "options:\n" ++
  "  -h, --help            show this help message and exit\n" ++
  "  -o OUTPUT, --output OUTPUT\n" ++
  "                        Output file; its extension is replaced by .wat/.wasm\n" ++
  "                        (default: the source path)\n" ++
  "  -c, --wat-only        Only emit the .wat text module, don't run wat2wasm\n" ++
  "  --keep-wat            Keep the intermediate .wat after a successful wat2wasm\n" ++
  "                        run\n" ++
  "  --addressing \x7blocal,global\x7d\n" ++
  "                        Hold the cell pointer in a function local or a module\n" ++
  "                        global (default: local)\n" ++
  "  --assembler ASSEMBLER\n" ++
  "                        wat2wasm executable to invoke (default: wat2wasm)\n" ++
  "  -v, --verbose         Log build steps to stderr\n"

/-- The text that a complaint puts on the error stream. -/
def complaintText (cause : Complaint) : String :=
  usage ++ "bf2wasm: error: " ++ cause.message ++ "\n"

/-- How a run ends: with a status, or without one because of an error that nothing handles. -/
inductive Ending where
  | exited (status : Nat)
  | escaped (error : Build.Error)
  deriving DecidableEq, Repr

/-- What a run leaves behind. -/
structure Run where
  ending : Ending
  stdout : String
  stderr : String
  commands : List Assembler.Command
  tree : FileTree

/-- The log on the error stream: all of it with its origins, or the bare warnings. -/
def logText (verbose : Bool) (log : List Build.LogEntry) : String :=
  if verbose then String.join (log.map fun entry => entry.origin ++ ": " ++ entry.message ++ "\n")
  else
    String.join ((log.filter (·.level = .warning)).map fun entry => entry.message ++ "\n")

/-- The end of a run whose build has failed, and what it says. -/
def failureEnding (error : Build.Error) : Ending × String :=
  match error with
  | .sourceNotFound _ | .unreadable _ _ | .unwritable _ _ | .module (.stopped (.unbalanced _)) =>
    (.exited 1, "error: " ++ error.message ++ "\n")
  | .assembler (.notFound _) =>
    (.exited 2, "error: " ++ error.message ++ "\n" ++
      "If you didn't intend to use wat2wasm, pass the -c flag.\n")
  | .assembler (.failed _ status diagnostics) =>
    (.exited 3, "error: wat2wasm failed to compile the .wat file (exit code " ++
      toString status ++ ")\n" ++ diagnostics)
  | _ => (.escaped error, "")

/-- What a run whose build has succeeded says. -/
def successText (assembler : Assembler.Program) (product : Build.Product) : String :=
  match product.wasm, assembler with
  | some wasm, .named executable =>
    "Compiled module using " ++ executable ++ ": " ++ wasm.render ++ "\n"
  | _, _ => "Wrote " ++ product.wat.render ++ "\n"

/-- Carry out an invocation. -/
def invoke (tool : Assembler.Tool) (invocation : Invocation) (tree : FileTree) : Run :=
  let options := invocation.settings.build
  match options.addressing.mode? with
  | none => ⟨.escaped (.module (.unknownAddressing options.addressing)), "", "", [], tree⟩
  | some _ =>
    let report := Build.run tool invocation.source options tree
    let logged := logText invocation.settings.verbose report.log
    match report.outcome with
    | .ok product =>
      ⟨.exited 0, successText options.assembler product, logged, report.commands, report.tree⟩
    | .error error =>
      let (ending, said) := failureEnding error
      ⟨ending, "", logged ++ said, report.commands, report.tree⟩

/-- Run the compiler on the words of a command line. -/
def run (tool : Assembler.Tool) (words : List String) (tree : FileTree) : Run :=
  match parse words with
  | .error .help => ⟨.exited 0, help, "", [], tree⟩
  | .error (.complaint cause) => ⟨.exited 2, "", complaintText cause, [], tree⟩
  | .ok invocation => invoke tool invocation tree

end BrainfuckWasm.CommandLine
