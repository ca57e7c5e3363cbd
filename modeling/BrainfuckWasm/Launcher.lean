import BrainfuckWasm.Assembler
import BrainfuckWasm.Options.Parse
import BrainfuckWasm.Text.Numeral

/-!
# Launching the compile server

The launcher turns a command line into at most one server run. A run serves either an application
made for it, with the requested assembler, or one that a reloader makes again from the name of its
factory, which always has the default assembler. So the two requests exclude each other.
-/

namespace BrainfuckWasm.Launcher

open Options (Action Grammar Stop Complaint)

/-- The options of the launcher. -/
inductive Key where
  | help
  | host
  | listenAt
  | reload
  | assembler
  deriving DecidableEq, Repr

/-- What the launcher's command line may hold. -/
def grammar : Grammar Key where
  specs :=
    [{ key := .help, names := ["-h", "--help"] },
      { key := .host, names := ["--host"], takesValue := true },
      { key := .listenAt, names := ["--port"], takesValue := true },
      { key := .reload, names := ["--reload"] },
      { key := .assembler, names := ["--assembler"], takesValue := true }]

/-- What the options of a command line amount to. An option that was given nothing holds
nothing. -/
structure Settings where
  host : Option String := some "127.0.0.1"
  tcpPort : Option Int := some 8000
  reload : Bool := false
  assembler : Option String := some Assembler.defaultExecutable
  deriving DecidableEq, Repr

/-- What each option does. -/
def act : Action Key Settings := fun settings spec value =>
  match spec.key with
  | .help => .error .help
  | .host => .ok { settings with host := value.word? }
  | .listenAt =>
    match value with
    | .text word =>
      match Text.integer? word with
      | some number => .ok { settings with tcpPort := some number }
      | none =>
        .error (.complaint (.valueRefused spec.title ("invalid int value: " ++ Text.quoted word)))
    | _ => .ok { settings with tcpPort := none }
  | .reload => .ok { settings with reload := true }
  | .assembler => .ok { settings with assembler := value.word? }

/-- Read a command line. -/
def parse (words : List String) : Except Stop Settings :=
  (Options.parse grammar act {} words).map (·.1)

/-- How to call the launcher. -/
def usage : String :=
  "usage: bf2wasm-webui [-h] [--host HOST] [--port PORT] [--reload]\n" ++
  "                     [--assembler ASSEMBLER]\n"

/-- The help text. -/
def help : String :=
  usage ++
  "\n" ++
  "Run the bf2wasm compile server\n" ++
  "\n" ++
  "options:\n" ++
  "  -h, --help            show this help message and exit\n" ++
  "  --host HOST           Bind address (default: 127.0.0.1)\n" ++
  "  --port PORT           Port to listen on (default: 8000)\n" ++
  "  --reload              Enable auto-reload (development only; uses the default\n" ++
  "                        wat2wasm)\n" ++
  "  --assembler ASSEMBLER\n" ++
  "                        wat2wasm executable used for /module.wasm (default:\n" ++
  "                        wat2wasm)\n"

/-- What a server run serves. -/
inductive Application where
  /-- One that the reloader makes from the name of its factory, with the default assembler. -/
  | reloaded
  /-- One made for this run, with an assembler. -/
  | made (assembler : Option String)
  deriving DecidableEq, Repr

/-- The name under which a reloader finds the factory. -/
def factoryName : String := "bf2wasm.webui.app:create_app"

/-- The assembler that an application uses. -/
def Application.assembler : Application → Option String
  | .reloaded => some Assembler.defaultExecutable
  | .made assembler => assembler

/-- A run of the server. -/
structure ServerRun where
  application : Application
  host : Option String
  tcpPort : Option Int
  deriving DecidableEq, Repr

/-- What a launch amounts to. -/
structure Launch where
  status : Nat
  stdout : String := ""
  stderr : String := ""
  runs : List ServerRun := []
  deriving DecidableEq, Repr

/-- What is said when the server library is missing. -/
def serverMissing : String :=
  "uvicorn is required to run the bf2wasm compile server: No module named 'uvicorn'\n"

/-- What is said when an assembler is requested together with reloading. -/
def assemblerWithReload : String :=
  "--assembler cannot be combined with --reload\n"

/-- The launch that settings ask for. -/
def start (serverInstalled : Bool) (settings : Settings) : Launch :=
  if !serverInstalled then { status := 1, stderr := serverMissing }
  else if settings.reload then
    if settings.assembler = some Assembler.defaultExecutable then
      { status := 0, runs := [⟨.reloaded, settings.host, settings.tcpPort⟩] }
    else { status := 1, stderr := assemblerWithReload }
  else { status := 0, runs := [⟨.made settings.assembler, settings.host, settings.tcpPort⟩] }

/-- Launch the server for the words of a command line. -/
def run (serverInstalled : Bool) (words : List String) : Launch :=
  match parse words with
  | .error .help => { status := 0, stdout := help }
  | .error (.complaint cause) =>
    { status := 2, stderr := usage ++ "bf2wasm-webui: error: " ++ cause.message ++ "\n" }
  | .ok settings => start serverInstalled settings

end BrainfuckWasm.Launcher
