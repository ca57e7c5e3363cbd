import BrainfuckWasm.Body.Pass

/-!
# A complete module

A module imports its memory and the two character functions from the host, declares the pointer if
it is global, exports its one function, and holds a compiled body. The names are spliced in as
they are.
-/

namespace BrainfuckWasm.Module

/-- The names that the host binds the module against. -/
structure Layout where
  memoryModule : String := "js"
  memoryField : String := "mem"
  memoryPages : Int := 1
  ioModule : String := "console"
  putCharField : String := "putChar"
  getCharField : String := "getChar"
  exportName : String := "runBrainfuck"
  deriving DecidableEq, Repr

/-- The line that imports something under a two-part name. -/
def importLine (group field what : String) : String :=
  " (import \"" ++ group ++ "\" \"" ++ field ++ "\" " ++ what ++ ")"

/-- The lines before the body. -/
def header (mode : Addressing) (layout : Layout) : List String :=
  ["(module",
    importLine layout.memoryModule layout.memoryField
      ("(memory " ++ toString layout.memoryPages ++ ")"),
    importLine layout.ioModule layout.putCharField "(func $putChar (param i32))",
    importLine layout.ioModule layout.getCharField "(func $getChar (result i32))"] ++
  (match mode with
    | .globalVariable => [" (global $ptr (mut i32) (i32.const 0))"]
    | .localVariable => []) ++
  ["",
    " (export \"" ++ layout.exportName ++ "\" (func $runBrainfuck))",
    match mode with
    | .globalVariable => " (func $runBrainfuck"
    | .localVariable => " (func $runBrainfuck (local $ptr i32)"]

/-- The text of the module around a body. -/
def render (body : String) (mode : Addressing := .localVariable) (layout : Layout := {}) : String :=
  String.join ((header mode layout).map (· ++ "\n")) ++ body ++ " )\n)\n"

/-- Why no module comes of a source. -/
inductive Error where
  | unknownAddressing (offer : Addressing.Offer)
  | stopped (stop : Body.Stop)
  deriving DecidableEq, Repr

/-- The diagnostic of an error. -/
def Error.message : Error → String
  | .unknownAddressing offer => offer.refusal
  | .stopped stop => stop.message

/-- Compile a source to a complete module. -/
def compile (source : String) (mode : Addressing := .localVariable) (layout : Layout := {}) :
    Except Body.Stop String :=
  (Body.compile { addressing := mode } source).map fun compiled => render compiled.text mode layout

/-- Compile a source for an offered addressing mode, which is looked at before the source. -/
def compileOffered (source : String) (offer : Addressing.Offer) (layout : Layout := {}) :
    Except Error String :=
  match offer.mode? with
  | none => .error (.unknownAddressing offer)
  | some mode => (compile source mode layout).mapError .stopped

end BrainfuckWasm.Module
