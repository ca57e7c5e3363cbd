import BrainfuckWasm.Body.Pass

/-!
# A reusable emitter

An emitter keeps its settings and the state of its latest pass. Every run starts a fresh pass.
Changed settings take effect with the next fresh pass: the state on show is still the one that the
old settings gave.
-/

namespace BrainfuckWasm.Body

/-- Settings that can be changed, and the latest pass. -/
structure Emitter where
  settings : Settings
  pass : Pass
  deriving DecidableEq, Repr

/-- What can be asked of an emitter. -/
inductive Emitter.Request where
  | compile (source : String)
  | reset
  | setBaseIndent (width : Int)
  | setIndentStep (width : Int)
  | setAddressing (offer : Addressing.Offer)
  deriving DecidableEq, Repr

/-- What an emitter answers. -/
inductive Emitter.Answer where
  | body (text : String)
  | done
  | stopped (stop : Stop)
  | unknownAddressing (offer : Addressing.Offer)
  deriving DecidableEq, Repr

namespace Emitter

/-- An emitter that has read nothing. -/
def new (settings : Settings) : Emitter :=
  ⟨settings, Pass.start settings⟩

/-- Carry out one request. A refused addressing mode changes nothing. -/
def handle (emitter : Emitter) : Request → Emitter × Answer
  | .compile source =>
    match Pass.run emitter.settings source.toList with
    | ⟨pass, none⟩ => (⟨emitter.settings, pass⟩, .body pass.body)
    | ⟨pass, some stop⟩ => (⟨emitter.settings, pass⟩, .stopped stop)
  | .reset => (new emitter.settings, .done)
  | .setBaseIndent width =>
    ({ emitter with settings := { emitter.settings with baseIndent := width } }, .done)
  | .setIndentStep width =>
    ({ emitter with settings := { emitter.settings with indentStep := width } }, .done)
  | .setAddressing offer =>
    match offer.mode? with
    | some mode =>
      ({ emitter with settings := { emitter.settings with addressing := mode } }, .done)
    | none => (emitter, .unknownAddressing offer)

/-- Carry out requests one after another, with the state after each. -/
def handleAll (emitter : Emitter) : List Request → List (Answer × Emitter)
  | [] => []
  | request :: rest =>
    let (next, answer) := emitter.handle request
    (answer, next) :: next.handleAll rest

end Emitter

end BrainfuckWasm.Body
