import BrainfuckWasm.Proofs.Build.Effect
import BrainfuckWasm.Proofs.Options.Independent

/-!
# Asking for a build

Every build for a known mode and a named program can be asked for. Each option is said by one word,
with its value attached, so that no value can be taken for an option or the other way round. Options
with different keys change different settings, and the order of the words does not matter.
-/

namespace BrainfuckWasm.CommandLine

open Assembler (Tool)

/-- One option as it is asked for. -/
inductive Clause where
  | output (path : String)
  | watOnly
  | keepWat
  | addressing (mode : Addressing)
  | assembler (executable : String)
  | verbose
  deriving DecidableEq, Repr

namespace Clause

/-- The option that a clause is about. -/
def key : Clause → Key
  | output _ => .output
  | watOnly => .watOnly
  | keepWat => .keepWat
  | addressing _ => .addressing
  | assembler _ => .assembler
  | verbose => .verbose

/-- The name by which a clause calls its option. -/
def name : Clause → String
  | output _ => "--output"
  | watOnly => "-c"
  | keepWat => "--keep-wat"
  | addressing _ => "--addressing"
  | assembler _ => "--assembler"
  | verbose => "-v"

/-- The value that a clause gives. -/
def value? : Clause → Option String
  | output path => some path
  | addressing mode => some mode.word
  | assembler executable => some executable
  | watOnly | keepWat | verbose => none

/-- The word that says a clause: its name, with an equals sign before the value. -/
def word (clause : Clause) : String :=
  match clause.value? with
  | none => clause.name
  | some value => clause.name ++ "=" ++ value

/-- What a clause changes. -/
def apply (settings : Settings) : Clause → Settings
  | output path => { settings with build := { settings.build with output := some path } }
  | watOnly => { settings with build := { settings.build with watOnly := true } }
  | keepWat => { settings with build := { settings.build with keepWat := true } }
  | addressing mode =>
    { settings with build := { settings.build with addressing := .named mode.word } }
  | assembler executable =>
    { settings with build := { settings.build with assembler := .named executable } }
  | verbose => { settings with verbose := true }

/-- Clauses about different options change different settings. -/
theorem apply_comm {first second : Clause} (h : first.key ≠ second.key) (settings : Settings) :
    apply (apply settings first) second = apply (apply settings second) first := by
  cases first <;> cases second <;> first | rfl | exact absurd rfl h

/-- The grammar knows the option of a clause, and whether it takes a value. -/
theorem find?_name (clause : Clause) :
    ∃ spec, Options.find? grammar.specs clause.name = some spec ∧ spec.key = clause.key ∧
      spec.takesValue = clause.value?.isSome := by
  cases clause <;> exact ⟨_, rfl, rfl, rfl⟩

/-- The option of a clause does what the clause says. -/
theorem act_eq_apply {clause : Clause} {spec : Options.Spec Key} (hkey : spec.key = clause.key)
    (settings : Settings) :
    act settings spec (clause.value?.elim .flag .text) = .ok (apply settings clause) := by
  cases clause <;> simp [act, hkey, key, value?, apply, program, Options.Value.word?]

/-- The name of an option starts with a dash, goes on, and has no equals sign. -/
theorem name_shape (clause : Clause) :
    (∃ second rest, clause.name.toList = '-' :: second :: rest) ∧ clause.name ≠ "--" ∧
      '=' ∉ clause.name.toList := by
  cases clause <;> simp [name]

/-- The word of a clause acts on its own. -/
theorem acts_word {clause : Clause} (h : clause.value? ≠ some "--") :
    Options.Acts grammar act clause.word (apply · clause) := by
  obtain ⟨spec, hfind, hkey, htakes⟩ := clause.find?_name
  obtain ⟨hdash, hne, hequals⟩ := clause.name_shape
  have hact := act_eq_apply hkey
  rw [word]
  cases hvalue : clause.value? with
  | none =>
    rw [hvalue] at htakes hact
    exact Options.acts_flag hdash hne hfind htakes hact
  | some value =>
    rw [hvalue] at h htakes hact
    exact Options.acts_attached (by decide) hdash hequals hfind htakes (h <| congrArg some ·) hact

end Clause

/-- What is asked for. An option that is left out has its default. -/
structure Request where
  output : Option String := none
  watOnly : Bool := false
  keepWat : Bool := false
  addressing : Option Addressing := none
  assembler : Option String := none
  verbose : Bool := false
  deriving DecidableEq, Repr

namespace Request

/-- What a request says about an option. -/
def clause? (request : Request) : Key → Option Clause
  | .help => none
  | .output => request.output.map .output
  | .watOnly => if request.watOnly then some .watOnly else none
  | .keepWat => if request.keepWat then some .keepWat else none
  | .addressing => request.addressing.map .addressing
  | .assembler => request.assembler.map .assembler
  | .verbose => if request.verbose then some .verbose else none

/-- The clauses of a request, in the order of the usage line. -/
def clauses (request : Request) : List Clause :=
  [Key.output, .watOnly, .keepWat, .addressing, .assembler, .verbose].filterMap request.clause?

/-- The settings that a request means. -/
def settings (request : Request) : Settings where
  build := {
    output := request.output
    watOnly := request.watOnly
    keepWat := request.keepWat
    addressing := .named (request.addressing.getD .localVariable).word
    assembler := .named (request.assembler.getD Assembler.defaultExecutable) }
  verbose := request.verbose

/-- In the order of the usage line the clauses amount to the settings. -/
theorem foldl_clauses (request : Request) :
    request.clauses.foldl Clause.apply {} = request.settings := by
  obtain ⟨output, watOnly, keepWat, addressing, assembler, verbose⟩ := request
  cases output <;> cases watOnly <;> cases keepWat <;> cases addressing <;> cases assembler <;>
    cases verbose <;> rfl

/-- What a request says about an option is about this option. -/
theorem key_eq_of_clause? {request : Request} {key : Key} {clause : Clause}
    (h : request.clause? key = some clause) : clause.key = key := by
  cases key with
  | help => cases h
  | output | addressing | assembler =>
    obtain ⟨_, -, rfl⟩ := Option.map_eq_some_iff.mp h
    rfl
  | watOnly | keepWat | verbose =>
    obtain ⟨-, hclause⟩ := Option.ite_none_right_eq_some.mp h
    cases hclause
    rfl

/-- Every clause of a request is what it says about that option. -/
theorem clause?_of_mem {request : Request} {clause : Clause} (h : clause ∈ request.clauses) :
    request.clause? clause.key = some clause := by
  obtain ⟨key, -, hkey⟩ := List.mem_filterMap.mp h
  rwa [key_eq_of_clause? hkey]

/-- In any order the clauses amount to the settings. -/
theorem foldl_of_perm {request : Request} {clauses : List Clause}
    (h : clauses.Perm request.clauses) : clauses.foldl Clause.apply {} = request.settings := by
  rw [← request.foldl_clauses]
  refine h.foldl_eq' (fun first hfirst second hsecond settings => ?_) _
  by_cases hkey : first.key = second.key
  · -- Only one clause is about that option, so nothing is exchanged.
    have hsaid := clause?_of_mem (h.mem_iff.mp hfirst)
    rw [hkey, clause?_of_mem (h.mem_iff.mp hsecond)] at hsaid
    rw [Option.some.inj hsaid]
  · exact Clause.apply_comm hkey settings

/-- No value of a request is the separator if neither of its free texts is. -/
theorem value?_ne_separator {request : Request} (houtput : request.output ≠ some "--")
    (hassembler : request.assembler ≠ some "--") {clause : Clause}
    (h : clause ∈ request.clauses) : clause.value? ≠ some "--" := by
  have hsaid := clause?_of_mem h
  cases clause with
  | output path =>
    obtain ⟨_, hpath, ⟨⟩⟩ := Option.map_eq_some_iff.mp hsaid
    rwa [hpath] at houtput
  | assembler executable =>
    obtain ⟨_, hexecutable, ⟨⟩⟩ := Option.map_eq_some_iff.mp hsaid
    rwa [hexecutable] at hassembler
  | addressing mode => cases mode <;> decide
  | watOnly | keepWat | verbose => exact nofun

end Request

/-- The words ask for one build: they are read as its source and its settings, and to run them is
to run this build. -/
structure AsksFor (words : List String) (source : String) (settings : Settings) : Prop where
  parse_eq : parse words = .ok ⟨source, settings⟩
  run_eq : ∀ tool tree,
    let report := Build.run tool source settings.build tree
    let ran := run tool words tree
    ran.commands = report.commands ∧ ran.tree = report.tree ∧
      ran.ending = match report.outcome with
        | .ok _ => .exited 0
        | .error error => (failureEnding error).1

/-- To run words that are read as a source and settings is to run that build, if the mode is
known. -/
theorem asksFor_of_parse {words : List String} {source : String} {settings : Settings}
    {mode : Addressing} (hmode : settings.build.addressing.mode? = some mode)
    (h : parse words = .ok ⟨source, settings⟩) : AsksFor words source settings where
  parse_eq := h
  run_eq tool tree := by
    simp only [run, h]
    exact Build.invoke_of_mode? tool ⟨source, settings⟩ tree hmode

/-- Every request is met, whatever the order of its words and wherever the source stands: after the
separator, or anywhere among the options if it starts with no dash. -/
theorem asksFor_request (request : Request) (source : String) {front back : List Clause}
    (houtput : request.output ≠ some "--") (hassembler : request.assembler ≠ some "--")
    (horder : (front ++ back).Perm request.clauses) :
    AsksFor ((front ++ back).map Clause.word ++ ["--", source]) source request.settings ∧
    (source.toList.head? ≠ some '-' →
      AsksFor (front.map Clause.word ++ source :: back.map Clause.word) source
        request.settings) := by
  have hacts : ∀ clause ∈ front ++ back,
      Options.Acts grammar act clause.word (Clause.apply · clause) := fun clause hclause =>
    Clause.acts_word (Request.value?_ne_separator houtput hassembler (horder.mem_iff.mp hclause))
  have hsettings := Request.foldl_of_perm horder
  have hmode := Addressing.ofWord?_word (request.addressing.getD .localVariable)
  refine ⟨asksFor_of_parse hmode ?_, fun hsource => asksFor_of_parse hmode ?_⟩
  · rw [parse, Options.parse_separated {} source rfl hacts, hsettings]
    rfl
  · rw [parse, Options.parse_among {} rfl hsource hacts, hsettings]
    rfl

/-- Values that look like options, a source that is the separator, and one that is empty. -/
theorem asksFor_request_dashes :
    let settings : Settings := {
      build := {
        output := some "-o"
        watOnly := true
        addressing := .named "global"
        assembler := .named "--help=" }
      verbose := true }
    AsksFor ["-v", "--assembler=--help=", "--output=-o", "--addressing=global", "-c", "--", "--"]
      "--" settings ∧
    AsksFor ["-v", "--assembler=--help=", "", "--output=-o", "--addressing=global", "-c"]
      "" settings := by
  let request : Request := {
    output := some "-o"
    watOnly := true
    addressing := some .globalVariable
    assembler := some "--help="
    verbose := true }
  let front : List Clause := [.verbose, .assembler "--help="]
  let back : List Clause := [.output "-o", .addressing .globalVariable, .watOnly]
  have horder : (front ++ back).Perm request.clauses := by decide
  exact ⟨(asksFor_request request "--" (by decide) (by decide) horder).1,
    (asksFor_request request "" (by decide) (by decide) horder).2 (by decide)⟩

end BrainfuckWasm.CommandLine
