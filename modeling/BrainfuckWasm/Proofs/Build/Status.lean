import BrainfuckWasm.Proofs.Build.Effect

/-!
# How a command line ends

A run of the compiler ends with a status of at most three, except for a few errors that nothing
handles. Here these are listed with the exact condition of each: a mode or a program that was
emptied on the command line, an output path that would have no name, a null character in a path, a
margin that cannot be made, and an assembler that is turned down before it starts or whose output
cannot be decoded. The others do not depend on the assembler.
-/

namespace BrainfuckWasm

namespace FileTree

/-- Reading is turned down for a null character only. -/
theorem read_eq_embeddedNull_iff {tree : FileTree} {path : Path} :
    tree.read path = .error .embeddedNull ↔ '\x00' ∈ path.render.toList := by
  rw [← locate_eq_embeddedNull_iff tree, read]
  cases tree.locate path with
  | error cause => simp
  | ok place =>
    simp only [reduceCtorEq, iff_false]
    split <;> simp

/-- A path with a null character is turned down before anything is written. -/
theorem write_of_embeddedNull (tree : FileTree) {path : Path} (content : List UInt8)
    (h : '\x00' ∈ path.render.toList) :
    tree.write path content = .error ⟨.embeddedNull, tree⟩ := by
  rw [write, (locate_eq_embeddedNull_iff tree).mpr h]

/-- Writing is turned down for a null character only. -/
theorem mem_of_write_eq_embeddedNull {tree left : FileTree} {path : Path} {content : List UInt8}
    (h : tree.write path content = .error ⟨.embeddedNull, left⟩) : '\x00' ∈ path.render.toList := by
  rw [← locate_eq_embeddedNull_iff tree]
  rw [write] at h
  cases hlocate : tree.locate path with
  | error cause =>
    simp only [hlocate, Except.error.injEq, WriteFailure.mk.injEq] at h
    rw [h.1]
  | ok place =>
    simp only [hlocate] at h
    split at h <;> simp at h

end FileTree

namespace CommandLine

open Assembler (Tool)
open Build (Stops Writes commandOf errorOf? withText)

/-- The errors that a command line has no status for, each with its condition on the build that was
asked for. -/
inductive Unhandled (tool : Tool) (source : String) (options : Build.Options) (tree : FileTree) :
    Build.Error → Prop where
  /-- The mode was emptied. -/
  | modeless (hmode : options.addressing.mode? = none) :
      Unhandled tool source options tree (.module (.unknownAddressing options.addressing))
  /-- The path that is to get the suffixes has no name. -/
  | unnamed {mode : Addressing} {path : Path} (hmode : options.addressing.mode? = some mode)
      (hpaths : OutputPaths.derive source options.output = .error path) :
      Unhandled tool source options tree (.unnamed path)
  | nullSource {mode : Addressing} {paths : OutputPaths}
      (hmode : options.addressing.mode? = some mode)
      (hpaths : OutputPaths.derive source options.output = .ok paths)
      (hnull : '\x00' ∈ (Path.ofText source).render.toList) :
      Unhandled tool source options tree .embeddedNull
  /-- The loops of the source are too deep for a margin. -/
  | marginless {mode : Addressing} {paths : OutputPaths} {bytes : List UInt8}
      {cause : Body.MarginError} (hmode : options.addressing.mode? = some mode)
      (hpaths : OutputPaths.derive source options.output = .ok paths)
      (hread : tree.read (.ofText source) = .ok bytes)
      (hcompile : Module.compile (Text.textOfBytes bytes) mode = .error (.margin cause)) :
      Unhandled tool source options tree (.module (.stopped (.margin cause)))
  | nullOutput {mode : Addressing} {paths : OutputPaths} {bytes : List UInt8} {rendered : String}
      (hmode : options.addressing.mode? = some mode)
      (hpaths : OutputPaths.derive source options.output = .ok paths)
      (hread : tree.read (.ofText source) = .ok bytes)
      (hcompile : Module.compile (Text.textOfBytes bytes) mode = .ok rendered)
      (hnull : '\x00' ∈ paths.wat.render.toList) :
      Unhandled tool source options tree .embeddedNull
  /-- The name of the program was emptied. -/
  | nameless {paths : OutputPaths} {place : Location} {rendered kind : String}
      (hwrites : Writes source options tree paths place rendered)
      (hwatOnly : options.watOnly = false) (hprogram : options.assembler = .other kind) :
      Unhandled tool source options tree (.assembler (.notNamed kind))
  /-- The command was turned down before it started, or its output cannot be decoded. -/
  | rejected {paths : OutputPaths} {place : Location} {rendered executable reason : String}
      (hwrites : Writes source options tree paths place rendered)
      (hwatOnly : options.watOnly = false) (hprogram : options.assembler = .named executable)
      (hexit : errorOf? executable
        (tool (commandOf paths executable) (withText tree place rendered)).2 =
          some (.rejected reason)) :
      Unhandled tool source options tree (.assembler (.rejected reason))

/-- Compiling for an offered mode fails as compiling for the mode does. -/
theorem compileOffered_of_mode? {source : String} {offer : Addressing.Offer} {mode : Addressing}
    (h : offer.mode? = some mode) :
    Module.compileOffered source offer =
      (Module.compile source mode).mapError Module.Error.stopped := by
  rw [Module.compileOffered, h]

/-- An error that ends a run without a status is the error of its build. -/
theorem failureEnding_cases (error : Build.Error) :
    (failureEnding error).1 = .escaped error ∨
      ∃ status ≤ 3, (failureEnding error).1 = .exited status := by
  cases error with
  | unnamed path => exact Or.inl rfl
  | embeddedNull => exact Or.inl rfl
  | sourceNotFound path => exact Or.inr ⟨1, by decide, rfl⟩
  | unreadable path cause => exact Or.inr ⟨1, by decide, rfl⟩
  | unwritable path cause => exact Or.inr ⟨1, by decide, rfl⟩
  | module error =>
    cases error with
    | unknownAddressing offer => exact Or.inl rfl
    | stopped stop =>
      cases stop with
      | unbalanced fault => exact Or.inr ⟨1, by decide, rfl⟩
      | margin cause => exact Or.inl rfl
  | assembler error =>
    cases error with
    | notFound executable => exact Or.inr ⟨2, by decide, rfl⟩
    | failed executable status diagnostics => exact Or.inr ⟨3, by decide, rfl⟩
    | rejected reason => exact Or.inl rfl
    | notNamed kind => exact Or.inl rfl

section Invocation

variable {source : String} {settings : Settings} {tree : FileTree} {error : Build.Error}

/-- A command line ends as the error of its build has it. -/
theorem ending_of_outcome {tool : Tool} {mode : Addressing}
    (hmode : settings.build.addressing.mode? = some mode)
    (h : (Build.run tool source settings.build tree).outcome = .error error) :
    (invoke tool ⟨source, settings⟩ tree).ending = (failureEnding error).1 := by
  rw [(Build.invoke_of_mode? tool ⟨source, settings⟩ tree hmode).2.2]
  simp only [h]

/-- A build with a reason to stop ends the command line as that reason has it. -/
theorem ending_of_stops (tool : Tool) {mode : Addressing}
    (hmode : settings.build.addressing.mode? = some mode)
    (h : Stops source settings.build tree error) :
    (invoke tool ⟨source, settings⟩ tree).ending = (failureEnding error).1 := by
  obtain ⟨log, hrun⟩ := h.run_eq tool
  apply ending_of_outcome hmode
  rw [hrun]

/-- An unhandled error ends the run without a status. -/
theorem Unhandled.escaped {tool : Tool} (h : Unhandled tool source settings.build tree error) :
    (invoke tool ⟨source, settings⟩ tree).ending = .escaped error := by
  cases h with
  | modeless hmode => simp only [invoke, hmode]
  | unnamed hmode hpaths => exact ending_of_stops tool hmode (.unnamed hpaths)
  | nullSource hmode hpaths hnull =>
    exact ending_of_stops tool hmode (.unread hpaths (FileTree.read_eq_embeddedNull_iff.mpr hnull))
  | @marginless mode paths bytes cause hmode hpaths hread hcompile =>
    have hoffered : Module.compileOffered (Text.textOfBytes bytes) settings.build.addressing =
        .error (.stopped (.margin cause)) := by
      rw [compileOffered_of_mode? hmode, hcompile]
      rfl
    exact ending_of_stops tool hmode (.uncompiled hpaths hread hoffered)
  | nullOutput hmode hpaths hread hcompile hnull =>
    have hoffered := Build.compileOffered_eq_ok_iff.mpr ⟨_, hmode, hcompile⟩
    exact ending_of_stops tool hmode
      (.unwritten hpaths hread hoffered (FileTree.write_of_embeddedNull tree _ hnull) rfl)
  | @nameless paths place rendered kind hwrites hwatOnly hprogram =>
    obtain ⟨bytes, mode, -, hmode, -⟩ := hwrites.rendered_eq
    obtain ⟨log, hrun⟩ := hwrites.run_eq tool
    have houtcome : (Build.run tool source settings.build tree).outcome =
        .error (.assembler (.notNamed kind)) := by
      rw [hrun, Build.finish, hwatOnly, hprogram]
      rfl
    exact ending_of_outcome hmode houtcome
  | @rejected paths place rendered executable reason hwrites hwatOnly hprogram hexit =>
    obtain ⟨bytes, mode, -, hmode, -⟩ := hwrites.rendered_eq
    obtain ⟨log, hrun⟩ := hwrites.run_eq tool
    have hcommand : (Assembler.Program.named executable).command paths.wat.render
        paths.wasm.render = .ok (commandOf paths executable) := rfl
    have houtcome : (Build.run tool source settings.build tree).outcome =
        .error (.assembler (.rejected reason)) := by
      rw [hrun, Build.finish, hwatOnly, if_neg Bool.false_ne_true, hprogram, hcommand]
      simp only [Build.assemble_eq, commandOf] at hexit ⊢
      rw [hexit]
    exact ending_of_outcome hmode houtcome

/-- A reason to stop that ends the run without a status is an unhandled error. -/
theorem unhandled_of_stops (tool : Tool) {mode : Addressing}
    (hmode : settings.build.addressing.mode? = some mode)
    (hstops : Stops source settings.build tree error)
    (h : (failureEnding error).1 = .escaped error) :
    Unhandled tool source settings.build tree error := by
  cases hstops with
  | unnamed hpaths => exact .unnamed hmode hpaths
  | @unread paths cause hpaths hread =>
    cases cause with
    | embeddedNull =>
      exact .nullSource hmode hpaths (FileTree.read_eq_embeddedNull_iff.mp hread)
    | system cause => cases cause <;> cases h
  | @uncompiled paths bytes error hpaths hread hcompile =>
    rw [compileOffered_of_mode? hmode] at hcompile
    cases hresult : Module.compile (Text.textOfBytes bytes) mode with
    | ok rendered =>
      rw [hresult] at hcompile
      cases hcompile
    | error stop =>
      rw [hresult] at hcompile
      cases hcompile
      cases stop with
      | unbalanced fault => cases h
      | margin cause => exact .marginless hmode hpaths hread hresult
  | @unwritten paths bytes rendered failure hpaths hread hcompile hwrite hleft =>
    rcases failure with ⟨cause, left⟩
    cases cause with
    | system cause => cases h
    | embeddedNull =>
      rw [compileOffered_of_mode? hmode] at hcompile
      cases hresult : Module.compile (Text.textOfBytes bytes) mode with
      | error stop =>
        rw [hresult] at hcompile
        cases hcompile
      | ok text =>
        exact .nullOutput hmode hpaths hread hresult
          (FileTree.mem_of_write_eq_embeddedNull hwrite)

/-- The error of a command has a status unless the command was turned down. -/
theorem eq_rejected_of_escaped {cause : Assembler.Error} {executable : String}
    {exit : Assembler.Exit} (hexit : errorOf? executable exit = some cause)
    (h : (failureEnding (.assembler cause)).1 = .escaped error) :
    ∃ reason, cause = .rejected reason := by
  cases cause with
  | notFound name => cases h
  | failed name status diagnostics => cases h
  | rejected reason => exact ⟨reason, rfl⟩
  | notNamed kind =>
    cases exit with
    | exited status diagnostics => simp [errorOf?] at hexit
    | _ => cases hexit

/-- A run that ends without a status has met an unhandled error. -/
theorem unhandled_of_escaped {tool : Tool}
    (h : (invoke tool ⟨source, settings⟩ tree).ending = .escaped error) :
    Unhandled tool source settings.build tree error := by
  cases hmode : settings.build.addressing.mode? with
  | none =>
    simp only [invoke, hmode, Ending.escaped.injEq] at h
    subst h
    exact .modeless hmode
  | some mode =>
    cases houtcome : (Build.run tool source settings.build tree).outcome with
    | ok product =>
      rw [(Build.invoke_of_mode? tool ⟨source, settings⟩ tree hmode).2.2] at h
      simp only [houtcome, reduceCtorEq] at h
    | error found =>
      rw [ending_of_outcome hmode houtcome] at h
      have hfound : found = error := by
        rcases failureEnding_cases found with hescaped | ⟨status, -, hstatus⟩
        · rw [hescaped] at h
          exact Ending.escaped.inj h
        · rw [hstatus] at h
          cases h
      subst hfound
      rcases Build.run_failure houtcome with ⟨hstops, -, -⟩ |
        ⟨paths, place, rendered, cause, count, -, rfl, -, -⟩ |
        ⟨paths, place, rendered, hwrites, hwatOnly, ⟨kind, hprogram, rfl, -, -⟩ |
          ⟨executable, cause, hprogram, rfl, hexit, -, -⟩⟩
      · exact unhandled_of_stops tool hmode hstops h
      · cases h
      · exact .nameless hwrites hwatOnly hprogram
      · obtain ⟨reason, rfl⟩ := eq_rejected_of_escaped hexit h
        exact .rejected hwrites hwatOnly hprogram hexit

/-- A run that ends with a status has one of at most three. -/
theorem status_le_of_exited {tool : Tool} {invocation : Invocation} {status : Nat}
    (h : (invoke tool invocation tree).ending = .exited status) : status ≤ 3 := by
  cases hmode : invocation.settings.build.addressing.mode? with
  | none => simp only [invoke, hmode, reduceCtorEq] at h
  | some mode =>
    rw [(Build.invoke_of_mode? tool invocation tree hmode).2.2] at h
    cases houtcome : (Build.run tool invocation.source invocation.settings.build tree).outcome with
    | ok product =>
      simp only [houtcome, Ending.exited.injEq] at h
      omega
    | error error =>
      simp only [houtcome] at h
      rcases failureEnding_cases error with hescaped | ⟨found, hle, hfound⟩
      · rw [hescaped] at h
        cases h
      · rw [hfound, Ending.exited.injEq] at h
        omega

end Invocation

/-- A command line ends with a status of at most three, unless it asks for a build that meets an
unhandled error; then it ends with that error. -/
theorem run_status (tool : Tool) (words : List String) (tree : FileTree) :
    ((∃ status ≤ 3, (run tool words tree).ending = .exited status) ↔
      ∀ source settings error, parse words = .ok ⟨source, settings⟩ →
        ¬ Unhandled tool source settings.build tree error) ∧
    ∀ error, (run tool words tree).ending = .escaped error ↔
      ∃ source settings, parse words = .ok ⟨source, settings⟩ ∧
        Unhandled tool source settings.build tree error := by
  cases hparse : parse words with
  | error stop =>
    cases stop with
    | help => simp [run, hparse]
    | complaint cause => simp [run, hparse]
  | ok invocation =>
    obtain ⟨source, settings⟩ := invocation
    have hrun : run tool words tree = invoke tool ⟨source, settings⟩ tree := by
      rw [run, hparse]
    rw [hrun]
    have hescaped (error : Build.Error) :
        (invoke tool ⟨source, settings⟩ tree).ending = .escaped error ↔
          Unhandled tool source settings.build tree error :=
      ⟨unhandled_of_escaped, Unhandled.escaped⟩
    refine ⟨?_, fun error => ?_⟩
    · constructor
      · rintro ⟨status, -, hstatus⟩ source' settings' error heq hunhandled
        cases heq
        rw [(hescaped error).mpr hunhandled] at hstatus
        cases hstatus
      · intro hnone
        cases hending : (invoke tool ⟨source, settings⟩ tree).ending with
        | exited status => exact ⟨status, status_le_of_exited hending, rfl⟩
        | escaped error => exact absurd ((hescaped error).mp hending) (hnone _ _ error rfl)
    · rw [hescaped error]
      constructor
      · intro hunhandled
        exact ⟨source, settings, rfl, hunhandled⟩
      · rintro ⟨source', settings', heq, hunhandled⟩
        cases heq
        exact hunhandled

/-- A tool that runs or cannot be started, and is never turned down before that. -/
def Starts (tool : Tool) : Prop :=
  ∀ command tree reason, (tool command tree).2 ≠ .rejected reason

/-- An output path without a name ends the run without a status. -/
theorem run_status_unnamed :
    let tool := (Assembler.Script.failing 1 "").tool
    let tree := Build.directoryOf "p.bf" [0x2B]
    Starts tool ∧
      (run tool ["p.bf", "-o", "/"] tree).ending = .escaped (.unnamed ⟨.slash, []⟩) := by
  intro tool tree
  have hstarts : Starts tool := fun _ _ _ => nofun
  have hparse : parse ["p.bf", "-o", "/"] = .ok ⟨"p.bf", { build := { output := "/" } }⟩ := by
    decide
  have hpaths : OutputPaths.derive "p.bf" (some "/") = .error ⟨.slash, []⟩ := by decide
  have hmode : (Addressing.Offer.named "local").mode? = some .localVariable := by decide
  exact ⟨hstarts, ((run_status tool _ tree).2 _).mpr
    ⟨_, _, hparse, .unnamed hmode hpaths⟩⟩

/-- The working directory as the source ends a run without a status, where any other directory
ends it with status one. -/
theorem run_escapes_for_dot :
    let tool := (Assembler.Script.failing 1 "").tool
    let tree : FileTree :=
      { workingDirectory := ["work"]
        nodes := [(["work"], .directory), (["work", "sub"], .directory)] }
    Starts tool ∧ (run tool ["sub"] tree).ending = .exited 1 ∧
      ¬ ∃ status, (run tool ["."] tree).ending = .exited status := by
  intro tool tree
  have hescaped : (run tool ["."] tree).ending = .escaped (.unnamed ⟨.relative, []⟩) := by decide
  refine ⟨fun _ _ _ => nofun, by decide, ?_⟩
  rintro ⟨status, hstatus⟩
  rw [hescaped] at hstatus
  cases hstatus

end CommandLine

end BrainfuckWasm
