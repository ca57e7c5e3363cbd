import BrainfuckWasm.Build
import BrainfuckWasm.Proofs.Build.Outputs

/-!
# The course of a build

A build stops before it writes anything, for one of four reasons, or its write of the module is
broken off, or it writes the module of its source and goes on from there. The last part stops after
the text, or for want of a program to run, or runs exactly one command. Everything that is said
about builds elsewhere is read off these two lists of cases.
-/

namespace BrainfuckWasm.Build

open Assembler (Command Exit Program Tool)

/-- Compiling for an offered mode succeeds if the offer names a mode and the source compiles. -/
theorem compileOffered_eq_ok_iff {source rendered : String} {offer : Addressing.Offer} :
    Module.compileOffered source offer = .ok rendered ↔
      ∃ mode, offer.mode? = some mode ∧ Module.compile source mode = .ok rendered := by
  rw [Module.compileOffered]
  cases offer.mode? with
  | none => simp
  | some mode =>
    simp only [Option.some.injEq, exists_eq_left']
    cases Module.compile source mode with
    | error stop => simp [Except.mapError]
    | ok text => simp [Except.mapError]

/-- Why a build stops before it writes anything. -/
inductive Stops (source : String) (options : Options) (tree : FileTree) : Error → Prop where
  | unnamed {path : Path} (hpaths : OutputPaths.derive source options.output = .error path) :
      Stops source options tree (.unnamed path)
  | unread {paths : OutputPaths} {cause : AccessError}
      (hpaths : OutputPaths.derive source options.output = .ok paths)
      (hread : tree.read (.ofText source) = .error cause) :
      Stops source options tree (readError (.ofText source) cause)
  | uncompiled {paths : OutputPaths} {bytes : List UInt8} {error : Module.Error}
      (hpaths : OutputPaths.derive source options.output = .ok paths)
      (hread : tree.read (.ofText source) = .ok bytes)
      (hcompile : Module.compileOffered (Text.textOfBytes bytes) options.addressing =
        .error error) :
      Stops source options tree (.module error)
  | unwritten {paths : OutputPaths} {bytes : List UInt8} {rendered : String}
      {failure : WriteFailure}
      (hpaths : OutputPaths.derive source options.output = .ok paths)
      (hread : tree.read (.ofText source) = .ok bytes)
      (hcompile : Module.compileOffered (Text.textOfBytes bytes) options.addressing =
        .ok rendered)
      (hwrite : tree.write paths.wat (Text.bytesOfText rendered) = .error failure)
      (hleft : failure.left = tree) :
      Stops source options tree (writeError paths.wat failure.cause)

/-- What a build is about to write, and where: the module of its source, at the path of its text. -/
structure Renders (source : String) (options : Options) (tree : FileTree) (paths : OutputPaths)
    (place : Location) (rendered : String) : Prop where
  paths_eq : OutputPaths.derive source options.output = .ok paths
  rendered_eq : ∃ bytes mode, tree.read (.ofText source) = .ok bytes ∧
    options.addressing.mode? = some mode ∧
    Module.compile (Text.textOfBytes bytes) mode = .ok rendered
  place_eq : tree.locate paths.wat = .ok place
  place_free : tree.node? place ≠ some .directory

/-- What a build writes, and where: nothing keeps it from writing the module that it renders. -/
structure Writes (source : String) (options : Options) (tree : FileTree) (paths : OutputPaths)
    (place : Location) (rendered : String) : Prop
    extends Renders source options tree paths place rendered where
  unhindered : (tree.refusals place).write = none

/-- A build whose write is broken off after so many bytes. -/
structure BreaksOff (source : String) (options : Options) (tree : FileTree) (paths : OutputPaths)
    (place : Location) (rendered : String) (cause : SystemError) (count : Nat) : Prop
    extends Renders source options tree paths place rendered where
  brokenOff : (tree.refusals place).write = some (.brokenOff cause count)

/-- The tree with a module text at a place. -/
def withText (tree : FileTree) (place : Location) (rendered : String) : FileTree :=
  tree.set place (.file (Text.bytesOfText rendered))

/-- The tree with a beginning of a module text at a place. -/
def withBeginning (tree : FileTree) (place : Location) (rendered : String) (count : Nat) :
    FileTree :=
  tree.set place (.file ((Text.bytesOfText rendered).take count))

/-- A build stops early and leaves everything as it was, or breaks off in its module, or writes it
and goes on. -/
theorem run_cases (tool : Tool) (source : String) (options : Options) (tree : FileTree) :
    (∃ error log, Stops source options tree error ∧
      run tool source options tree = ⟨.error error, log, [], tree⟩) ∨
    (∃ paths place rendered cause count log,
      BreaksOff source options tree paths place rendered cause count ∧
      run tool source options tree = ⟨.error (.unwritable paths.wat cause), log, [],
        withBeginning tree place rendered count⟩) ∨
    ∃ paths place rendered log, Writes source options tree paths place rendered ∧
      run tool source options tree =
        finish tool options paths log (withText tree place rendered) := by
  rw [run]
  cases hpaths : OutputPaths.derive source options.output with
  | error path => exact Or.inl ⟨_, _, .unnamed hpaths, rfl⟩
  | ok paths =>
    simp only
    cases hread : tree.read (.ofText source) with
    | error cause => exact Or.inl ⟨_, _, .unread hpaths hread, rfl⟩
    | ok bytes =>
      simp only
      cases hcompile : Module.compileOffered (Text.textOfBytes bytes) options.addressing with
      | error error => exact Or.inl ⟨_, _, .uncompiled hpaths hread hcompile, rfl⟩
      | ok rendered =>
        obtain ⟨mode, hmode, hrendered⟩ := compileOffered_eq_ok_iff.mp hcompile
        simp only
        cases hwrite : tree.write paths.wat (Text.bytesOfText rendered) with
        | error failure =>
          rcases FileTree.write_eq_error_cases hwrite with
            hleft | ⟨place, cause, count, hplace, hfree, hfault, rfl⟩
          · simp only [hleft]
            exact Or.inl ⟨_, _, .unwritten hpaths hread hcompile hwrite hleft, rfl⟩
          · exact Or.inr (Or.inl ⟨paths, place, rendered, cause, count, _,
              ⟨⟨hpaths, ⟨bytes, mode, hread, hmode, hrendered⟩, hplace, hfree⟩, hfault⟩, rfl⟩)
        | ok written =>
          obtain ⟨place, hplace, hfree, hopen, rfl⟩ := FileTree.write_eq_ok_iff.mp hwrite
          exact Or.inr (Or.inr ⟨paths, place, rendered, _,
            ⟨⟨hpaths, ⟨bytes, mode, hread, hmode, hrendered⟩, hplace, hfree⟩, hopen⟩, rfl⟩)

/-- A build with a reason to stop does so. -/
theorem Stops.run_eq {source : String} {options : Options} {tree : FileTree} {error : Error}
    (h : Stops source options tree error) (tool : Tool) :
    ∃ log, run tool source options tree = ⟨.error error, log, [], tree⟩ := by
  rw [run]
  cases h with
  | unnamed hpaths =>
    simp only [hpaths]
    exact ⟨_, rfl⟩
  | unread hpaths hread =>
    simp only [hpaths, hread]
    exact ⟨_, rfl⟩
  | uncompiled hpaths hread hcompile =>
    simp only [hpaths, hread, hcompile]
    exact ⟨_, rfl⟩
  | unwritten hpaths hread hcompile hwrite hleft =>
    simp only [hpaths, hread, hcompile, hwrite, hleft]
    exact ⟨_, rfl⟩

/-- A build whose write is broken off stops there. -/
theorem BreaksOff.run_eq {source : String} {options : Options} {tree : FileTree}
    {paths : OutputPaths} {place : Location} {rendered : String} {cause : SystemError} {count : Nat}
    (h : BreaksOff source options tree paths place rendered cause count) (tool : Tool) :
    ∃ log, run tool source options tree = ⟨.error (.unwritable paths.wat cause), log, [],
      withBeginning tree place rendered count⟩ := by
  obtain ⟨bytes, mode, hread, hmode, hrendered⟩ := h.rendered_eq
  have hcompile := compileOffered_eq_ok_iff.mpr ⟨mode, hmode, hrendered⟩
  have hwrite := FileTree.write_of_brokenOff h.place_eq h.place_free h.brokenOff
    (Text.bytesOfText rendered)
  rw [run, h.paths_eq]
  simp only [hread, hcompile, hwrite]
  exact ⟨_, rfl⟩

/-- A build that can write its module does so and goes on. -/
theorem Writes.run_eq {source : String} {options : Options} {tree : FileTree}
    {paths : OutputPaths} {place : Location} {rendered : String}
    (h : Writes source options tree paths place rendered) (tool : Tool) :
    ∃ log, run tool source options tree =
      finish tool options paths log (withText tree place rendered) := by
  obtain ⟨bytes, mode, hread, hmode, hrendered⟩ := h.rendered_eq
  have hcompile := compileOffered_eq_ok_iff.mpr ⟨mode, hmode, hrendered⟩
  have hwrite := FileTree.write_eq_ok_iff.mpr
    ⟨place, h.place_eq, h.place_free, h.unhindered, (rfl : withText tree place rendered = _)⟩
  rw [run, h.paths_eq]
  simp only [hread, hcompile, hwrite]
  exact ⟨_, rfl⟩

/-- A build renders the same in a tree that has the same directories and whose source compiles to
the same modules. -/
theorem Renders.transfer {source : String} {options : Options} {before after : FileTree}
    {paths : OutputPaths} {place : Location} {rendered : String} {places : Set Location}
    {bytes other : List UInt8} (h : Renders source options before paths place rendered)
    (hthere : before.SameExcept places after) (hback : after.SameExcept places before)
    (hread : before.read (.ofText source) = .ok bytes)
    (hother : after.read (.ofText source) = .ok other)
    (hcompile : ∀ mode, Module.compile (Text.textOfBytes bytes) mode = .ok rendered →
      Module.compile (Text.textOfBytes other) mode = .ok rendered) :
    Renders source options after paths place rendered where
  paths_eq := h.paths_eq
  rendered_eq := by
    obtain ⟨found, mode, hfound, hmode, hrendered⟩ := h.rendered_eq
    rw [hread, Except.ok.injEq] at hfound
    subst hfound
    exact ⟨other, mode, hother, hmode, hcompile mode hrendered⟩
  place_eq := hthere.locate_eq_ok h.place_eq
  place_free := fun hdirectory => h.place_free (hback.directory_kept place hdirectory)

/-- The error of a command that ended in some way, unless that is success. -/
def errorOf? (executable : String) : Exit → Option Assembler.Error
  | .unstartable => some (.notFound executable)
  | .rejected reason => some (.rejected reason)
  | .exited status diagnostics =>
    if status = 0 then none else some (.failed executable status diagnostics)
  | .undecodable reason => some (.rejected reason)

/-- A command has no error exactly if it ended with status zero. -/
theorem errorOf?_eq_none_iff {executable : String} {exit : Exit} :
    errorOf? executable exit = none ↔ ∃ diagnostics, exit = .exited 0 diagnostics := by
  cases exit with
  | unstartable => simp [errorOf?]
  | rejected reason => simp [errorOf?]
  | exited status diagnostics => simp [errorOf?]
  | undecodable reason => simp [errorOf?]

/-- The command that a build runs, with a program of some name. -/
def commandOf (paths : OutputPaths) (executable : String) : Command :=
  ⟨executable, paths.wat.render, paths.wasm.render⟩

/-- How a build can end once its text is written. -/
inductive Finishes (tool : Tool) (options : Options) (paths : OutputPaths) (tree : FileTree) :
    Report → Prop where
  | textOnly {log : List LogEntry} (hwatOnly : options.watOnly = true) :
      Finishes tool options paths tree ⟨.ok ⟨paths.wat, none, false⟩, log, [], tree⟩
  | nameless {log : List LogEntry} {kind : String} (hwatOnly : options.watOnly = false)
      (hprogram : options.assembler = .other kind) :
      Finishes tool options paths tree ⟨.error (.assembler (.notNamed kind)), log, [], tree⟩
  | failed {log : List LogEntry} {executable : String} {error : Assembler.Error}
      (hwatOnly : options.watOnly = false) (hprogram : options.assembler = .named executable)
      (hexit : errorOf? executable (tool (commandOf paths executable) tree).2 = some error) :
      Finishes tool options paths tree ⟨.error (.assembler error), log,
        [commandOf paths executable], (tool (commandOf paths executable) tree).1⟩
  | kept {log : List LogEntry} {executable diagnostics : String}
      (hwatOnly : options.watOnly = false) (hprogram : options.assembler = .named executable)
      (hexit : (tool (commandOf paths executable) tree).2 = .exited 0 diagnostics)
      (hkeepWat : options.keepWat = true) :
      Finishes tool options paths tree ⟨.ok ⟨paths.wat, some paths.wasm, false⟩, log,
        [commandOf paths executable], (tool (commandOf paths executable) tree).1⟩
  | cleaned {log : List LogEntry} {executable diagnostics : String}
      (hwatOnly : options.watOnly = false) (hprogram : options.assembler = .named executable)
      (hexit : (tool (commandOf paths executable) tree).2 = .exited 0 diagnostics)
      (hkeepWat : options.keepWat = false) :
      Finishes tool options paths tree
        ⟨.ok ⟨paths.wat, some paths.wasm,
            (removeText paths.wat (tool (commandOf paths executable) tree).1).2.1⟩,
          log ++ (removeText paths.wat (tool (commandOf paths executable) tree).1).2.2,
          [commandOf paths executable],
          (removeText paths.wat (tool (commandOf paths executable) tree).1).1⟩

/-- Running a command gives its files, and its error if there is one. -/
theorem assemble_eq (tool : Tool) (command : Command) (tree : FileTree) :
    Assembler.assemble tool command tree =
      ((tool command tree).1, match errorOf? command.executable (tool command tree).2 with
        | none => .ok (.ofText command.wasm)
        | some error => .error error) := by
  rw [Assembler.assemble]
  obtain ⟨left, exit⟩ := tool command tree
  cases exit with
  | unstartable => rfl
  | rejected reason => rfl
  | undecodable reason => rfl
  | exited status diagnostics =>
    by_cases hstatus : status = 0
    · simp [errorOf?, hstatus]
    · simp [errorOf?, hstatus]

/-- The last part of a build ends in one of five ways. -/
theorem finish_finishes (tool : Tool) (options : Options) (paths : OutputPaths)
    (log : List LogEntry) (tree : FileTree) :
    Finishes tool options paths tree (finish tool options paths log tree) := by
  rw [finish]
  cases hwatOnly : options.watOnly with
  | true => exact .textOnly hwatOnly
  | false =>
    rw [if_neg Bool.false_ne_true]
    cases hprogram : options.assembler with
    | other kind => exact .nameless hwatOnly hprogram
    | named executable =>
      have hcommand : (Program.named executable).command paths.wat.render paths.wasm.render =
          .ok (commandOf paths executable) := rfl
      simp only [hcommand, assemble_eq]
      cases hexit : errorOf? (commandOf paths executable).executable
          (tool (commandOf paths executable) tree).2 with
      | some error => exact .failed hwatOnly hprogram hexit
      | none =>
        obtain ⟨diagnostics, hexit⟩ := errorOf?_eq_none_iff.mp hexit
        cases hkeepWat : options.keepWat with
        | true => exact .kept hwatOnly hprogram hexit hkeepWat
        | false => exact .cleaned hwatOnly hprogram hexit hkeepWat

/-- A build that fails has stopped early, or was broken off in its module, or lacked a name for the
program to run, or its command has failed. -/
theorem run_failure {tool : Tool} {source : String} {options : Options} {tree : FileTree}
    {error : Error} (h : (run tool source options tree).outcome = .error error) :
    (Stops source options tree error ∧ (run tool source options tree).commands = [] ∧
      (run tool source options tree).tree = tree) ∨
    (∃ paths place rendered cause count,
      BreaksOff source options tree paths place rendered cause count ∧
      error = .unwritable paths.wat cause ∧ (run tool source options tree).commands = [] ∧
      (run tool source options tree).tree = withBeginning tree place rendered count) ∨
    ∃ paths place rendered, Writes source options tree paths place rendered ∧
      options.watOnly = false ∧
      ((∃ kind, options.assembler = .other kind ∧ error = .assembler (.notNamed kind) ∧
          (run tool source options tree).commands = [] ∧
          (run tool source options tree).tree = withText tree place rendered) ∨
        ∃ executable cause, options.assembler = .named executable ∧ error = .assembler cause ∧
          errorOf? executable
            (tool (commandOf paths executable) (withText tree place rendered)).2 = some cause ∧
          (run tool source options tree).commands = [commandOf paths executable] ∧
          (run tool source options tree).tree =
            (tool (commandOf paths executable) (withText tree place rendered)).1) := by
  rcases run_cases tool source options tree with
    ⟨found, log, hstops, hrun⟩ | ⟨paths, place, rendered, cause, count, log, hbreaks, hrun⟩ |
    ⟨paths, place, rendered, log, hwrites, hrun⟩
  · rw [hrun, Except.error.injEq] at h
    rw [hrun]
    exact Or.inl ⟨h ▸ hstops, rfl, rfl⟩
  · rw [hrun, Except.error.injEq] at h
    rw [hrun]
    exact Or.inr (Or.inl ⟨paths, place, rendered, cause, count, hbreaks, h.symm, rfl, rfl⟩)
  · have hfinishes := finish_finishes tool options paths log (withText tree place rendered)
    rw [← hrun] at hfinishes
    refine Or.inr (Or.inr ⟨paths, place, rendered, hwrites, ?_⟩)
    generalize run tool source options tree = report at h hfinishes
    cases hfinishes with
    | textOnly hwatOnly => cases h
    | nameless hwatOnly hprogram =>
      exact ⟨hwatOnly, Or.inl ⟨_, hprogram, (Except.error.inj h).symm, rfl, rfl⟩⟩
    | failed hwatOnly hprogram hexit =>
      exact ⟨hwatOnly, Or.inr ⟨_, _, hprogram, (Except.error.inj h).symm, hexit, rfl, rfl⟩⟩
    | kept hwatOnly hprogram hexit hkeepWat => cases h
    | cleaned hwatOnly hprogram hexit hkeepWat => cases h

/-- A working directory that holds one file. -/
def directoryOf (name : String) (content : List UInt8) : FileTree :=
  { workingDirectory := ["work"]
    nodes := [(["work"], .directory), (["work", name], .file content)] }

/-- A tree with other refusals at a place. -/
def refusingAt (tree : FileTree) (place : Location) (refusals : Refusals) : FileTree :=
  { tree with
    refusals := fun location => if location = place then refusals else tree.refusals location }

end BrainfuckWasm.Build
