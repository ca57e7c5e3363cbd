import BrainfuckWasm.CommandLine
import BrainfuckWasm.Proofs.Build.Course

/-!
# What a build leaves behind

A build is all or nothing up to the assembler. If it fails before the module text is written, every
file is as it was and no command was started; after that only the text is new. A build that
succeeds has written the whole text before its one command, and leaves the binary of the assembler
and the text exactly if it is to be kept. The system can break this in two places: it can break off
the write of the text, which leaves a beginning of it, and it can refuse to delete it afterwards.

The assembler is an arbitrary tool that is tidy, and its program has a name.
-/

namespace BrainfuckWasm.Build

open Assembler (Command Program Tool)

/-- The file at a place holds a content, and nothing else has changed. -/
structure Holds (before after : FileTree) (place : Location) (content : List UInt8) : Prop where
  content_eq : after.node? place = some (.file content)
  elsewhere : before.SameExcept {place} after

/-- What a build has done to the files, by how it ended. -/
structure Effect (tool : Tool) (source : String) (options : Options) (tree : FileTree)
    (report : Report) : Prop where
  /-- After a failure nothing has changed and no command was started, or the write of the module
  text was broken off before any command and has left a beginning of it, or the text is there and
  one command was started. -/
  failed : ∀ error, report.outcome = .error error →
    (report.commands = [] ∧ report.tree = tree) ∨
    (∃ paths place rendered cause count,
      BreaksOff source options tree paths place rendered cause count ∧
      error = .unwritable paths.wat cause ∧ report.commands = [] ∧
      Holds tree report.tree place ((Text.bytesOfText rendered).take count)) ∨
    ∃ paths place rendered executable, Writes source options tree paths place rendered ∧
      options.assembler = .named executable ∧
      report.commands.map Command.words =
        [[executable, paths.wat.render, "-o", paths.wasm.render]] ∧
      Holds tree report.tree place (Text.bytesOfText rendered)
  /-- A build that stops at the text has started no command and changed nothing else. -/
  textOnly : ∀ product, report.outcome = .ok product → options.watOnly = true →
    ∃ paths place rendered, Writes source options tree paths place rendered ∧
      product = ⟨paths.wat, none, false⟩ ∧ report.commands = [] ∧
      Holds tree report.tree place (Text.bytesOfText rendered)
  /-- Otherwise one command ran on the written text and ended with status zero. All that has changed
  is its binary, as it was left, and the text, which is gone exactly if it is reported so: it was
  not to be kept, and the system did not refuse to delete it. A refusal is in the log. -/
  assembled : ∀ product, report.outcome = .ok product → options.watOnly = false →
    ∃ paths place rendered executable written diagnostics,
      Writes source options tree paths place rendered ∧
      options.assembler = .named executable ∧
      report.commands = [commandOf paths executable] ∧
      report.commands.map Command.words =
        [[executable, paths.wat.render, "-o", paths.wasm.render]] ∧
      Holds tree written place (Text.bytesOfText rendered) ∧
      (tool (commandOf paths executable) written).2 = .exited 0 diagnostics ∧
      product = ⟨paths.wat, some paths.wasm,
        !options.keepWat && (tree.refusals place).delete.isNone⟩ ∧
      tree.SameExcept (insert place {binary | tree.locate paths.wasm = .ok binary})
        report.tree ∧
      (∀ binary, tree.locate paths.wasm = .ok binary →
        report.tree.node? binary = (tool (commandOf paths executable) written).1.node? binary) ∧
      (report.tree.node? place =
        if product.watRemoved then none else some (.file (Text.bytesOfText rendered))) ∧
      ∀ cause, options.keepWat = false → (tree.refusals place).delete = some cause →
        undeletedEntry paths.wat cause ∈ report.log

/-- Putting a content where no directory is changes that place only. -/
theorem holds_set {tree : FileTree} {place : Location} (content : List UInt8)
    (h : tree.node? place ≠ some .directory) :
    Holds tree (tree.set place (.file content)) place content where
  content_eq := tree.node?_set_self _ (FileTree.ne_nil_of_node?_ne_directory h)
  elsewhere := FileTree.sameExcept_set _ h

namespace Writes

variable {source : String} {options : Options} {tree : FileTree} {paths : OutputPaths}
  {place : Location} {rendered : String}

/-- Writing the text changes its place only. -/
theorem holds (h : Writes source options tree paths place rendered) :
    Holds tree (withText tree place rendered) place (Text.bytesOfText rendered) :=
  holds_set _ h.place_free

/-- The binary of the build's command goes where the path of the binary led from the start. -/
theorem binaryPlaces_eq (h : Writes source options tree paths place rendered)
    (executable : String) :
    (commandOf paths executable).binaryPlaces (withText tree place rendered) =
      {binary | tree.locate paths.wasm = .ok binary} := by
  ext binary
  have hlegible := (OutputPaths.paired_of_derive h.paths_eq).wasm_legible
  change (withText tree place rendered).locate (.verbatim paths.wasm.render) = .ok binary ↔ _
  rw [hlegible.verbatim_render]
  exact ⟨(FileTree.set_sameExcept _ h.place_free).locate_eq_ok,
    h.holds.elsewhere.locate_eq_ok⟩

/-- A confined tool leaves the text alone that the build has written. -/
theorem text_of_confined (h : Writes source options tree paths place rendered) {tool : Tool}
    (hconfined : tool.Confined) (executable : String) :
    (tool (commandOf paths executable) (withText tree place rendered)).1.node? place =
      some (.file (Text.bytesOfText rendered)) := by
  have hsame := hconfined (commandOf paths executable) (withText tree place rendered)
  rw [h.binaryPlaces_eq] at hsame
  rw [hsame.node?_eq place, h.holds.content_eq]
  intro hbinary
  exact (OutputPaths.paired_of_derive h.paths_eq).places_ne h.place_eq hbinary rfl

/-- A confined tool changes the text and the binary of the build at most. -/
theorem sameExcept_of_confined (h : Writes source options tree paths place rendered) {tool : Tool}
    (hconfined : tool.Confined) (executable : String) :
    tree.SameExcept (insert place {binary | tree.locate paths.wasm = .ok binary})
      (tool (commandOf paths executable) (withText tree place rendered)).1 := by
  have hsame := hconfined (commandOf paths executable) (withText tree place rendered)
  rw [h.binaryPlaces_eq] at hsame
  exact (h.holds.elsewhere.mono (by simp)).trans (hsame.mono (Set.subset_insert _ _))

/-- After a confined tool the text is removed and nothing else with it, unless the system refuses to
delete it; then all is left as it is, and that is reported. -/
theorem removeText_cases (h : Writes source options tree paths place rendered) {tool : Tool}
    (hconfined : tool.Confined) (executable : String) :
    let left := (tool (commandOf paths executable) (withText tree place rendered)).1
    ((tree.refusals place).delete = none ∧
      removeText paths.wat left = (left.erase place, true, [])) ∨
    ∃ cause, (tree.refusals place).delete = some cause ∧
      removeText paths.wat left = (left, false, [undeletedEntry paths.wat cause]) := by
  intro left
  have hsame := h.sameExcept_of_confined hconfined executable
  have hplace : left.locate paths.wat = .ok place := hsame.locate_eq_ok h.place_eq
  have hrefusals : left.refusals = tree.refusals := hsame.refusals_eq
  rw [removeText]
  cases hdelete : (tree.refusals place).delete with
  | none =>
    rw [FileTree.delete_eq_of_file hplace (hrefusals ▸ hdelete)
      (h.text_of_confined hconfined executable)]
    exact Or.inl ⟨rfl, rfl⟩
  | some cause =>
    rw [FileTree.delete_eq_of_refused hplace (hrefusals ▸ hdelete)]
    exact Or.inr ⟨cause, rfl, rfl⟩

/-- With the text removed, its place is empty and nothing else has changed since the tool. -/
theorem erased_of_confined (h : Writes source options tree paths place rendered) {tool : Tool}
    (hconfined : tool.Confined) (executable : String) :
    let left := (tool (commandOf paths executable) (withText tree place rendered)).1
    left.SameExcept {place} (left.erase place) ∧ (left.erase place).node? place = none := by
  intro left
  have hfile : left.node? place ≠ some .directory := by
    rw [h.text_of_confined hconfined executable]
    simp
  exact ⟨FileTree.sameExcept_erase hfile,
    FileTree.node?_erase_self _ (FileTree.ne_nil_of_node?_ne_directory hfile)⟩

/-- After a tidy tool that has failed, the text is still all that is new. -/
theorem holds_of_failed (h : Writes source options tree paths place rendered) {tool : Tool}
    (htidy : tool.Tidy) {executable : String} {error : Assembler.Error}
    (hexit : errorOf? executable
      (tool (commandOf paths executable) (withText tree place rendered)).2 = some error) :
    Holds tree (tool (commandOf paths executable) (withText tree place rendered)).1 place
      (Text.bytesOfText rendered) := by
  have hsame := htidy.unchanged (commandOf paths executable) (withText tree place rendered)
    fun diagnostics hstatus => by
      rw [errorOf?_eq_none_iff.mpr ⟨diagnostics, hstatus⟩] at hexit
      cases hexit
  exact ⟨h.text_of_confined htidy.confined executable,
    h.holds.elsewhere.trans (hsame.mono (Set.empty_subset _))⟩

end Writes

/-- Every build with a tidy tool, and a name for it, has the stated effect. -/
theorem effect_run {tool : Tool} (htidy : tool.Tidy) (source : String) {options : Options}
    {executable : String} (hnamed : options.assembler = .named executable) (tree : FileTree) :
    Effect tool source options tree (run tool source options tree) := by
  rcases run_cases tool source options tree with
    ⟨error, log, -, hrun⟩ | ⟨paths, place, rendered, cause, count, log, hbreaks, hrun⟩ |
    ⟨paths, place, rendered, log, hwrites, hrun⟩
  · rw [hrun]
    exact {
      failed := fun _ _ => Or.inl ⟨rfl, rfl⟩
      textOnly := fun _ hok => nomatch hok
      assembled := fun _ hok => nomatch hok }
  · rw [hrun]
    refine {
      failed := fun error herror => ?_
      textOnly := fun _ hok => nomatch hok
      assembled := fun _ hok => nomatch hok }
    exact Or.inr (Or.inl ⟨paths, place, rendered, cause, count, hbreaks,
      (Except.error.inj herror).symm, rfl, holds_set _ hbreaks.place_free⟩)
  · have hfinishes := finish_finishes tool options paths log (withText tree place rendered)
    rw [← hrun] at hfinishes
    generalize run tool source options tree = report at hfinishes
    cases hfinishes with
    | textOnly hwatOnly =>
      refine {
        failed := fun _ herror => nomatch herror
        textOnly := fun product hok _ => ?_
        assembled := fun _ _ hnot => nomatch hwatOnly.symm.trans hnot }
      exact ⟨paths, place, rendered, hwrites, (Except.ok.inj hok).symm, rfl, hwrites.holds⟩
    | nameless hwatOnly hprogram => exact nomatch hnamed.symm.trans hprogram
    | @failed log executable error hwatOnly hprogram hexit =>
      refine {
        failed := fun _ _ => ?_
        textOnly := fun _ hok => nomatch hok
        assembled := fun _ hok => nomatch hok }
      exact Or.inr (Or.inr ⟨paths, place, rendered, executable, hwrites, hprogram, rfl,
        hwrites.holds_of_failed htidy hexit⟩)
    | @kept log executable diagnostics hwatOnly hprogram hexit hkeepWat =>
      refine {
        failed := fun _ herror => nomatch herror
        textOnly := fun _ _ hnot => nomatch hwatOnly.symm.trans hnot
        assembled := fun product hok _ => ?_ }
      cases hok
      refine ⟨paths, place, rendered, executable, _, diagnostics, hwrites, hprogram, rfl, rfl,
        hwrites.holds, hexit, ?_, hwrites.sameExcept_of_confined htidy.confined executable,
        fun _ _ => rfl, hwrites.text_of_confined htidy.confined executable,
        fun _ hnot => nomatch hkeepWat.symm.trans hnot⟩
      rw [hkeepWat, Bool.not_true, Bool.false_and]
    | @cleaned log executable diagnostics hwatOnly hprogram hexit hkeepWat =>
      have hsame := hwrites.sameExcept_of_confined htidy.confined executable
      refine {
        failed := fun _ herror => nomatch herror
        textOnly := fun _ _ hnot => nomatch hwatOnly.symm.trans hnot
        assembled := fun product hok _ => ?_ }
      cases hok
      refine ⟨paths, place, rendered, executable, _, diagnostics, hwrites, hprogram, rfl, rfl,
        hwrites.holds, hexit, ?_⟩
      rcases hwrites.removeText_cases htidy.confined executable with
        ⟨hallowed, hremoval⟩ | ⟨cause, hrefused, hremoval⟩
      · obtain ⟨herased, hempty⟩ := hwrites.erased_of_confined htidy.confined executable
        rw [hremoval]
        refine ⟨by rw [hkeepWat, hallowed]; rfl, hsame.trans (herased.mono (by simp)),
          fun binary hbinary => ?_, hempty, fun cause _ hrefused => ?_⟩
        · have hne := (OutputPaths.paired_of_derive hwrites.paths_eq).places_ne hwrites.place_eq
            hbinary
          exact FileTree.node?_erase_of_ne _ hne.symm
        · exact nomatch hallowed.symm.trans hrefused
      · rw [hremoval]
        refine ⟨by rw [hkeepWat, hrefused]; rfl, hsame, fun _ _ => rfl,
          hwrites.text_of_confined htidy.confined executable, fun other _ hother => ?_⟩
        rw [hrefused, Option.some.injEq] at hother
        simp [hother]

/-- What a command line makes of the build that it asks for. -/
structure Reported (source : String) (options : Options) (tree : FileTree) (report : Report)
    (ran : CommandLine.Run) : Prop where
  commands_eq : ran.commands = report.commands
  tree_eq : ran.tree = report.tree
  success_iff : ran.ending = .exited 0 ↔ ∃ product, report.outcome = .ok product
  /-- Status one: no command was started, and no file has changed, unless the write of the module
  text was broken off. -/
  untouched : ran.ending = .exited 1 → ran.commands = [] ∧
    (ran.tree = tree ∨
      ∃ paths place rendered cause count,
        BreaksOff source options tree paths place rendered cause count ∧
        Holds tree ran.tree place ((Text.bytesOfText rendered).take count))
  /-- Status two or three: one command was started, and the module text is left. -/
  textLeft : ran.ending = .exited 2 ∨ ran.ending = .exited 3 →
    ∃ paths place rendered executable, Writes source options tree paths place rendered ∧
      Holds tree ran.tree place (Text.bytesOfText rendered) ∧
      ran.commands = [commandOf paths executable]

/-- A build for an offer that names no mode stops early. -/
theorem run_of_mode?_eq_none (tool : Tool) (source : String) {options : Options} (tree : FileTree)
    (h : options.addressing.mode? = none) :
    ∃ error log, run tool source options tree = ⟨.error error, log, [], tree⟩ := by
  rcases run_cases tool source options tree with
    ⟨error, log, -, hrun⟩ | ⟨paths, place, rendered, cause, count, log, hbreaks, -⟩ |
    ⟨paths, place, rendered, log, hwrites, -⟩
  · exact ⟨error, log, hrun⟩
  · obtain ⟨bytes, mode, -, hmode, -⟩ := hbreaks.rendered_eq
    exact nomatch h.symm.trans hmode
  · obtain ⟨bytes, mode, -, hmode, -⟩ := hwrites.rendered_eq
    exact nomatch h.symm.trans hmode

/-- A build that stops early makes a command line end with status one, or without a status. -/
theorem Stops.failureEnding {source : String} {options : Options} {tree : FileTree}
    {error : Error} (h : Stops source options tree error) :
    (CommandLine.failureEnding error).1 = .exited 1 ∨
      (CommandLine.failureEnding error).1 = .escaped error := by
  cases h with
  | unnamed hpaths => exact Or.inr rfl
  | @unread paths cause hpaths hread =>
    cases cause with
    | embeddedNull => exact Or.inr rfl
    | system cause => cases cause <;> exact Or.inl rfl
  | @uncompiled paths bytes error hpaths hread hcompile =>
    cases error with
    | unknownAddressing offer => exact Or.inr rfl
    | stopped stop =>
      cases stop with
      | unbalanced fault => exact Or.inl rfl
      | margin cause => exact Or.inr rfl
  | @unwritten paths bytes rendered failure hpaths hread hcompile hwrite hleft =>
    rcases failure with ⟨cause, left⟩
    cases cause with
    | embeddedNull => exact Or.inr rfl
    | system cause => exact Or.inl rfl

/-- A failed command makes a command line end with status two or three, or without a status. -/
theorem failureEnding_assembler (error : Assembler.Error) :
    (CommandLine.failureEnding (.assembler error)).1 = .exited 2 ∨
      (CommandLine.failureEnding (.assembler error)).1 = .exited 3 ∨
      (CommandLine.failureEnding (.assembler error)).1 = .escaped (.assembler error) := by
  cases error with
  | notFound executable => exact Or.inl rfl
  | failed executable status diagnostics => exact Or.inr (Or.inl rfl)
  | rejected reason => exact Or.inr (Or.inr rfl)
  | notNamed kind => exact Or.inr (Or.inr rfl)

/-- A command line carries out the build that it asks for, unless its mode is none. -/
theorem invoke_of_mode? (tool : Tool) (invocation : CommandLine.Invocation) (tree : FileTree)
    {mode : Addressing} (hmode : invocation.settings.build.addressing.mode? = some mode) :
    let report := run tool invocation.source invocation.settings.build tree
    let ran := CommandLine.invoke tool invocation tree
    ran.commands = report.commands ∧ ran.tree = report.tree ∧
      ran.ending = match report.outcome with
        | .ok _ => .exited 0
        | .error error => (CommandLine.failureEnding error).1 := by
  simp only [CommandLine.invoke, hmode]
  cases (run tool invocation.source invocation.settings.build tree).outcome with
  | ok product => exact ⟨rfl, rfl, rfl⟩
  | error error => exact ⟨rfl, rfl, rfl⟩

/-- A command line tells truly what its build has done. -/
theorem reported_invoke {tool : Tool} (htidy : tool.Tidy) (invocation : CommandLine.Invocation)
    (tree : FileTree) :
    Reported invocation.source invocation.settings.build tree
      (run tool invocation.source invocation.settings.build tree)
      (CommandLine.invoke tool invocation tree) := by
  cases hmode : invocation.settings.build.addressing.mode? with
  | none =>
    obtain ⟨error, log, hrun⟩ := run_of_mode?_eq_none tool invocation.source tree hmode
    rw [hrun, CommandLine.invoke, hmode]
    exact ⟨rfl, rfl, by simp, by simp, by simp⟩
  | some mode =>
    obtain ⟨hcommands, htree, hending⟩ := invoke_of_mode? tool invocation tree hmode
    cases houtcome : (run tool invocation.source invocation.settings.build tree).outcome with
    | ok product =>
      rw [houtcome] at hending
      exact ⟨hcommands, htree, by simp [hending, houtcome], by simp [hending], by simp [hending]⟩
    | error error =>
      rw [houtcome] at hending
      change _ = (CommandLine.failureEnding error).1 at hending
      rcases run_failure houtcome with ⟨hstops, hnone, hsame⟩ |
        ⟨paths, place, rendered, cause, count, hbreaks, rfl, hnone, hleft⟩ |
        ⟨paths, place, rendered, hwrites, -, ⟨kind, -, rfl, hnone, -⟩ |
          ⟨executable, cause, -, rfl, hexit, hone, hleft⟩⟩
      · refine ⟨hcommands, htree, ?_,
          fun _ => ⟨hcommands.trans hnone, Or.inl (htree.trans hsame)⟩, ?_⟩ <;>
          rcases hstops.failureEnding with hstatus | hstatus <;> simp [hending, hstatus, houtcome]
      · have hstatus := hending.trans (rfl : _ = CommandLine.Ending.exited 1)
        refine ⟨hcommands, htree, by simp [hstatus, houtcome], fun _ => ?_, by simp [hstatus]⟩
        refine ⟨hcommands.trans hnone, Or.inr ⟨paths, place, rendered, cause, count, hbreaks, ?_⟩⟩
        rw [htree, hleft]
        exact holds_set _ hbreaks.place_free
      · refine ⟨hcommands, htree, ?_, ?_, ?_⟩ <;>
          simp [hending, houtcome, CommandLine.failureEnding]
      · refine ⟨hcommands, htree, ?_, ?_, fun _ => ?_⟩
        · rcases failureEnding_assembler cause with hstatus | hstatus | hstatus <;>
            simp [hending, hstatus, houtcome]
        · rcases failureEnding_assembler cause with hstatus | hstatus | hstatus <;>
            simp [hending, hstatus]
        · refine ⟨paths, place, rendered, executable, hwrites, ?_, hcommands.trans hone⟩
          rw [htree, hleft]
          exact hwrites.holds_of_failed htidy hexit

/-- A build with a tidy tool is all or nothing up to its command and leaves exactly what it has
made; and a command line that asks for it has the same effect and tells by its status which. -/
theorem run_all_or_nothing {tool : Tool} (htidy : tool.Tidy) (source : String) {options : Options}
    {executable : String} (hnamed : options.assembler = .named executable) (tree : FileTree) :
    Effect tool source options tree (run tool source options tree) ∧
    ∀ words settings, CommandLine.parse words = .ok ⟨source, settings⟩ → settings.build = options →
      Reported source options tree (run tool source options tree)
        (CommandLine.run tool words tree) := by
  refine ⟨effect_run htidy source hnamed tree, fun words settings hparse hoptions => ?_⟩
  subst hoptions
  rw [CommandLine.run, hparse]
  exact reported_invoke htidy ⟨source, settings⟩ tree

/-- A source is assembled, and its module text is gone afterwards. -/
theorem run_all_or_nothing_assembled :
    let tool := (Assembler.Script.assembling (some [0, 97, 115, 109]) false).tool
    let tree := directoryOf "p.bf" [0x2B]
    let report := run tool "p.bf" {} tree
    tool.Tidy ∧ CommandLine.parse ["p.bf"] = .ok ⟨"p.bf", {}⟩ ∧
      report.outcome = .ok ⟨⟨.relative, ["p.wat"]⟩, some ⟨.relative, ["p.wasm"]⟩, true⟩ ∧
      Effect tool "p.bf" {} tree report ∧
      Reported "p.bf" {} tree report (CommandLine.run tool ["p.bf"] tree) := by
  intro tool tree report
  have htidy : tool.Tidy := Assembler.Script.tidy_tool rfl
  have hparse : CommandLine.parse ["p.bf"] = .ok ⟨"p.bf", {}⟩ := by decide
  have hrun := run_all_or_nothing htidy "p.bf" (rfl : ({} : Options).assembler = _) tree
  exact ⟨htidy, hparse, by decide, hrun.1, hrun.2 ["p.bf"] {} hparse rfl⟩

/-- A failed build without any exceptions: nothing has changed and no command was started, or one
command was started and nothing but the text is new. -/
def FailsCleanly (tree : FileTree) (text : Location) (report : Report) : Prop :=
  (report.commands = [] ∧ ∀ location, report.tree.node? location = tree.node? location) ∨
    ∃ command, report.commands = [command] ∧
      ∀ location, location ≠ text → report.tree.node? location = tree.node? location

/-- A build has not failed cleanly if something else than the text has changed, or anything without
a command. -/
theorem not_failsCleanly {tree : FileTree} {text location : Location} {report : Report}
    (hchanged : report.tree.node? location ≠ tree.node? location)
    (h : location ≠ text ∨ report.commands = []) : ¬ FailsCleanly tree text report := by
  rintro (⟨-, hsame⟩ | ⟨command, hone, hsame⟩)
  · exact hchanged (hsame location)
  · rcases h with hne | hnone
    · exact hchanged (hsame location hne)
    · exact nomatch hone.symm.trans hnone

/-- An assembler that does its work and ends with an output that cannot be decoded. -/
def garbling (bytes : List UInt8) : Tool := fun command tree =>
  (tree.afterWrite (.verbatim command.wasm) bytes, .undecodable "invalid start byte")

/-- Builds that are not all or nothing. The system can break off the write of the module text, and
then a beginning of it is there without a command. It can refuse to delete the text, which is then
left although it was not to be kept. A command line can empty the name of the program, and then the
text is new without a command. And an assembler whose output cannot be decoded makes a build fail
that has its binary. -/
theorem run_not_all_or_nothing :
    let tool := (Assembler.Script.assembling none false).tool
    let garbler := garbling [0, 97, 115, 109]
    let text : Location := ["work", "p.wat"]
    let tree := directoryOf "p.bf" [0x2B]
    let noSpace : SystemError := .other 28 "No space left on device" true (by decide)
    let forbidden : SystemError := .other 1 "Operation not permitted" false (by decide)
    let full := refusingAt tree text { write := some (.brokenOff noSpace 8) }
    let guarded := refusingAt tree text { delete := some forbidden }
    let nameless : Options := { assembler := .other "list" }
    tool.Tidy ∧ garbler.Confined ∧
      (run tool "p.bf" {} full).outcome = .error (.unwritable ⟨.relative, ["p.wat"]⟩ noSpace) ∧
      ¬ FailsCleanly full text (run tool "p.bf" {} full) ∧
      (run tool "p.bf" {} guarded).outcome =
        .ok ⟨⟨.relative, ["p.wat"]⟩, some ⟨.relative, ["p.wasm"]⟩, false⟩ ∧
      ((run tool "p.bf" {} guarded).tree.node? text).isSome ∧
      CommandLine.parse ["p.bf", "--assembler=--"] = .ok ⟨"p.bf", { build := nameless }⟩ ∧
      (run tool "p.bf" nameless tree).outcome = .error (.assembler (.notNamed "list")) ∧
      ¬ FailsCleanly tree text (run tool "p.bf" nameless tree) ∧
      (run garbler "p.bf" {} tree).outcome =
        .error (.assembler (.rejected "invalid start byte")) ∧
      ¬ FailsCleanly tree text (run garbler "p.bf" {} tree) := by
  intro tool garbler text tree noSpace forbidden full guarded nameless
  have hconfined : garbler.Confined :=
    fun command tree => tree.sameExcept_afterWrite (.verbatim command.wasm) _
  have hfull : (run tool "p.bf" {} full).tree.node? text ≠ full.node? text := by decide
  have hnameless : (run tool "p.bf" nameless tree).tree.node? text ≠ tree.node? text := by decide
  have hgarbled : (run garbler "p.bf" {} tree).tree.node? ["work", "p.wasm"] ≠
      tree.node? ["work", "p.wasm"] := by decide
  exact ⟨Assembler.Script.tidy_tool rfl, hconfined,
    by decide, not_failsCleanly hfull (Or.inr (by decide)),
    by decide, by decide,
    by decide, by decide, not_failsCleanly hnameless (Or.inr (by decide)),
    by decide, not_failsCleanly hgarbled (Or.inl (by decide))⟩

end BrainfuckWasm.Build
