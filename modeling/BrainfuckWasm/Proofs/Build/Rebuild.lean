import BrainfuckWasm.Proofs.Build.Conduct
import BrainfuckWasm.Proofs.Build.Source

/-!
# Building again

A second build right after a first one ends as the first did, starts the same commands and leaves
the same files, provided that the source stands apart from what the first build has touched. What
the first one may have left behind is the text or a beginning of it, which the second overwrites,
and the deeds of its command, which the second repeats.

The assembler is an arbitrary tool that follows a conduct. It may delete or rewrite the text, fail
half-way or touch other files as well. A tool that goes by what it has left itself need not do the
same again, and neither does a build with it.
-/

namespace BrainfuckWasm.Build

open Assembler (Command Conduct Deed Performed Tool)

/-- A second build right after a first one gives the same outcome, starts the same commands and
leaves the same files. -/
structure Repeats (tool : Tool) (source : String) (options : Options) (tree : FileTree) :
    Prop where
  outcome_eq :
    (run tool source options (run tool source options tree).tree).outcome =
      (run tool source options tree).outcome
  commands_eq :
    (run tool source options (run tool source options tree).tree).commands =
      (run tool source options tree).commands
  tree_same :
    (run tool source options tree).tree.SameExcept ∅
      (run tool source options (run tool source options tree).tree).tree

/-- What a build does to the files by its command, if it comes to run one. -/
def deedsOf (conduct : Command → FileTree → Conduct) (options : Options) (paths : OutputPaths)
    (tree : FileTree) (location : Location) : Deed :=
  match options.watOnly, options.assembler with
  | false, .named executable => (conduct (commandOf paths executable) tree).deeds location
  | _, _ => .spare

/-- With a command, these are the deeds of the command. -/
theorem deedsOf_of_named (conduct : Command → FileTree → Conduct) {options : Options}
    {executable : String} (hwatOnly : options.watOnly = false)
    (hprogram : options.assembler = .named executable) (paths : OutputPaths) (tree : FileTree)
    (location : Location) :
    deedsOf conduct options paths tree location =
      (conduct (commandOf paths executable) tree).deeds location := by
  simp only [deedsOf, hwatOnly, hprogram]

/-- Without a command there are none. -/
theorem deedsOf_of_idle (conduct : Command → FileTree → Conduct) {options : Options}
    (h : ∀ executable, options.watOnly = false → options.assembler ≠ .named executable)
    (paths : OutputPaths) (tree : FileTree) (location : Location) :
    deedsOf conduct options paths tree location = .spare := by
  rw [deedsOf]
  split
  · next executable hwatOnly hprogram => exact absurd hprogram (h executable hwatOnly)
  · rfl

/-- The source stands apart from what its build does: the text goes elsewhere, and the command
spares it. -/
structure SourceApart (conduct : Command → FileTree → Conduct) (source : String)
    (options : Options) (tree : FileTree) : Prop where
  ne_text : ∀ paths text rendered place, Renders source options tree paths text rendered →
    tree.locate (.ofText source) = .ok place → place ≠ text
  spared : ∀ paths text rendered place, Writes source options tree paths text rendered →
    tree.locate (.ofText source) = .ok place →
      deedsOf conduct options paths (withText tree text rendered) place = .spare

/-- Removing the text is a deed where its path leads. -/
theorem performed_removeText (path : Path) (tree : FileTree) :
    Performed (Deed.remove.at path tree) tree (removeText path tree).1 := by
  have hremove : (removeText path tree).1 = (tree.delete path).toOption.getD tree := by
    rw [removeText]
    rcases tree.delete path with (_ | cause) | left <;> rfl
  rw [hremove]
  exact Assembler.performed_delete path tree

/-- Removing the text does the same in trees that are the same. -/
theorem removeText_same {before after : FileTree} (h : before.SameExcept ∅ after) (path : Path) :
    (removeText path after).2.1 = (removeText path before).2.1 ∧
      (removeText path before).1.SameExcept ∅ (removeText path after).1 := by
  obtain ⟨hdirectory, hrefusals, hnode⟩ := FileTree.sameExcept_empty_iff.mp h
  rw [removeText, removeText, FileTree.delete, FileTree.delete, h.locate_eq]
  cases before.locate path with
  | error cause => cases cause <;> exact ⟨rfl, h⟩
  | ok place =>
    simp only [hnode, hrefusals]
    cases (before.refusals place).delete with
    | some cause => exact ⟨rfl, h⟩
    | none =>
      rcases hplace : before.node? place with _ | _ | content
      · exact ⟨rfl, h⟩
      · exact ⟨rfl, h⟩
      · refine ⟨rfl, FileTree.sameExcept_empty_iff.mpr
          ⟨hdirectory, hrefusals, fun location => ?_⟩⟩
        have hne : place ≠ [] := by
          apply FileTree.ne_nil_of_node?_ne_directory
          rw [hplace]
          simp
        by_cases hlocation : location = place
        · simp only [hlocation, FileTree.node?_erase_self _ hne]
        · simp only [FileTree.node?_erase_of_ne _ hlocation, hnode]

/-- The last part of a build does the same in two trees, if its command does. -/
theorem finish_same {tool : Tool} {options : Options} {paths : OutputPaths}
    {first second : FileTree}
    (hidle : (∀ executable, options.watOnly = false → options.assembler ≠ .named executable) →
      first.SameExcept ∅ second)
    (hcommand : ∀ executable, options.watOnly = false → options.assembler = .named executable →
      (tool (commandOf paths executable) second).2 = (tool (commandOf paths executable) first).2 ∧
        (tool (commandOf paths executable) first).1.SameExcept ∅
          (tool (commandOf paths executable) second).1)
    (log more : List LogEntry) :
    (finish tool options paths more second).outcome =
        (finish tool options paths log first).outcome ∧
      (finish tool options paths more second).commands =
        (finish tool options paths log first).commands ∧
      (finish tool options paths log first).tree.SameExcept ∅
        (finish tool options paths more second).tree := by
  rw [finish, finish]
  cases hwatOnly : options.watOnly with
  | true =>
    refine ⟨rfl, rfl, hidle fun _ hnot => ?_⟩
    rw [hwatOnly] at hnot
    cases hnot
  | false =>
    rw [if_neg Bool.false_ne_true, if_neg Bool.false_ne_true]
    cases hprogram : options.assembler with
    | other kind =>
      refine ⟨rfl, rfl, hidle fun _ _ hnamed => ?_⟩
      rw [hprogram] at hnamed
      cases hnamed
    | named executable =>
      obtain ⟨hexit, hsame⟩ := hcommand executable hwatOnly hprogram
      have hformed : (Assembler.Program.named executable).command paths.wat.render
          paths.wasm.render = .ok (commandOf paths executable) := rfl
      simp only [hformed, assemble_eq, hexit]
      cases errorOf? (commandOf paths executable).executable
          (tool (commandOf paths executable) first).2 with
      | some error => exact ⟨rfl, rfl, hsame⟩
      | none =>
        cases options.keepWat with
        | true => exact ⟨rfl, rfl, hsame⟩
        | false =>
          obtain ⟨hremoved, hcleaned⟩ := removeText_same hsame paths.wat
          simp only [Bool.false_eq_true, if_false, hremoved, true_and]
          exact hcleaned

/-- What writing the text does to the files. -/
def textDeeds (place : Location) (rendered : String) (location : Location) : Deed :=
  if location = place then .write (Text.bytesOfText rendered) else .spare

/-- Writing the text is one deed, at its place. -/
theorem performed_withText {tree : FileTree} {place : Location} (rendered : String)
    (h : tree.node? place ≠ some .directory) :
    Performed (textDeeds place rendered) tree (withText tree place rendered) := by
  refine ⟨rfl, rfl, fun location => ?_⟩
  by_cases hlocation : location = place
  · subst hlocation
    rw [textDeeds, if_pos rfl, Deed.on_write _ h]
    exact tree.node?_set_self _ (FileTree.ne_nil_of_node?_ne_directory h)
  · rw [textDeeds, if_neg hlocation, Deed.on_spare]
    exact tree.node?_set_of_ne _ hlocation

/-- The last part of a build does the deeds of its command, and whatever it does to the text. -/
theorem performed_finish {tool : Tool} {conduct : Command → FileTree → Conduct}
    (hfollows : tool.Follows conduct) (options : Options) {paths : OutputPaths} {tree : FileTree}
    {place : Location} (hplace : tree.locate paths.wat = .ok place) (log : List LogEntry) :
    ∃ deeds, Performed deeds tree (finish tool options paths log tree).tree ∧
      ∀ location, location ≠ place →
        deeds location = deedsOf conduct options paths tree location := by
  have hfinishes := finish_finishes tool options paths log tree
  generalize finish tool options paths log tree = report at hfinishes
  have hidle : Performed (fun _ => .spare) tree tree :=
    ⟨rfl, rfl, fun _ => (Deed.on_spare _).symm⟩
  cases hfinishes with
  | textOnly hwatOnly =>
    refine ⟨_, hidle, fun location _ => ?_⟩
    simp only [deedsOf, hwatOnly]
  | nameless hwatOnly hprogram =>
    refine ⟨_, hidle, fun location _ => ?_⟩
    simp only [deedsOf, hwatOnly, hprogram]
  | failed hwatOnly hprogram hexit =>
    refine ⟨_, hfollows.performed _ tree, fun location _ => ?_⟩
    rw [deedsOf_of_named conduct hwatOnly hprogram]
  | kept hwatOnly hprogram hexit hkeepWat =>
    refine ⟨_, hfollows.performed _ tree, fun location _ => ?_⟩
    rw [deedsOf_of_named conduct hwatOnly hprogram]
  | @cleaned _ executable _ hwatOnly hprogram hexit hkeepWat =>
    have hran := hfollows.performed (commandOf paths executable) tree
    refine ⟨_, hran.trans (performed_removeText paths.wat _), fun location hlocation => ?_⟩
    have hwat : (tool (commandOf paths executable) tree).1.locate paths.wat = .ok place :=
      hran.locate_eq_ok_iff.mpr hplace
    have helse : Deed.remove.at paths.wat (tool (commandOf paths executable) tree).1 location =
        .spare := by
      rw [Deed.at, hwat, if_neg]
      simpa using Ne.symm hlocation
    rw [deedsOf_of_named conduct hwatOnly hprogram, helse]
    rfl

namespace Writes

variable {tool : Tool} {conduct : Command → FileTree → Conduct} {source : String}
  {options : Options} {tree : FileTree} {paths : OutputPaths} {place : Location}
  {rendered : String}

/-- The command finds the text where the build has written it. -/
theorem textPlaces_eq (h : Writes source options tree paths place rendered) (executable : String) :
    (commandOf paths executable).textPlaces (withText tree place rendered) = {place} := by
  have hlegible := (OutputPaths.paired_of_derive h.paths_eq).wat_legible
  have hplace := (performed_withText rendered h.place_free).locate_eq_ok_iff.mpr h.place_eq
  ext location
  change (withText tree place rendered).locate (.verbatim paths.wat.render) = .ok location ↔ _
  rw [hlegible.verbatim_render, hplace, Except.ok.injEq, Set.mem_singleton_iff, eq_comm]

/-- A build that has written its text can write it again, if the source stands apart. -/
theorem again (h : Writes source options tree paths place rendered)
    (hfollows : tool.Follows conduct) (hapart : SourceApart conduct source options tree)
    (log : List LogEntry) :
    Writes source options (finish tool options paths log (withText tree place rendered)).tree paths
      place rendered := by
  have htext := performed_withText rendered h.place_free
  obtain ⟨deeds, hfinish, hdeeds⟩ := performed_finish hfollows options
    (htext.locate_eq_ok_iff.mpr h.place_eq) log
  have hall := htext.trans hfinish
  obtain ⟨bytes, mode, hread, -, -⟩ := h.rendered_eq
  obtain ⟨found, hfound, -⟩ := FileTree.read_eq_ok_iff.mp hread
  have hne := hapart.ne_text paths place rendered found h.toRenders hfound
  have hspared := hapart.spared paths place rendered found h hfound
  have huntouched : (textDeeds place rendered found).andThen (deeds found) = .spare := by
    rw [hdeeds found hne, hspared, textDeeds, if_neg hne]
    rfl
  have hreread := hall.sameExcept.read_eq_ok hfound (not_not.mpr huntouched) hread
  exact {
    toRenders := h.transfer hall.sameExcept hall.sameExcept_back hread hreread
      fun _ hrendered => hrendered
    unhindered := by
      rw [hall.refusals_eq]
      exact h.unhindered }

/-- With its text written again, a tree differs from what it was at first by the deeds of the
command, the text apart. -/
theorem performed_again (h : Writes source options tree paths place rendered)
    (hfollows : tool.Follows conduct) (log : List LogEntry) :
    let first := withText tree place rendered
    Performed
      (fun location => if location = place then .spare
        else deedsOf conduct options paths first location)
      first (withText (finish tool options paths log first).tree place rendered) := by
  intro first
  have htext : Performed _ tree first := performed_withText rendered h.place_free
  obtain ⟨deeds, hfinish, hdeeds⟩ := performed_finish hfollows options
    (htext.locate_eq_ok_iff.mpr h.place_eq) log
  have hfree : (finish tool options paths log first).tree.node? place ≠ some .directory := by
    rw [hfinish.node?_eq, Ne, Deed.on_eq_directory_iff, htext.node?_eq, Deed.on_eq_directory_iff]
    exact h.place_free
  have hagain := performed_withText rendered hfree
  refine ⟨hagain.workingDirectory_eq.trans hfinish.workingDirectory_eq,
    hagain.refusals_eq.trans hfinish.refusals_eq, fun location => ?_⟩
  by_cases hlocation : location = place
  · subst hlocation
    rw [hagain.node?_eq, if_pos rfl, Deed.on_spare, htext.node?_eq, textDeeds, if_pos rfl,
      Deed.on_write _ hfree, Deed.on_write _ h.place_free]
  · rw [hagain.node?_eq, textDeeds, if_neg hlocation, if_neg hlocation, Deed.on_spare,
      hfinish.node?_eq, hdeeds location hlocation]

/-- The command does the same again, and leaves the same. -/
theorem command_again (h : Writes source options tree paths place rendered)
    (hfollows : tool.Follows conduct) (log : List LogEntry) {executable : String}
    (hwatOnly : options.watOnly = false) (hprogram : options.assembler = .named executable) :
    let command := commandOf paths executable
    let first := withText tree place rendered
    let second := withText (finish tool options paths log first).tree place rendered
    (tool command second).2 = (tool command first).2 ∧
      (tool command first).1.SameExcept ∅ (tool command second).1 := by
  intro command first second
  have hbetween : Performed _ first second := h.performed_again hfollows log
  simp only [deedsOf_of_named conduct hwatOnly hprogram] at hbetween
  -- The two trees differ in what the command has touched, but not in the text.
  have htouched : {location | (if location = place then Deed.spare
      else (conduct command first).deeds location) ≠ .spare} ⊆
      (conduct command first).touched \ command.textPlaces first := by
    intro location hlocation
    rw [h.textPlaces_eq]
    by_cases hplace : location = place
    · exact absurd (if_pos hplace) hlocation
    · refine ⟨fun hspared => hlocation ?_, hplace⟩
      rw [if_neg hplace, hspared]
  have hconduct := hfollows.conduct_eq command first second (hbetween.sameExcept.mono htouched)
    (hbetween.sameExcept_back.mono htouched)
  have hfirst := hfollows.performed command first
  have hsecond := hfollows.performed command second
  rw [hconduct] at hsecond
  refine ⟨by rw [hfollows.exit_eq, hfollows.exit_eq, hconduct],
    FileTree.sameExcept_empty_iff.mpr ⟨?_, ?_, fun location => ?_⟩⟩
  · rw [hsecond.workingDirectory_eq, hfirst.workingDirectory_eq, hbetween.workingDirectory_eq]
  · rw [hsecond.refusals_eq, hfirst.refusals_eq, hbetween.refusals_eq]
  · rw [hsecond.node?_eq, hfirst.node?_eq, hbetween.node?_eq]
    by_cases hlocation : location = place
    · rw [if_pos hlocation, Deed.on_spare]
    · rw [if_neg hlocation, Deed.on_on]

end Writes

/-- A build whose write was broken off is broken off again, if the source stands apart. -/
theorem BreaksOff.again {source : String} {options : Options} {tree : FileTree}
    {paths : OutputPaths} {place found : Location} {rendered : String} {cause : SystemError}
    {count : Nat} (h : BreaksOff source options tree paths place rendered cause count)
    (hfound : tree.locate (.ofText source) = .ok found) (hne : found ≠ place) :
    BreaksOff source options (withBeginning tree place rendered count) paths place rendered cause
      count := by
  obtain ⟨bytes, mode, hread, -, -⟩ := h.rendered_eq
  have hthere := FileTree.sameExcept_set ((Text.bytesOfText rendered).take count) h.place_free
  have hback := FileTree.set_sameExcept ((Text.bytesOfText rendered).take count) h.place_free
  exact {
    toRenders := h.transfer hthere hback hread (hthere.read_eq_ok hfound hne hread)
      fun _ hrendered => hrendered
    brokenOff := h.brokenOff }

/-- A build is repeated if its source stands apart. -/
theorem repeats_of_sourceApart {tool : Tool} {conduct : Command → FileTree → Conduct}
    (hfollows : tool.Follows conduct) {source : String} {options : Options} {tree : FileTree}
    (hapart : SourceApart conduct source options tree) : Repeats tool source options tree := by
  rcases run_cases tool source options tree with
    ⟨error, log, -, hrun⟩ | ⟨paths, place, rendered, cause, count, log, hbreaks, hrun⟩ |
    ⟨paths, place, rendered, log, hwrites, hrun⟩
  · have htree : (run tool source options tree).tree = tree := by rw [hrun]
    constructor <;> rw [htree]
    rw [htree]
    exact .refl _ _
  · obtain ⟨bytes, mode, hread, -, -⟩ := hbreaks.rendered_eq
    obtain ⟨found, hfound, -⟩ := FileTree.read_eq_ok_iff.mp hread
    have hne := hapart.ne_text paths place rendered found hbreaks.toRenders hfound
    obtain ⟨more, hagain⟩ := (hbreaks.again hfound hne).run_eq tool
    constructor <;> rw [hrun, hagain]
    rw [withBeginning, withBeginning, FileTree.set_set]
    exact .refl _ _
  · obtain ⟨more, hagain⟩ := (hwrites.again hfollows hapart log).run_eq tool
    obtain ⟨houtcome, hcommands, htree⟩ := finish_same
      (fun hidle => by
        have hsame := (hwrites.performed_again hfollows log).sameExcept
        simpa [deedsOf_of_idle conduct hidle] using hsame)
      (fun executable hwatOnly hprogram =>
        hwrites.command_again hfollows log hwatOnly hprogram) log more
    constructor <;> rw [hrun, hagain]
    · exact houtcome
    · exact hcommands
    · exact htree

/-- If the assembler keeps to its two files, the source stands apart where it is at the place of
neither. -/
theorem sourceApart_of_keepsToFiles {conduct : Command → FileTree → Conduct}
    (hfiles : Assembler.KeepsToFiles conduct) {source : String} {options : Options}
    {tree : FileTree}
    (hsource : ∀ place paths, tree.locate (.ofText source) = .ok place →
      OutputPaths.derive source options.output = .ok paths →
        place ∉ touchedPlaces options tree paths) :
    SourceApart conduct source options tree := by
  constructor
  · rintro paths text rendered place hrenders hplace rfl
    exact hsource place paths hplace hrenders.paths_eq (Or.inl hrenders.place_eq)
  · intro paths text rendered place hwrites hplace
    have hnot := hsource place paths hplace hwrites.paths_eq
    rw [deedsOf]
    split
    · next executable hwatOnly hprogram =>
      by_contra htouched
      rcases hfiles _ _ htouched with htext | hbinary
      · rw [hwrites.textPlaces_eq, Set.mem_singleton_iff] at htext
        exact hnot (Or.inl (htext ▸ hwrites.place_eq))
      · rw [hwrites.binaryPlaces_eq] at hbinary
        exact hnot (Or.inr ⟨hwatOnly, hbinary⟩)
    · rfl

/-- Building again right after a build repeats it, whatever the first one has come to and whatever
the assembler does, as long as that is the same both times and the source stands apart. For an
assembler that keeps to its two files this means that the source is at the place of neither. -/
theorem run_again {tool : Tool} {conduct : Command → FileTree → Conduct}
    (hfollows : tool.Follows conduct) (source : String) (options : Options) (tree : FileTree) :
    (SourceApart conduct source options tree → Repeats tool source options tree) ∧
    (Assembler.KeepsToFiles conduct →
      (∀ place paths, tree.locate (.ofText source) = .ok place →
        OutputPaths.derive source options.output = .ok paths →
          place ∉ touchedPlaces options tree paths) →
      Repeats tool source options tree) := by
  refine ⟨repeats_of_sourceApart hfollows, fun hfiles hsource => ?_⟩
  exact repeats_of_sourceApart hfollows (sourceApart_of_keepsToFiles hfiles hsource)

/-- A build beside a source `p.bf` touches other files only. -/
theorem not_mem_touchedPlaces_of_bf {tree : FileTree} {place : Location} {paths : OutputPaths}
    (hplace : tree.locate (.ofText "p.bf") = .ok place)
    (hpaths : OutputPaths.derive "p.bf" none = .ok paths) :
    place ∉ touchedPlaces {} tree paths := by
  have hderive : OutputPaths.derive "p.bf" none =
      .ok ⟨⟨.relative, ["p.wat"]⟩, ⟨.relative, ["p.wasm"]⟩⟩ := by decide
  have heq := Except.ok.inj (hderive.symm.trans hpaths)
  subst heq
  exact not_mem_touchedPlaces hplace rfl hpaths (by decide) (Or.inr (by decide))

/-- An assembler that writes its binary and deletes the text itself, so that there is no text to
remove either time. -/
theorem run_again_without_text :
    let script : Assembler.Script := .assembling (some [0, 97, 115, 109]) true
    let tree := directoryOf "p.bf" [0x2B]
    script.tool.Follows script.conduct ∧ Assembler.KeepsToFiles script.conduct ∧
      (∀ place paths, tree.locate (.ofText "p.bf") = .ok place →
        OutputPaths.derive "p.bf" none = .ok paths → place ∉ touchedPlaces {} tree paths) ∧
      SourceApart script.conduct "p.bf" {} tree ∧
      (run script.tool "p.bf" {} tree).outcome =
        .ok ⟨⟨.relative, ["p.wat"]⟩, some ⟨.relative, ["p.wasm"]⟩, false⟩ ∧
      Repeats script.tool "p.bf" {} tree := by
  intro script tree
  have hfollows := script.follows_conduct
  have hfiles := script.keepsToFiles_conduct
  have hsource : ∀ place paths, tree.locate (.ofText "p.bf") = .ok place →
      OutputPaths.derive "p.bf" none = .ok paths → place ∉ touchedPlaces {} tree paths :=
    fun _ _ => not_mem_touchedPlaces_of_bf
  exact ⟨hfollows, hfiles, hsource, sourceApart_of_keepsToFiles hfiles hsource, by decide,
    (run_again hfollows "p.bf" {} tree).2 hfiles hsource⟩

/-- An assembler that does not overwrite a binary. -/
def unwilling (bytes : List UInt8) : Tool := fun command tree =>
  match tree.read (.verbatim command.wasm) with
  | .ok _ => (tree, .exited 1 (command.wasm ++ " exists"))
  | .error _ => (tree.afterWrite (.verbatim command.wasm) bytes, .exited 0 "")

/-- An assembler that deletes the file at some path and does nothing else. -/
def clearing (path : Path) : Tool := fun _ tree =>
  ((tree.delete path).toOption.getD tree, .exited 0 "")

/-- A source apart from both outputs is not enough for a build to be repeated. An assembler that
does not overwrite the binary of the first build fails the second time, and one that deletes the
source leaves nothing to build. -/
theorem run_not_again :
    let tree := directoryOf "p.bf" [0x2B]
    let product : Product := ⟨⟨.relative, ["p.wat"]⟩, some ⟨.relative, ["p.wasm"]⟩, true⟩
    let first (tool : Tool) := run tool "p.bf" {} tree
    let second (tool : Tool) := run tool "p.bf" {} (first tool).tree
    let writer := unwilling [0, 97, 115, 109]
    let cleaner := clearing (.ofText "p.bf")
    (∀ place paths, tree.locate (.ofText "p.bf") = .ok place →
        OutputPaths.derive "p.bf" none = .ok paths → place ∉ touchedPlaces {} tree paths) ∧
      (first writer).outcome = .ok product ∧
      (second writer).outcome = .error (.assembler (.failed "wat2wasm" 1 "p.wasm exists")) ∧
      (first cleaner).outcome = .ok product ∧
      (second cleaner).outcome = .error (.sourceNotFound ⟨.relative, ["p.bf"]⟩) ∧
      ¬ Repeats writer "p.bf" {} tree ∧ ¬ Repeats cleaner "p.bf" {} tree := by
  intro tree product first second writer cleaner
  have hwriter : (first writer).outcome = .ok product := by decide
  have hwriterAgain : (second writer).outcome =
      .error (.assembler (.failed "wat2wasm" 1 "p.wasm exists")) := by decide
  have hcleaner : (first cleaner).outcome = .ok product := by decide
  have hcleanerAgain : (second cleaner).outcome =
      .error (.sourceNotFound ⟨.relative, ["p.bf"]⟩) := by decide
  refine ⟨fun _ _ => not_mem_touchedPlaces_of_bf, hwriter, hwriterAgain, hcleaner, hcleanerAgain,
    fun hrepeats => ?_, fun hrepeats => ?_⟩
  · exact nomatch hwriterAgain.symm.trans (hrepeats.outcome_eq.trans hwriter)
  · exact nomatch hcleanerAgain.symm.trans (hrepeats.outcome_eq.trans hcleaner)

end BrainfuckWasm.Build
