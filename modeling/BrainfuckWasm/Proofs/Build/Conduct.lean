import BrainfuckWasm.Proofs.Build.Places

/-!
# Tools that do the same again

What a tool does with a command is its conduct: how it ends, and at each place a deed that writes
a file, removes one or spares what is there. A tool follows a conduct that may depend on the text
and on all files that it spares, but on nothing that it writes itself. Then whatever it has left
from an earlier run makes no difference, and the same deed twice is the deed once. Every script
follows such a conduct, in which a deed that the system refuses comes to nothing or to a part of it.
-/

namespace BrainfuckWasm

namespace FileTree

variable {before after : FileTree}

/-- Trees are the same if they have and refuse the same at every location. -/
theorem sameExcept_empty_iff : before.SameExcept ∅ after ↔
    after.workingDirectory = before.workingDirectory ∧ after.refusals = before.refusals ∧
      ∀ location, after.node? location = before.node? location := by
  constructor
  · intro h
    exact ⟨h.workingDirectory_eq, h.refusals_eq,
      fun location => h.node?_eq location (Set.notMem_empty location)⟩
  · rintro ⟨hdirectory, hrefusals, hnode⟩
    refine ⟨hdirectory, hrefusals, fun location hkept => ?_, fun location _ => hnode location⟩
    rw [hnode, hkept]

/-- In trees that are the same a path is followed alike, also where it leads nowhere. -/
theorem SameExcept.locate_eq (h : before.SameExcept ∅ after) (path : Path) :
    after.locate path = before.locate path := by
  obtain ⟨hdirectory, -, hnode⟩ := sameExcept_empty_iff.mp h
  have hfollow (location : Location) (names : List String) :
      after.follow location names = before.follow location names := by
    induction names generalizing location with
    | nil => rfl
    | cons name rest ih => simp only [follow, enter, hnode, ih]
  simp only [locate, hfollow, hdirectory]

end FileTree

namespace Assembler

/-- What is done to a file. -/
inductive Deed where
  | spare
  | write (content : List UInt8)
  | remove
  deriving DecidableEq, Repr

namespace Deed

/-- What stands at a place after a deed. A directory withstands it. -/
def on : Deed → Option Node → Option Node
  | _, some .directory => some .directory
  | .spare, node => node
  | .write content, _ => some (.file content)
  | .remove, _ => none

/-- Nothing changes at a place that is spared. -/
@[simp]
theorem on_spare (node : Option Node) : spare.on node = node := by
  rcases node with _ | _ | content <;> rfl

/-- What is written stands where no directory is. -/
theorem on_write {node : Option Node} (content : List UInt8) (h : node ≠ some .directory) :
    (write content).on node = some (.file content) := by
  rcases node with _ | _ | old
  · rfl
  · exact absurd rfl h
  · rfl

/-- Nothing is left of what is removed, unless it is a directory. -/
theorem on_remove {node : Option Node} (h : node ≠ some .directory) : remove.on node = none := by
  rcases node with _ | _ | old
  · rfl
  · exact absurd rfl h
  · rfl

/-- A deed a second time changes nothing. -/
@[simp]
theorem on_on (deed : Deed) (node : Option Node) : deed.on (deed.on node) = deed.on node := by
  cases deed <;> rcases node with _ | _ | content <;> rfl

/-- A deed neither makes a directory nor takes one away. -/
@[simp]
theorem on_eq_directory_iff (deed : Deed) (node : Option Node) :
    deed.on node = some .directory ↔ node = some .directory := by
  cases deed <;> rcases node with _ | _ | content <;> simp [on]

/-- What comes of a deed at a place where something is refused. -/
def under (refusals : Refusals) : Deed → Deed
  | .spare => .spare
  | .write content =>
    match refusals.write with
    | none => .write content
    | some (.brokenOff _ count) => .write (content.take count)
    | some (.refused _) => .spare
  | .remove => if refusals.delete.isNone then .remove else .spare

/-- A directory withstands every deed. -/
@[simp]
theorem on_directory (deed : Deed) : deed.on (some .directory) = some .directory := by
  cases deed <;> rfl

/-- One deed after another at the same place: the second hides the first, unless it spares. -/
def andThen (first : Deed) : Deed → Deed
  | .spare => first
  | second => second

/-- Two deeds at a place one after another. -/
theorem on_andThen (first second : Deed) (node : Option Node) :
    (first.andThen second).on node = second.on (first.on node) := by
  cases first <;> cases second <;> rcases node with _ | _ | content <;> rfl

end Deed

/-- A tree after a deed at each place. -/
structure Performed (deeds : Location → Deed) (before after : FileTree) : Prop where
  workingDirectory_eq : after.workingDirectory = before.workingDirectory
  refusals_eq : after.refusals = before.refusals
  node?_eq : ∀ place, after.node? place = (deeds place).on (before.node? place)

namespace Performed

variable {deeds : Location → Deed} {before after : FileTree}

/-- Deeds change the places that they do not spare. -/
theorem sameExcept (h : Performed deeds before after) :
    before.SameExcept {place | deeds place ≠ .spare} after where
  workingDirectory_eq := h.workingDirectory_eq
  refusals_eq := h.refusals_eq
  directory_kept := by
    intro place hdirectory
    rw [h.node?_eq, Deed.on_eq_directory_iff]
    exact hdirectory
  node?_eq := by
    intro place hspared
    rw [h.node?_eq, Classical.not_not.mp hspared, Deed.on_spare]

/-- Taking deeds back changes the same places, since no directory was made. -/
theorem sameExcept_back (h : Performed deeds before after) :
    after.SameExcept {place | deeds place ≠ .spare} before where
  workingDirectory_eq := h.workingDirectory_eq.symm
  refusals_eq := h.refusals_eq.symm
  directory_kept := by
    intro place hdirectory
    rwa [h.node?_eq, Deed.on_eq_directory_iff] at hdirectory
  node?_eq := by
    intro place hspared
    rw [h.node?_eq, Classical.not_not.mp hspared, Deed.on_spare]

/-- A path leads to the same place before and after deeds. -/
theorem locate_eq_ok_iff (h : Performed deeds before after) {path : Path} {place : Location} :
    after.locate path = .ok place ↔ before.locate path = .ok place :=
  ⟨h.sameExcept_back.locate_eq_ok, h.sameExcept.locate_eq_ok⟩

/-- Deeds after other deeds. -/
theorem trans {more : Location → Deed} {last : FileTree} (hfirst : Performed deeds before after)
    (hsecond : Performed more after last) :
    Performed (fun place => (deeds place).andThen (more place)) before last where
  workingDirectory_eq := hsecond.workingDirectory_eq.trans hfirst.workingDirectory_eq
  refusals_eq := hsecond.refusals_eq.trans hfirst.refusals_eq
  node?_eq := by
    intro place
    rw [hsecond.node?_eq, hfirst.node?_eq, Deed.on_andThen]

end Performed

/-- A deed to the file at a path is one at the place that the path leads to, as far as the system
lets it happen. -/
def Deed.at (deed : Deed) (path : Path) (tree : FileTree) (place : Location) : Deed :=
  if tree.locate path = .ok place then deed.under (tree.refusals place) else .spare

/-- A deed to a path is performed by a change of the one place that it leads to. -/
theorem Performed.of_place {deed : Deed} {path : Path} {before after : FileTree} {found : Location}
    (hfound : before.locate path = .ok found)
    (hdirectory : after.workingDirectory = before.workingDirectory)
    (hrefusals : after.refusals = before.refusals)
    (hthere : after.node? found =
      (deed.under (before.refusals found)).on (before.node? found))
    (helse : ∀ place, place ≠ found → after.node? place = before.node? place) :
    Performed (deed.at path before) before after := by
  refine ⟨hdirectory, hrefusals, fun place => ?_⟩
  by_cases hplace : place = found
  · rw [hplace, Deed.at, if_pos hfound, hthere]
  · have hne : before.locate path ≠ .ok place := by
      rw [hfound, Ne, Except.ok.injEq]
      exact Ne.symm hplace
    rw [Deed.at, if_neg hne, Deed.on_spare, helse place hplace]

/-- A deed to a path that leads nowhere is performed by doing nothing. -/
theorem Performed.of_nowhere (deed : Deed) {path : Path} {tree : FileTree} {cause : AccessError}
    (h : tree.locate path = .error cause) : Performed (deed.at path tree) tree tree := by
  refine ⟨rfl, rfl, fun place => ?_⟩
  simp [Deed.at, h]

/-- A deed that comes to nothing at the place of its path is performed by doing nothing. -/
theorem Performed.of_futile {deed : Deed} {path : Path} {tree : FileTree} {found : Location}
    (hfound : tree.locate path = .ok found)
    (hthere : (deed.under (tree.refusals found)).on (tree.node? found) = tree.node? found) :
    Performed (deed.at path tree) tree tree :=
  .of_place hfound rfl rfl hthere.symm fun _ _ => rfl

/-- Doing nothing is a deed that spares. -/
theorem Performed.idle (path : Path) (tree : FileTree) :
    Performed (Deed.spare.at path tree) tree tree :=
  ⟨rfl, rfl, fun place => by simp [Deed.at, Deed.under]⟩

/-- An attempt to write to the file at a path performs a deed there. -/
theorem performed_write (path : Path) (content : List UInt8) (tree : FileTree) :
    Performed ((Deed.write content).at path tree) tree (tree.afterWrite path content) := by
  cases hlocate : tree.locate path with
  | error cause =>
    rw [FileTree.afterWrite, FileTree.write, hlocate]
    exact .of_nowhere _ hlocate
  | ok found =>
    by_cases hfound : tree.node? found = some .directory
    · have hsame : tree.afterWrite path content = tree := by
        rw [FileTree.afterWrite, FileTree.write, hlocate]
        simp only [hfound]
        rcases (tree.refusals found).write with _ | _ | _ <;> rfl
      rw [hsame]
      exact .of_futile hlocate (by rw [hfound, Deed.on_directory])
    · -- What is written is the content, or a beginning of it, or nothing at all.
      have hset (written : List UInt8) :
          (tree.set found (.file written)).node? found = some (.file written) :=
        tree.node?_set_self _ (FileTree.ne_nil_of_node?_ne_directory hfound)
      cases hfault : (tree.refusals found).write with
      | none =>
        rw [FileTree.afterWrite,
          FileTree.write_eq_ok_iff.mpr ⟨found, hlocate, hfound, hfault, rfl⟩]
        refine .of_place hlocate rfl rfl ?_ fun place hplace => tree.node?_set_of_ne _ hplace
        simp only [Deed.under, hfault, hset, Deed.on_write _ hfound]
      | some fault =>
        cases fault with
        | refused cause =>
          have hsame : tree.afterWrite path content = tree := by
            rw [FileTree.afterWrite, FileTree.write, hlocate]
            simp only [hfault]
          rw [hsame]
          exact .of_futile hlocate (by simp only [Deed.under, hfault, Deed.on_spare])
        | brokenOff cause count =>
          rw [FileTree.afterWrite, FileTree.write_of_brokenOff hlocate hfound hfault]
          refine .of_place hlocate rfl rfl ?_ fun place hplace => tree.node?_set_of_ne _ hplace
          simp only [Deed.under, hfault, hset, Deed.on_write _ hfound]

/-- Deleting the file at a path, if it can be done, performs a deed there. -/
theorem performed_delete (path : Path) (tree : FileTree) :
    Performed (Deed.remove.at path tree) tree ((tree.delete path).toOption.getD tree) := by
  cases hlocate : tree.locate path with
  | error cause =>
    rw [FileTree.delete, hlocate]
    exact .of_nowhere _ hlocate
  | ok found =>
    cases hrefused : (tree.refusals found).delete with
    | some cause =>
      rw [FileTree.delete_eq_of_refused hlocate hrefused]
      exact .of_futile hlocate (by simp [Deed.under, hrefused])
    | none =>
      have hdeed : Deed.remove.under (tree.refusals found) = .remove := by
        rw [Deed.under, hrefused]
        rfl
      rcases hfound : tree.node? found with _ | _ | content
      · have hdelete : tree.delete path = .error (.system .notFound) := by
          simp [FileTree.delete, hlocate, hrefused, hfound]
        rw [hdelete]
        exact .of_futile hlocate (by rw [hdeed, hfound]; rfl)
      · have hdelete : tree.delete path = .error (.system .isDirectory) := by
          simp [FileTree.delete, hlocate, hrefused, hfound]
        rw [hdelete]
        exact .of_futile hlocate (by rw [hfound, Deed.on_directory])
      · have hfree : tree.node? found ≠ some .directory := by
          simp [hfound]
        rw [FileTree.delete_eq_of_file hlocate hrefused hfound]
        refine .of_place hlocate rfl rfl ?_ fun place hplace => tree.node?_erase_of_ne hplace
        rw [hdeed, Deed.on_remove hfree]
        exact tree.node?_erase_self (FileTree.ne_nil_of_node?_ne_directory hfree)

/-- How a command goes: its end, and its deed at each place. -/
structure Conduct where
  exit : Exit
  deeds : Location → Deed

/-- The places that a command does something to. -/
def Conduct.touched (conduct : Conduct) : Set Location :=
  {place | conduct.deeds place ≠ .spare}

/-- The place that the path of a command's text leads to, if it leads anywhere. -/
def Command.textPlaces (command : Command) (tree : FileTree) : Set Location :=
  {place | tree.locate (.verbatim command.wat) = .ok place}

/-- A tool whose runs go by a conduct, which is the same in two trees that differ at most in what
it touches apart from the text. -/
structure Tool.Follows (tool : Tool) (conduct : Command → FileTree → Conduct) : Prop where
  exit_eq : ∀ command tree, (tool command tree).2 = (conduct command tree).exit
  performed : ∀ command tree,
    Performed (conduct command tree).deeds tree (tool command tree).1
  conduct_eq : ∀ command before after,
    before.SameExcept ((conduct command before).touched \ command.textPlaces before) after →
    after.SameExcept ((conduct command before).touched \ command.textPlaces before) before →
      conduct command after = conduct command before

/-- A conduct that keeps to the two files that its command names. -/
def KeepsToFiles (conduct : Command → FileTree → Conduct) : Prop :=
  ∀ command tree,
    (conduct command tree).touched ⊆ command.textPlaces tree ∪ command.binaryPlaces tree

namespace Script

/-- What a script does to its binary. -/
def binaryDeed : Script → Deed
  | .assembling (some bytes) _ => .write bytes
  | _ => .spare

/-- What a script does to its text. -/
def textDeed (script : Script) : Deed :=
  if script.removesText then .remove else .spare

/-- The conduct of a script, which does nothing to other files. -/
def conduct (script : Script) (command : Command) (tree : FileTree) : Conduct where
  exit := (script.tool command tree).2
  deeds := fun place => (script.binaryDeed.at (.verbatim command.wasm) tree place).andThen
    (script.textDeed.at (.verbatim command.wat) tree place)

/-- A script keeps to its two files. -/
theorem keepsToFiles_conduct (script : Script) : KeepsToFiles script.conduct := by
  intro command tree place htouched
  by_contra hnot
  rw [Set.mem_union, not_or] at hnot
  have htext : tree.locate (.verbatim command.wat) ≠ .ok place := hnot.1
  have hbinary : tree.locate (.verbatim command.wasm) ≠ .ok place := hnot.2
  apply htouched
  simp only [conduct, Deed.at, if_neg htext, if_neg hbinary, Deed.andThen]

/-- The files once a script has written its binary. -/
def written (script : Script) (command : Command) (tree : FileTree) : FileTree :=
  match script with
  | .assembling (some bytes) _ => tree.afterWrite (.verbatim command.wasm) bytes
  | _ => tree

/-- Writing the binary is the first deed of a script. -/
theorem performed_written (script : Script) (command : Command) (tree : FileTree) :
    Performed (script.binaryDeed.at (.verbatim command.wasm) tree) tree
      (script.written command tree) := by
  have hidle := Performed.idle (.verbatim command.wasm) tree
  cases script with
  | unstartable => exact hidle
  | rejected reason => exact hidle
  | failing status diagnostics => exact hidle
  | assembling binary removesText =>
    cases binary with
    | none => exact hidle
    | some bytes => exact performed_write _ bytes tree

/-- The end of a script that deletes its text: zero, unless there is none to delete. -/
def deletingExit : Except AccessError FileTree → Exit
  | .ok _ => .exited 0 ""
  | .error cause => .ofAccess cause

/-- A script that deletes its text does so after it has written its binary. -/
theorem tool_of_removesText {script : Script} (h : script.removesText = true) (command : Command)
    (tree : FileTree) :
    let written := script.written command tree
    let deleted := written.delete (.verbatim command.wat)
    script.tool command tree = (deleted.toOption.getD written, deletingExit deleted) := by
  cases script with
  | unstartable => cases h
  | rejected reason => cases h
  | failing status diagnostics => cases h
  | assembling binary removesText =>
    change removesText = true at h
    subst h
    have hfinish (left : FileTree) :
        (match left.delete (.verbatim command.wat) with
          | .ok cleared => (cleared, Exit.exited 0 "")
          | .error cause => (left, .ofAccess cause)) =
          ((left.delete (.verbatim command.wat)).toOption.getD left,
            deletingExit (left.delete (.verbatim command.wat))) := by
      cases left.delete (.verbatim command.wat) with
      | error cause => rfl
      | ok cleared => rfl
    cases binary with
    | none => exact hfinish tree
    | some bytes => exact hfinish _

/-- Any other script is done once it has written its binary, and its end does not depend on the
files. -/
theorem tool_of_not_removesText {script : Script} (h : script.removesText = false) :
    ∃ exit, ∀ command tree, script.tool command tree = (script.written command tree, exit) := by
  cases script with
  | unstartable => exact ⟨_, fun _ _ => rfl⟩
  | rejected reason => exact ⟨_, fun _ _ => rfl⟩
  | failing status diagnostics => exact ⟨_, fun _ _ => rfl⟩
  | assembling binary removesText =>
    change removesText = false at h
    subst h
    cases binary with
    | none => exact ⟨_, fun _ _ => rfl⟩
    | some bytes => exact ⟨_, fun _ _ => rfl⟩

/-- A script does its two deeds. -/
theorem performed_tool (script : Script) (command : Command) (tree : FileTree) :
    Performed (script.conduct command tree).deeds tree (script.tool command tree).1 := by
  have hwritten := script.performed_written command tree
  refine hwritten.trans ?_
  have hat : script.textDeed.at (.verbatim command.wat) tree =
      script.textDeed.at (.verbatim command.wat) (script.written command tree) := by
    funext place
    simp only [Deed.at, hwritten.locate_eq_ok_iff, hwritten.refusals_eq]
  change Performed (script.textDeed.at (.verbatim command.wat) tree) _ _
  rw [hat, textDeed]
  cases hremoves : script.removesText with
  | true =>
    rw [tool_of_removesText hremoves, if_pos rfl]
    exact performed_delete _ _
  | false =>
    obtain ⟨exit, htool⟩ := tool_of_not_removesText hremoves
    rw [htool, if_neg Bool.false_ne_true]
    exact .idle _ _

/-- Deleting ends alike where a path leads to the same place, with the same there and the same
refused. -/
theorem deletingExit_eq {first second : FileTree} {path : Path}
    (hrefusals : second.refusals = first.refusals)
    (hplace : ∀ place, second.locate path = .ok place ↔ first.locate path = .ok place)
    (hnode : ∀ place, first.locate path = .ok place → second.node? place = first.node? place) :
    deletingExit (second.delete path) = deletingExit (first.delete path) := by
  rw [FileTree.delete, FileTree.delete]
  cases hfirst : first.locate path with
  | ok place =>
    rw [(hplace place).mpr hfirst]
    simp only [hnode place hfirst, hrefusals]
    cases (first.refusals place).delete with
    | some cause => rfl
    | none => rcases first.node? place with _ | _ | content <;> rfl
  | error cause =>
    cases hsecond : second.locate path with
    | ok place =>
      rw [hplace place, hfirst] at hsecond
      cases hsecond
    | error other =>
      -- Both paths lead nowhere, and either both or neither have a null character.
      have hnull : first.locate path = .error .embeddedNull ↔
          second.locate path = .error .embeddedNull := by
        rw [FileTree.locate_eq_embeddedNull_iff, FileTree.locate_eq_embeddedNull_iff]
      rw [hfirst, hsecond, Except.error.injEq, Except.error.injEq] at hnull
      cases cause with
      | embeddedNull => rw [hnull.mp rfl]
      | system cause =>
        cases other with
        | embeddedNull => cases hnull.mpr rfl
        | system other => rfl

/-- Every script follows its conduct. -/
theorem follows_conduct (script : Script) : script.tool.Follows script.conduct where
  exit_eq := fun _ _ => rfl
  performed := script.performed_tool
  conduct_eq := by
    intro command before after hthere hback
    have hplace (path : Path) (place : Location) :
        after.locate path = .ok place ↔ before.locate path = .ok place :=
      ⟨hback.locate_eq_ok, hthere.locate_eq_ok⟩
    have hat (deed : Deed) (path : Path) : deed.at path after = deed.at path before := by
      funext place
      simp only [Deed.at, hplace, hthere.refusals_eq]
    have hexit : (script.tool command after).2 = (script.tool command before).2 := by
      cases hremoves : script.removesText with
      | false =>
        obtain ⟨exit, htool⟩ := tool_of_not_removesText hremoves
        rw [htool, htool]
      | true =>
        have hbefore := script.performed_written command before
        have hafter := script.performed_written command after
        rw [tool_of_removesText hremoves, tool_of_removesText hremoves]
        refine deletingExit_eq ?_ (fun place => ?_) fun place hwat => ?_
        · rw [hafter.refusals_eq, hthere.refusals_eq, hbefore.refusals_eq]
        · rw [hafter.locate_eq_ok_iff, hbefore.locate_eq_ok_iff, hplace]
        · rw [hbefore.locate_eq_ok_iff] at hwat
          rw [hafter.node?_eq, hbefore.node?_eq, hat, hthere.node?_eq place fun hmem => hmem.2 hwat]
    simp only [conduct, hexit, hat]

end Script

end Assembler

end BrainfuckWasm
