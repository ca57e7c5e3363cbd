import Mathlib.Data.Set.Insert
import BrainfuckWasm.Assembler

/-!
# What changes in a tree of files

Two trees are compared by what stands at each location. The operations of a build and its tools
change files and take no directory away, so a path that leads to a place still does so after them.
From this follows what is read through a path once some other file has been written or deleted.
What the system refuses at a location stays as it is.

A confined tool changes at most the file that the path of its binary leads to; a tidy one leaves
even that alone unless it ends with status zero, and what it says can be decoded.
-/

namespace BrainfuckWasm.FileTree

/-- A tree after changes at some places at most, none of which takes a directory away. -/
structure SameExcept (places : Set Location) (before after : FileTree) : Prop where
  workingDirectory_eq : after.workingDirectory = before.workingDirectory
  refusals_eq : after.refusals = before.refusals
  directory_kept : ∀ location,
    before.node? location = some .directory → after.node? location = some .directory
  node?_eq : ∀ location, location ∉ places → after.node? location = before.node? location

namespace SameExcept

variable {places : Set Location} {before after : FileTree}

/-- A tree differs nowhere from itself. -/
theorem refl (places : Set Location) (tree : FileTree) : SameExcept places tree tree where
  workingDirectory_eq := rfl
  refusals_eq := rfl
  directory_kept := fun _ hdirectory => hdirectory
  node?_eq := fun _ _ => rfl

/-- Changes at more places may be allowed. -/
theorem mono {more : Set Location} (h : SameExcept places before after) (hmore : places ⊆ more) :
    SameExcept more before after where
  workingDirectory_eq := h.workingDirectory_eq
  refusals_eq := h.refusals_eq
  directory_kept := h.directory_kept
  node?_eq := fun location hlocation => h.node?_eq location fun hmem => hlocation (hmore hmem)

/-- Changes at the same places one after another. -/
theorem trans {last : FileTree} (hfirst : SameExcept places before after)
    (hsecond : SameExcept places after last) : SameExcept places before last where
  workingDirectory_eq := hsecond.workingDirectory_eq.trans hfirst.workingDirectory_eq
  refusals_eq := hsecond.refusals_eq.trans hfirst.refusals_eq
  directory_kept := fun location hdirectory =>
    hsecond.directory_kept location (hfirst.directory_kept location hdirectory)
  node?_eq := fun location hlocation =>
    (hsecond.node?_eq location hlocation).trans (hfirst.node?_eq location hlocation)

end SameExcept

/-- Where a path starts. -/
def origin (tree : FileTree) (path : Path) : Location :=
  match path.root with
  | .relative => tree.workingDirectory
  | _ => []

/-- Entering a name leads on only from a directory, and by a way that does not depend on what else
is in the tree. -/
theorem enter_eq_ok_iff {tree : FileTree} {location next : Location} {name : String} :
    tree.enter location name = .ok next ↔
      tree.node? location = some .directory ∧
        (if name = ".." then next = location.dropLast
          else if name = "." then next = location
          else name.utf8ByteSize ≤ maxNameBytes ∧ next = location ++ [name]) := by
  rw [enter]
  split
  · next hnode => simp [hnode]
  · next hnode => simp [hnode]
  · next hnode =>
    rw [hnode]
    split
    · simp [eq_comm]
    · split
      · simp [eq_comm]
      · split
        · simp only [reduceCtorEq, false_iff]
          omega
        · next hbytes => simp [Nat.le_of_not_lt hbytes, eq_comm]

/-- Following one list of names and then another. -/
theorem follow_append_eq_ok_iff {tree : FileTree} {location target : Location}
    {first second : List String} :
    tree.follow location (first ++ second) = .ok target ↔
      ∃ middle, tree.follow location first = .ok middle ∧
        tree.follow middle second = .ok target := by
  induction first generalizing location with
  | nil => simp [follow]
  | cons name rest ih =>
    rw [List.cons_append, follow, follow]
    cases tree.enter location name with
    | error cause => simp
    | ok next => exact ih

/-- Following a single name is entering it. -/
theorem follow_singleton (tree : FileTree) (location : Location) (name : String) :
    tree.follow location [name] = tree.enter location name := by
  rw [follow]
  cases tree.enter location name with
  | error cause => rfl
  | ok next => rfl

/-- A name that is no dot leads from a directory to an entry of it. -/
theorem eq_append_of_follow_singleton {tree : FileTree} {location target : Location}
    {name : String} (hup : name ≠ "..") (hdot : name ≠ ".")
    (h : tree.follow location [name] = .ok target) : target = location ++ [name] := by
  rw [follow_singleton, enter_eq_ok_iff, if_neg hup, if_neg hdot] at h
  exact h.2.2

/-- A path leads to a place if it can be handed to the system and its names can be followed. -/
theorem locate_eq_ok_iff {tree : FileTree} {path : Path} {place : Location} :
    tree.locate path = .ok place ↔
      '\x00' ∉ path.render.toList ∧ path.render.utf8ByteSize ≤ maxPathBytes ∧
        tree.follow (tree.origin path) path.names = .ok place := by
  rw [locate]
  split
  · next hnull =>
    rw [List.contains_iff_mem] at hnull
    simp [hnull]
  · next hnull =>
    rw [List.contains_iff_mem] at hnull
    split
    · simp only [reduceCtorEq, false_iff, not_and]
      omega
    · next hbytes =>
      change (tree.follow (tree.origin path) path.names).mapError AccessError.system = _ ↔ _
      cases tree.follow (tree.origin path) path.names with
      | error cause => simp [Except.mapError]
      | ok found => simp [Except.mapError, hnull, Nat.le_of_not_lt hbytes]

/-- Only a null character in its path keeps a file from being looked for. -/
theorem locate_eq_embeddedNull_iff (tree : FileTree) {path : Path} :
    tree.locate path = .error .embeddedNull ↔ '\x00' ∈ path.render.toList := by
  rw [locate]
  split
  · next hnull =>
    rw [List.contains_iff_mem] at hnull
    simp [hnull]
  · next hnull =>
    rw [List.contains_iff_mem] at hnull
    simp only [hnull, iff_false]
    split
    · simp
    · generalize tree.follow _ path.names = found
      cases found with
      | error cause => simp [Except.mapError]
      | ok place => simp [Except.mapError]

/-- The content of a file is read where its path leads, unless that is refused. -/
theorem read_eq_ok_iff {tree : FileTree} {path : Path} {content : List UInt8} :
    tree.read path = .ok content ↔
      ∃ place, tree.locate path = .ok place ∧ (tree.refusals place).read = none ∧
        tree.node? place = some (.file content) := by
  rw [read]
  cases tree.locate path with
  | error cause => simp
  | ok place =>
    simp only [Except.ok.injEq, exists_eq_left']
    split <;> simp_all

/-- A file is written where its path leads, unless a directory stands there or that is refused. -/
theorem write_eq_ok_iff {tree written : FileTree} {path : Path} {content : List UInt8} :
    tree.write path content = .ok written ↔
      ∃ place, tree.locate path = .ok place ∧ tree.node? place ≠ some .directory ∧
        (tree.refusals place).write = none ∧ written = tree.set place (.file content) := by
  rw [write]
  cases tree.locate path with
  | error cause => simp
  | ok place =>
    simp only [Except.ok.injEq, exists_eq_left']
    split
    · next hfault => simp [hfault]
    · next hnode _ => simp [hnode]
    · next hfault _ => simp [hfault]
    · next hfault hfree =>
      have hfree : tree.node? place ≠ some .directory := hfree
      simp only [hfault, hfree, Except.ok.injEq, ne_eq, not_false_eq_true, true_and]
      exact eq_comm

/-- A write that is broken off leaves a beginning of the content where its path leads. -/
theorem write_of_brokenOff {tree : FileTree} {path : Path} {place : Location} {cause : SystemError}
    {count : Nat} (hplace : tree.locate path = .ok place)
    (hfree : tree.node? place ≠ some .directory)
    (hfault : (tree.refusals place).write = some (.brokenOff cause count)) (content : List UInt8) :
    tree.write path content =
      .error ⟨.system cause, tree.set place (.file (content.take count))⟩ := by
  rw [write, hplace]
  simp only [hfault]

/-- A write that has failed was broken off, or it has left everything as it was. -/
theorem write_eq_error_cases {tree : FileTree} {path : Path} {content : List UInt8}
    {failure : WriteFailure} (h : tree.write path content = .error failure) :
    failure.left = tree ∨
      ∃ place cause count, tree.locate path = .ok place ∧ tree.node? place ≠ some .directory ∧
        (tree.refusals place).write = some (.brokenOff cause count) ∧
        failure = ⟨.system cause, tree.set place (.file (content.take count))⟩ := by
  rw [write] at h
  cases hplace : tree.locate path with
  | error cause =>
    rw [hplace, Except.error.injEq] at h
    exact Or.inl (h ▸ rfl)
  | ok place =>
    simp only [hplace] at h
    split at h
    · exact Or.inl (Except.error.inj h ▸ rfl)
    · exact Or.inl (Except.error.inj h ▸ rfl)
    · next hfault hfree =>
      exact Or.inr ⟨place, _, _, rfl, hfree, hfault, (Except.error.inj h).symm⟩
    · cases h

/-- A file is deleted where its path leads, if there is one and that is not refused. -/
theorem delete_eq_ok_iff {tree left : FileTree} {path : Path} :
    tree.delete path = .ok left ↔
      ∃ place content, tree.locate path = .ok place ∧ (tree.refusals place).delete = none ∧
        tree.node? place = some (.file content) ∧ left = tree.erase place := by
  rw [delete]
  cases tree.locate path with
  | error cause => simp
  | ok place =>
    simp only [Except.ok.injEq, exists_and_left, exists_eq_left']
    split
    · next hfault => simp [hfault]
    · next hnode => simp [hnode]
    · next hnode => simp [hnode]
    · next hfault hnode => simp [hfault, hnode, eq_comm]

/-- A file is deleted where its path leads. -/
theorem delete_eq_of_file {tree : FileTree} {path : Path} {place : Location}
    {content : List UInt8} (hplace : tree.locate path = .ok place)
    (hallowed : (tree.refusals place).delete = none)
    (hfile : tree.node? place = some (.file content)) :
    tree.delete path = .ok (tree.erase place) :=
  delete_eq_ok_iff.mpr ⟨place, content, hplace, hallowed, hfile, rfl⟩

/-- A refusal to delete the file that a path leads to. -/
theorem delete_eq_of_refused {tree : FileTree} {path : Path} {place : Location}
    {cause : SystemError} (hplace : tree.locate path = .ok place)
    (hrefused : (tree.refusals place).delete = some cause) :
    tree.delete path = .error (.system cause) := by
  rw [delete, hplace]
  simp only [hrefused]

/-- A place without a directory is not the root. -/
theorem ne_nil_of_node?_ne_directory {tree : FileTree} {place : Location}
    (h : tree.node? place ≠ some .directory) : place ≠ [] := by
  rintro rfl
  exact h rfl

/-- Putting a file where no directory is changes that place only. -/
theorem sameExcept_set {tree : FileTree} {place : Location} (content : List UInt8)
    (h : tree.node? place ≠ some .directory) :
    SameExcept {place} tree (tree.set place (.file content)) where
  workingDirectory_eq := rfl
  refusals_eq := rfl
  directory_kept := by
    intro location hdirectory
    have hne : location ≠ place := fun heq => h (heq ▸ hdirectory)
    rwa [tree.node?_set_of_ne _ hne]
  node?_eq := fun location hlocation => tree.node?_set_of_ne _ hlocation

/-- An attempt to write changes at most what its path leads to. -/
theorem sameExcept_afterWrite (tree : FileTree) (path : Path) (content : List UInt8) :
    SameExcept {place | tree.locate path = .ok place} tree (tree.afterWrite path content) := by
  rw [afterWrite]
  cases hwrite : tree.write path content with
  | ok written =>
    obtain ⟨place, hplace, hfree, -, rfl⟩ := write_eq_ok_iff.mp hwrite
    exact (sameExcept_set content hfree).mono (Set.singleton_subset_iff.mpr hplace)
  | error failure =>
    rcases write_eq_error_cases hwrite with hleft | ⟨place, cause, count, hplace, hfree, -, rfl⟩
    · simp only [hleft]
      exact .refl _ tree
    · exact (sameExcept_set _ hfree).mono (Set.singleton_subset_iff.mpr hplace)

/-- Taking a new file back changes its place only. -/
theorem set_sameExcept {tree : FileTree} {place : Location} (content : List UInt8)
    (h : tree.node? place ≠ some .directory) :
    SameExcept {place} (tree.set place (.file content)) tree where
  workingDirectory_eq := rfl
  refusals_eq := rfl
  directory_kept := by
    intro location hdirectory
    by_cases heq : location = place
    · rw [heq, tree.node?_set_self _ (ne_nil_of_node?_ne_directory h)] at hdirectory
      cases hdirectory
    · rwa [tree.node?_set_of_ne _ heq] at hdirectory
  node?_eq := fun location hlocation => (tree.node?_set_of_ne _ hlocation).symm

/-- Erasing a file changes its place only. -/
theorem sameExcept_erase {tree : FileTree} {place : Location}
    (h : tree.node? place ≠ some .directory) : SameExcept {place} tree (tree.erase place) where
  workingDirectory_eq := rfl
  refusals_eq := rfl
  directory_kept := by
    intro location hdirectory
    have hne : location ≠ place := fun heq => h (heq ▸ hdirectory)
    rwa [tree.node?_erase_of_ne hne]
  node?_eq := fun location hlocation => tree.node?_erase_of_ne hlocation

namespace SameExcept

variable {places : Set Location} {before after : FileTree}

/-- Names are followed through directories only, so they lead to the same location. -/
theorem follow_eq_ok (h : SameExcept places before after) {location target : Location}
    {names : List String} (hfollow : before.follow location names = .ok target) :
    after.follow location names = .ok target := by
  induction names generalizing location with
  | nil => exact hfollow
  | cons name rest ih =>
    rw [← List.singleton_append, follow_append_eq_ok_iff] at hfollow ⊢
    obtain ⟨next, hnext, hrest⟩ := hfollow
    rw [follow_singleton, enter_eq_ok_iff] at hnext
    refine ⟨next, ?_, ih hrest⟩
    rw [follow_singleton, enter_eq_ok_iff]
    exact ⟨h.directory_kept location hnext.1, hnext.2⟩

/-- A path leads to the same place. -/
theorem locate_eq_ok (h : SameExcept places before after) {path : Path} {place : Location}
    (hlocate : before.locate path = .ok place) : after.locate path = .ok place := by
  rw [FileTree.locate_eq_ok_iff] at hlocate ⊢
  have horigin : after.origin path = before.origin path := by
    rw [origin, origin, h.workingDirectory_eq]
  rw [horigin]
  exact ⟨hlocate.1, hlocate.2.1, h.follow_eq_ok hlocate.2.2⟩

/-- What is read elsewhere is what was read before. -/
theorem read_eq_ok (h : SameExcept places before after) {path : Path} {place : Location}
    {content : List UInt8} (hplace : before.locate path = .ok place) (helse : place ∉ places)
    (hread : before.read path = .ok content) : after.read path = .ok content := by
  rw [read_eq_ok_iff] at hread ⊢
  obtain ⟨found, hfound, hallowed, hfile⟩ := hread
  rw [hplace, Except.ok.injEq] at hfound
  subst found
  rw [← h.refusals_eq] at hallowed
  exact ⟨place, h.locate_eq_ok hplace, hallowed, (h.node?_eq place helse).trans hfile⟩

end SameExcept

/-- What was put where a path leads is read there, unless that is refused. -/
theorem read_set {tree : FileTree} {path : Path} {place : Location} (content : List UInt8)
    (hplace : tree.locate path = .ok place) (hfree : tree.node? place ≠ some .directory)
    (hallowed : (tree.refusals place).read = none) :
    (tree.set place (.file content)).read path = .ok content :=
  read_eq_ok_iff.mpr ⟨place, (sameExcept_set content hfree).locate_eq_ok hplace, hallowed,
    tree.node?_set_self _ (ne_nil_of_node?_ne_directory hfree)⟩

end BrainfuckWasm.FileTree

namespace BrainfuckWasm.Assembler

/-- The place that the path of a command's binary leads to, if it leads anywhere. -/
def Command.binaryPlaces (command : Command) (tree : FileTree) : Set Location :=
  {place | tree.locate (.verbatim command.wasm) = .ok place}

/-- A tool that changes at most the file at the path of its binary. -/
def Tool.Confined (tool : Tool) : Prop :=
  ∀ (command : Command) (tree : FileTree),
    tree.SameExcept (command.binaryPlaces tree) (tool command tree).1

/-- A confined tool that changes nothing unless it ends with status zero, and whose output can be
decoded. -/
structure Tool.Tidy (tool : Tool) : Prop where
  confined : tool.Confined
  decodable : ∀ (command : Command) (tree : FileTree) (reason : String),
    (tool command tree).2 ≠ .undecodable reason
  unchanged : ∀ (command : Command) (tree : FileTree),
    (∀ diagnostics, (tool command tree).2 ≠ .exited 0 diagnostics) →
      tree.SameExcept ∅ (tool command tree).1

/-- Whether a script deletes the text that it assembles. -/
def Script.removesText : Script → Bool
  | .assembling _ removesText => removesText
  | _ => false

/-- A script that does not delete the text is tidy: it writes its binary and ends with status zero,
or it leaves the files alone. -/
theorem Script.tidy_tool {script : Script} (h : script.removesText = false) : script.tool.Tidy := by
  have hidle (command : Command) (tree : FileTree) :
      tree.SameExcept (command.binaryPlaces tree) tree := .refl _ _
  cases script with
  | unstartable => exact ⟨hidle, fun _ _ _ => nofun, fun _ tree _ => .refl _ tree⟩
  | rejected reason => exact ⟨hidle, fun _ _ _ => nofun, fun _ tree _ => .refl _ tree⟩
  | failing status diagnostics =>
    exact ⟨hidle, fun _ _ _ => nofun, fun _ tree _ => .refl _ tree⟩
  | assembling binary removesText =>
    change removesText = false at h
    subst h
    refine ⟨fun command tree => ?_, fun _ _ _ => nofun,
      fun command tree hstatus => absurd rfl (hstatus "")⟩
    cases binary with
    | none => exact hidle command tree
    | some bytes => exact tree.sameExcept_afterWrite (.verbatim command.wasm) bytes

end BrainfuckWasm.Assembler
