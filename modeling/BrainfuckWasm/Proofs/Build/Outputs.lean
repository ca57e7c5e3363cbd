import BrainfuckWasm.Proofs.Build.Places

/-!
# The two output paths

The paths that a build derives lie beside each other: they share a root and all names but the last,
which are one stem with two suffixes. Such a path is read back from its text, by the system as by
the build itself, and the two never lead to the same place.
-/

namespace BrainfuckWasm

namespace Path

/-- Splitting a text is splitting a list. -/
theorem splitOn_eq (separator : Char) (cs : List Char) :
    splitOn separator cs = List.splitOn separator cs := by
  induction cs with
  | nil => rfl
  | cons c rest ih =>
    rw [splitOn, List.splitOn_cons_eq_if_modifyHead, ih]
    by_cases hc : c = separator
    · simp [hc]
    · cases hrest : List.splitOn separator rest with
      | nil => exact absurd hrest (List.splitOn_ne_nil separator rest)
      | cons piece pieces => simp [hc]

/-- There is no separator in the pieces between separators. -/
theorem separator_not_mem_of_mem_splitOn {separator : Char} {cs piece : List Char}
    (h : piece ∈ splitOn separator cs) : separator ∉ piece := by
  induction cs generalizing piece with
  | nil =>
    rw [splitOn, List.mem_singleton] at h
    simp [h]
  | cons c rest ih =>
    rw [splitOn] at h
    split at h
    · rcases List.mem_cons.mp h with rfl | hrest
      · exact List.not_mem_nil
      · exact ih hrest
    · next hc =>
      split at h
      · rw [List.mem_singleton] at h
        simp [h, Ne.symm hc]
      · next first pieces hsplit =>
        rcases List.mem_cons.mp h with rfl | hrest
        · rw [List.mem_cons, not_or]
          exact ⟨Ne.symm hc, ih (hsplit ▸ List.mem_cons_self)⟩
        · exact ih (hsplit ▸ List.mem_cons_of_mem _ hrest)

/-- A path that is read back from its text: it has names, none of them empty or with a slash. -/
structure Legible (path : Path) : Prop where
  names_ne_nil : path.names ≠ []
  name_ne_nil : ∀ name ∈ path.names, name.toList ≠ []
  slash_not_mem : ∀ name ∈ path.names, '/' ∉ name.toList

namespace Legible

variable {path : Path}

/-- The names of a legible path as pieces of its text. -/
theorem splitOn_intercalate (h : path.Legible) :
    splitOn '/' (String.intercalate "/" path.names).toList = path.names.map String.toList := by
  rw [splitOn_eq, String.toList_intercalate]
  apply List.splitOn_intercalate
  · intro piece hpiece
    obtain ⟨name, hname, rfl⟩ := List.mem_map.mp hpiece
    exact h.slash_not_mem name hname
  · simpa using h.names_ne_nil

/-- The text of a legible path. -/
theorem toList_render (h : path.Legible) :
    path.render.toList = path.root.text.toList ++ (String.intercalate "/" path.names).toList := by
  have hempty : path.names.isEmpty = false := by
    simpa using h.names_ne_nil
  rw [render, hempty, Bool.and_false, if_neg Bool.false_ne_true, String.toList_append]

/-- The names of a legible path start with no slash. -/
theorem head?_intercalate_ne (h : path.Legible) :
    (String.intercalate "/" path.names).toList.head? ≠ some '/' := by
  rw [String.toList_intercalate]
  cases hnames : path.names with
  | nil => exact absurd hnames h.names_ne_nil
  | cons name rest =>
    have hmem : name ∈ path.names := hnames ▸ List.mem_cons_self
    have hslash := h.slash_not_mem name hmem
    cases hname : name.toList with
    | nil => exact absurd hname (h.name_ne_nil name hmem)
    | cons c cs =>
      rw [hname, List.mem_cons, not_or] at hslash
      cases rest with
      | nil => simpa [hname] using Ne.symm hslash.1
      | cons next more => simpa [hname] using Ne.symm hslash.1

/-- The root of a legible path is read back from its text. -/
theorem rootOf_render (h : path.Legible) : rootOf path.render.toList = path.root := by
  rw [h.toList_render]
  have hhead := h.head?_intercalate_ne
  generalize (String.intercalate "/" path.names).toList = cs at hhead
  cases path.root with
  | relative =>
    cases cs with
    | nil => rfl
    | cons c rest =>
      simp only [List.head?_cons, ne_eq, Option.some.injEq] at hhead
      simp [Root.text, rootOf, hhead]
  | slash =>
    cases cs with
    | nil => rfl
    | cons c rest =>
      simp only [List.head?_cons, ne_eq, Option.some.injEq] at hhead
      simp [Root.text, rootOf, hhead]
  | doubleSlash =>
    cases cs with
    | nil => rfl
    | cons c rest =>
      simp only [List.head?_cons, ne_eq, Option.some.injEq] at hhead
      simp [Root.text, rootOf, hhead]

/-- The pieces of the text of a legible path are its names, after one empty piece for each slash of
its root. -/
theorem splitOn_render (h : path.Legible) :
    splitOn '/' path.render.toList =
      List.replicate path.root.text.length [] ++ path.names.map String.toList := by
  rw [h.toList_render]
  cases path.root with
  | relative => exact h.splitOn_intercalate
  | slash =>
    change splitOn '/' ('/' :: (String.intercalate "/" path.names).toList) = _
    rw [splitOn, if_pos rfl, h.splitOn_intercalate]
    rfl
  | doubleSlash =>
    change splitOn '/' ('/' :: '/' :: (String.intercalate "/" path.names).toList) = _
    rw [splitOn, if_pos rfl, splitOn, if_pos rfl, h.splitOn_intercalate]
    rfl

/-- The system finds a legible path in its text. -/
theorem verbatim_render (h : path.Legible) : verbatim path.render = path := by
  have hlast : (splitOn '/' path.render.toList).getLast? ≠ some [] := by
    have hne := h.name_ne_nil _ (List.getLast_mem h.names_ne_nil)
    rw [h.splitOn_render, List.getLast?_append, List.getLast?_map,
      List.getLast?_eq_some_getLast h.names_ne_nil]
    simpa using hne
  have hkept : (path.names.map String.toList).filter (· ≠ []) = path.names.map String.toList := by
    rw [List.filter_eq_self]
    intro piece hpiece
    obtain ⟨name, hname, rfl⟩ := List.mem_map.mp hpiece
    simpa using h.name_ne_nil name hname
  have hnames : (verbatim path.render).names = path.names := by
    simp only [verbatim, if_neg hlast]
    rw [h.splitOn_render, List.filter_append, hkept]
    simp
  have hroot : (verbatim path.render).root = path.root := h.rootOf_render
  calc verbatim path.render = ⟨(verbatim path.render).root, (verbatim path.render).names⟩ := rfl
    _ = path := by rw [hroot, hnames]

end Legible

/-- Every name of a path that was read from a text could be a piece of one. -/
theorem name_of_mem_ofText {text name : String} (h : name ∈ (ofText text).names) :
    name.toList ≠ [] ∧ '/' ∉ name.toList := by
  obtain ⟨piece, hpiece, rfl⟩ := List.mem_map.mp h
  obtain ⟨hsplit, hname⟩ := List.mem_filter.mp hpiece
  rw [isName, Bool.and_eq_true, decide_eq_true_eq] at hname
  rw [String.toList_ofList]
  exact ⟨hname.1, separator_not_mem_of_mem_splitOn hsplit⟩

/-- No name of a path that was read from a text is a dot. -/
theorem dot_not_mem_ofText (text : String) : "." ∉ (ofText text).names := by
  intro h
  obtain ⟨piece, hpiece, hdot⟩ := List.mem_map.mp h
  obtain ⟨-, hname⟩ := List.mem_filter.mp hpiece
  have heq : piece = ['.'] := by
    simpa using congrArg String.toList hdot
  rw [heq] at hname
  cases hname

/-- The stem of a name has characters of the name only. -/
theorem mem_of_mem_stem {name : List Char} {c : Char} (h : c ∈ stem name) : c ∈ name := by
  rw [stem] at h
  split at h
  · next dot first front _ hdrop =>
    have hsuffix : dot :: first :: front <:+ name.reverse := hdrop ▸ List.dropWhile_suffix _
    exact List.mem_reverse.mp
      (hsuffix.subset (List.mem_cons_of_mem _ (List.mem_reverse.mp h)))
  · exact h

/-- The path with another suffix has the names of the path, but for the last. -/
theorem withSuffix?_eq_some_iff {path changed : Path} {suffix : String} :
    path.withSuffix? suffix = some changed ↔
      ∃ name, path.names.getLast? = some name ∧ changed =
        ⟨path.root, path.names.dropLast ++ [String.ofList (stem name.toList) ++ suffix]⟩ := by
  rw [withSuffix?]
  cases path.names.getLast? with
  | none => simp
  | some name => simp [eq_comm]

/-- A path that was read from a text is legible with another suffix, unless that has a slash. -/
theorem legible_of_withSuffix? {text suffix : String} {changed : Path} (hne : suffix.toList ≠ [])
    (hslash : '/' ∉ suffix.toList) (h : (ofText text).withSuffix? suffix = some changed) :
    changed.Legible := by
  obtain ⟨last, hlast, rfl⟩ := withSuffix?_eq_some_iff.mp h
  have hnew : (String.ofList (stem last.toList) ++ suffix).toList =
      stem last.toList ++ suffix.toList := by
    rw [String.toList_append, String.toList_ofList]
  refine ⟨by simp, fun name hname => ?_, fun name hname => ?_⟩
  · rcases List.mem_append.mp hname with hold | hname
    · exact (name_of_mem_ofText ((List.dropLast_sublist _).subset hold)).1
    · rw [List.mem_singleton.mp hname, hnew]
      simp [hne]
  · rcases List.mem_append.mp hname with hold | hname
    · exact (name_of_mem_ofText ((List.dropLast_sublist _).subset hold)).2
    · rw [List.mem_singleton.mp hname, hnew, List.mem_append, not_or]
      exact ⟨fun hmem => (name_of_mem_ofText (List.mem_of_getLast? hlast)).2 (mem_of_mem_stem hmem),
        hslash⟩

end Path

namespace OutputPaths

/-- Two output paths beside each other: one stem with two suffixes. -/
structure Paired (paths : OutputPaths) : Prop where
  wat_legible : paths.wat.Legible
  wasm_legible : paths.wasm.Legible
  siblings : ∃ root directory stem, paths.wat = ⟨root, directory ++ [stem ++ ".wat"]⟩ ∧
    paths.wasm = ⟨root, directory ++ [stem ++ ".wasm"]⟩

/-- The text whose path is given the suffixes. -/
def chosenText (source : String) : Option String → String
  | none => source
  | some text => if text.isEmpty then source else text

/-- The paths beside a chosen one. -/
def beside (chosen : Path) : Except Path OutputPaths :=
  match chosen.withSuffix? ".wat", chosen.withSuffix? ".wasm" with
  | some wat, some wasm => .ok ⟨wat, wasm⟩
  | _, _ => .error chosen

/-- The output paths are those beside the chosen path. -/
theorem derive_eq (source : String) (output : Option String) :
    derive source output = beside (.ofText (chosenText source output)) := by
  cases output <;> rfl

/-- The derived paths are the chosen one with each of the suffixes. -/
theorem derive_eq_ok_iff {source : String} {output : Option String} {paths : OutputPaths} :
    derive source output = .ok paths ↔
      (Path.ofText (chosenText source output)).withSuffix? ".wat" = some paths.wat ∧
        (Path.ofText (chosenText source output)).withSuffix? ".wasm" = some paths.wasm := by
  rw [derive_eq, beside]
  constructor
  · intro h
    split at h
    · next wat wasm hwat hwasm =>
      cases h
      exact ⟨hwat, hwasm⟩
    · cases h
  · rintro ⟨hwat, hwasm⟩
    rw [hwat, hwasm]

/-- Derived output paths lie beside each other. -/
theorem paired_of_derive {source : String} {output : Option String} {paths : OutputPaths}
    (h : derive source output = .ok paths) : paths.Paired := by
  obtain ⟨hwat, hwasm⟩ := derive_eq_ok_iff.mp h
  refine ⟨Path.legible_of_withSuffix? (by decide) (by decide) hwat,
    Path.legible_of_withSuffix? (by decide) (by decide) hwasm, ?_⟩
  obtain ⟨name, hname, hwat⟩ := Path.withSuffix?_eq_some_iff.mp hwat
  obtain ⟨same, hsame, hwasm⟩ := Path.withSuffix?_eq_some_iff.mp hwasm
  rw [hname, Option.some.injEq] at hsame
  subst same
  exact ⟨_, _, _, hwat, hwasm⟩

/-- A stem with a suffix is longer than a name of dots. -/
theorem append_ne_dots (stem suffix : String) (h : 3 ≤ suffix.length) :
    stem ++ suffix ≠ ".." ∧ stem ++ suffix ≠ "." := by
  have hlong (dots : String) (hshort : dots.length < 3) : stem ++ suffix ≠ dots := by
    intro heq
    have hlength := congrArg String.length heq
    rw [String.length_append] at hlength
    omega
  exact ⟨hlong ".." (by decide), hlong "." (by decide)⟩

/-- Two names of one directory lead to different places, unless one of them is of dots. -/
theorem siblings_places_ne {tree : FileTree} {root : Path.Root} {directory : List String}
    {name other : String} {place found : Location}
    (hplace : tree.locate ⟨root, directory ++ [name]⟩ = .ok place)
    (hfound : tree.locate ⟨root, directory ++ [other]⟩ = .ok found)
    (hother : other ≠ ".." ∧ other ≠ ".") (hne : name ≠ other) : place ≠ found := by
  obtain ⟨-, -, hplace⟩ := FileTree.locate_eq_ok_iff.mp hplace
  obtain ⟨-, -, hfound⟩ := FileTree.locate_eq_ok_iff.mp hfound
  -- Both ways go through one directory, and part at its entries.
  obtain ⟨home, hhome, hplace⟩ := FileTree.follow_append_eq_ok_iff.mp hplace
  obtain ⟨same, hsame, hfound⟩ := FileTree.follow_append_eq_ok_iff.mp hfound
  have hone : home = same := Except.ok.inj (hhome.symm.trans hsame)
  subst hone
  rw [FileTree.eq_append_of_follow_singleton hother.1 hother.2 hfound]
  rw [FileTree.follow_singleton, FileTree.enter_eq_ok_iff] at hplace
  obtain ⟨-, hplace⟩ := hplace
  split at hplace
  · intro heq
    have hlength := congrArg List.length (hplace.symm.trans heq)
    simp only [List.length_dropLast, List.length_append, List.length_singleton] at hlength
    omega
  · split at hplace
    · simp [hplace]
    · simp [hplace.2, hne]

/-- The two output paths never lead to the same place. -/
theorem Paired.places_ne {paths : OutputPaths} (h : paths.Paired) {tree : FileTree}
    {text binary : Location} (htext : tree.locate paths.wat = .ok text)
    (hbinary : tree.locate paths.wasm = .ok binary) : text ≠ binary := by
  obtain ⟨root, directory, stem, hwat, hwasm⟩ := h.siblings
  rw [hwat] at htext
  rw [hwasm] at hbinary
  refine siblings_places_ne htext hbinary (append_ne_dots stem ".wasm" (by decide)) ?_
  intro heq
  have hlength := congrArg String.length heq
  rw [String.length_append, String.length_append] at hlength
  exact absurd (Nat.add_left_cancel hlength) (by decide)

/-- A path leads elsewhere with another suffix, unless it has that suffix. -/
theorem places_ne_of_withSuffix? {path changed : Path} {suffix : String}
    (hchanged : path.withSuffix? suffix = some changed) (hsuffix : 3 ≤ suffix.length)
    (hne : changed ≠ path) {tree : FileTree} {place found : Location}
    (hplace : tree.locate path = .ok place) (hfound : tree.locate changed = .ok found) :
    place ≠ found := by
  obtain ⟨name, hname, rfl⟩ := Path.withSuffix?_eq_some_iff.mp hchanged
  have hpath : path = ⟨path.root, path.names.dropLast ++ [name]⟩ := by
    obtain ⟨front, hfront⟩ := List.getLast?_eq_some_iff.mp hname
    rw [hfront, List.dropLast_concat, ← hfront]
  rw [hpath] at hplace
  refine siblings_places_ne hplace hfound (append_ne_dots _ suffix hsuffix) fun heq => hne ?_
  rw [← heq, ← hpath]

end OutputPaths

end BrainfuckWasm
