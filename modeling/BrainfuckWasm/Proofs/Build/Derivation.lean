import Mathlib.Data.List.TakeWhile
import BrainfuckWasm.Proofs.Build.Outputs

/-!
# How output paths are derived

Output paths are derived from every path that has a name. They share its directory, and their names
are the stem of its name with the two suffixes. Here a stem is described by where its name divides
and not by how it is found. A derived path is printed, read and derived from again without change,
since a stem with a suffix divides exactly between the two.
-/

namespace BrainfuckWasm

namespace Path

/-- The path of the directory that a path lies in. -/
def parent (path : Path) : Path :=
  { path with names := path.names.dropLast }

/-- The last name of a path, if it has any. -/
def name? (path : Path) : Option String :=
  path.names.getLast?

/-- A name that divides at its last dot, with something on both sides. -/
structure Divides (name front extension : List Char) : Prop where
  name_eq : name = front ++ '.' :: extension
  front_ne_nil : front ≠ []
  extension_ne_nil : extension ≠ []
  dot_not_mem : '.' ∉ extension

/-- What is left of a name without its suffix: the part before the dot, or all of a name that does
not divide. -/
def IsStem (name stem : List Char) : Prop :=
  (∃ extension, Divides name stem extension) ∨
    stem = name ∧ ∀ front extension, ¬Divides name front extension

/-- The stem of a name that divides is the part before the dot. -/
theorem stem_of_divides {name front extension : List Char} (h : Divides name front extension) :
    stem name = front := by
  have hback : name.reverse = extension.reverse ++ '.' :: front.reverse := by
    simp [h.name_eq]
  have hextension : ∀ c ∈ extension.reverse, (decide (c ≠ '.')) = true := by
    intro c hc
    rw [decide_eq_true_eq]
    rintro rfl
    exact h.dot_not_mem (List.mem_reverse.mp hc)
  have htake : name.reverse.takeWhile (· ≠ '.') = extension.reverse := by
    rw [hback, List.takeWhile_append_of_pos hextension]
    simp
  have hdrop : name.reverse.dropWhile (· ≠ '.') = '.' :: front.reverse := by
    rw [hback, List.dropWhile_append_of_pos hextension]
    simp
  obtain ⟨first, front', hfront⟩ := List.exists_cons_of_ne_nil
    (List.reverse_ne_nil_iff.mpr h.front_ne_nil)
  obtain ⟨last, extension', hlast⟩ := List.exists_cons_of_ne_nil
    (List.reverse_ne_nil_iff.mpr h.extension_ne_nil)
  rw [stem, htake, hdrop, hlast, hfront]
  simp [← hfront]

/-- The stem of a name is the name without its suffix. -/
theorem isStem_stem (name : List Char) : IsStem name (stem name) := by
  by_cases hdivides : ∃ front extension, Divides name front extension
  · obtain ⟨front, extension, h⟩ := hdivides
    rw [stem_of_divides h]
    exact Or.inl ⟨extension, h⟩
  · push Not at hdivides
    refine Or.inr ⟨?_, hdivides⟩
    rw [stem]
    split
    · next last extension dot first front htake hdrop =>
      -- The dot that the scan from the end stops at would divide the name.
      have hdot : dot = '.' := by
        have hstop := List.head?_dropWhile_not (· ≠ '.') name.reverse
        rw [hdrop] at hstop
        simpa using hstop
      have hback := List.takeWhile_append_dropWhile (p := (· ≠ '.')) (l := name.reverse)
      rw [htake, hdrop, hdot] at hback
      have hname : name = (first :: front).reverse ++ '.' :: (last :: extension).reverse := by
        rw [← List.reverse_reverse name, ← hback]
        simp
      have hplain : '.' ∉ (last :: extension).reverse := by
        rw [List.mem_reverse, ← htake]
        intro hmem
        simpa using List.mem_takeWhile_imp hmem
      exact absurd ⟨hname, by simp, by simp, hplain⟩ (hdivides _ _)
    · rfl

/-- The stem of a name is not empty. -/
theorem IsStem.ne_nil {name stem : List Char} (h : IsStem name stem) (hname : name ≠ []) :
    stem ≠ [] := by
  rcases h with ⟨extension, hdivides⟩ | ⟨rfl, -⟩
  · exact hdivides.front_ne_nil
  · exact hname

/-- A path as reading gives it: every name counts as one and has no slash. -/
structure Normal (path : Path) : Prop where
  isName : ∀ name ∈ path.names, Path.isName name.toList = true
  slash_not_mem : ∀ name ∈ path.names, '/' ∉ name.toList

/-- Every path that was read from a text is normal. -/
theorem normal_ofText (text : String) : (ofText text).Normal where
  isName := by
    intro name hname
    obtain ⟨piece, hpiece, rfl⟩ := List.mem_map.mp hname
    rw [String.toList_ofList]
    exact (List.mem_filter.mp hpiece).2
  slash_not_mem := fun _ hname => (name_of_mem_ofText hname).2

namespace Normal

variable {path : Path}

/-- A normal path with names is legible. -/
theorem legible (h : path.Normal) (hnames : path.names ≠ []) : path.Legible where
  names_ne_nil := hnames
  name_ne_nil := by
    intro name hname hnil
    have hisName := h.isName name hname
    rw [hnil] at hisName
    cases hisName
  slash_not_mem := h.slash_not_mem

/-- A normal path is read back from its text. -/
theorem ofText_render (h : path.Normal) : ofText path.render = path := by
  by_cases hnames : path.names = []
  · obtain ⟨root, names⟩ := path
    subst hnames
    cases root <;> rfl
  · have hlegible := h.legible hnames
    have hkept : (path.names.map String.toList).filter Path.isName =
        path.names.map String.toList := by
      rw [List.filter_eq_self]
      intro piece hpiece
      obtain ⟨name, hname, rfl⟩ := List.mem_map.mp hpiece
      exact h.isName name hname
    have hread : (ofText path.render).names = path.names := by
      simp only [ofText]
      rw [hlegible.splitOn_render, List.filter_append, hkept]
      simp [Path.isName]
    have hroot : (ofText path.render).root = path.root := hlegible.rootOf_render
    calc ofText path.render = ⟨(ofText path.render).root, (ofText path.render).names⟩ := rfl
      _ = path := by rw [hroot, hread]

/-- A path is never printed as nothing. -/
theorem render_ne_empty (h : path.Normal) : path.render ≠ "" := by
  intro hempty
  have hpath : ofText "" = path := hempty ▸ h.ofText_render
  rw [← hpath] at hempty
  exact absurd hempty (by decide)

/-- The normal paths without a name are the working directory and the two roots. -/
theorem names_eq_nil_iff (h : path.Normal) :
    path.names = [] ↔ path.render ∈ [".", "/", "//"] := by
  constructor
  · obtain ⟨root, names⟩ := path
    rintro rfl
    cases root <;> decide
  · intro hrender
    rw [← h.ofText_render]
    simp only [List.mem_cons, List.not_mem_nil, or_false] at hrender
    rcases hrender with hrender | hrender | hrender <;> rw [hrender] <;> rfl

end Normal

/-- A path that was read from a text is normal with another suffix, unless that has a slash. -/
theorem normal_of_withSuffix? {text suffix : String} {changed : Path} (hlength : 3 ≤ suffix.length)
    (hslash : '/' ∉ suffix.toList) (h : (ofText text).withSuffix? suffix = some changed) :
    changed.Normal := by
  have hne : suffix.toList ≠ [] := by
    rw [← List.length_pos_iff, String.length_toList]
    omega
  have hlegible := legible_of_withSuffix? hne hslash h
  refine ⟨fun name hname => ?_, hlegible.slash_not_mem⟩
  have hdot : name ≠ "." := by
    obtain ⟨last, -, rfl⟩ := withSuffix?_eq_some_iff.mp h
    rcases List.mem_append.mp hname with hold | hnew
    · rintro rfl
      exact dot_not_mem_ofText text ((List.dropLast_sublist _).subset hold)
    · rw [List.mem_singleton.mp hnew]
      exact (OutputPaths.append_ne_dots _ suffix hlength).2
  rw [Path.isName, Bool.and_eq_true, decide_eq_true_eq, decide_eq_true_eq]
  refine ⟨hlegible.name_ne_nil name hname, fun hlist => hdot ?_⟩
  exact String.toList_inj.mp hlist

/-- Replacing a suffix twice is replacing it once: the new one is found again after the stem. -/
theorem withSuffix?_of_withSuffix? {text : String} {changed : Path} {extension : List Char}
    (hextension : extension ≠ []) (hdot : '.' ∉ extension)
    (h : (ofText text).withSuffix? (String.ofList ('.' :: extension)) = some changed)
    (suffix : String) : changed.withSuffix? suffix = (ofText text).withSuffix? suffix := by
  obtain ⟨name, hname, rfl⟩ := withSuffix?_eq_some_iff.mp h
  have hne : name.toList ≠ [] := (name_of_mem_ofText (List.mem_of_getLast? hname)).1
  have hdivides : Divides
      (String.ofList (stem name.toList) ++ String.ofList ('.' :: extension)).toList
      (stem name.toList) extension :=
    ⟨by simp, (isStem_stem name.toList).ne_nil hne, hextension, hdot⟩
  simp only [withSuffix?, List.getLast?_concat, List.dropLast_concat, stem_of_divides hdivides,
    hname]

end Path

namespace OutputPaths

/-- Two paths as they are derived from a chosen one: in its directory, with the stem of its name and
the two suffixes. What either of them prints can be chosen instead. -/
structure Derived (chosen : Path) (paths : OutputPaths) : Prop where
  wat_parent : paths.wat.parent = chosen.parent
  wasm_parent : paths.wasm.parent = chosen.parent
  names : ∃ name stem, chosen.name? = some name ∧ Path.IsStem name.toList stem ∧ stem ≠ [] ∧
    paths.wat.name? = some (String.ofList stem ++ ".wat") ∧
    paths.wasm.name? = some (String.ofList stem ++ ".wasm")
  wat_ne_wasm : paths.wat ≠ paths.wasm
  again : ∀ printed ∈ [paths.wat.render, paths.wasm.render],
    derive printed none = .ok paths ∧ derive printed (some "") = .ok paths ∧
      ∀ source, derive source (some printed) = .ok paths

/-- A path from which nothing is derived is the chosen one. -/
theorem eq_of_derive_eq_error {source : String} {output : Option String} {path : Path}
    (h : derive source output = .error path) : path = .ofText (chosenText source output) := by
  rw [derive_eq, beside] at h
  split at h
  · cases h
  · exact (Except.error.inj h).symm

/-- Nothing is derived exactly from a path without a name. -/
theorem derive_eq_error_iff {source : String} {output : Option String} :
    derive source output = .error (.ofText (chosenText source output)) ↔
      (Path.ofText (chosenText source output)).names = [] := by
  rw [derive_eq, beside]
  generalize Path.ofText (chosenText source output) = chosen
  rw [← List.getLast?_eq_none_iff, Path.withSuffix?, Path.withSuffix?]
  cases chosen.names.getLast? with
  | none => simp
  | some name => simp

/-- What is printed of a normal path can be chosen instead of it. -/
theorem derive_render {path : Path} (hnormal : path.Normal) :
    derive path.render none = beside path ∧ derive path.render (some "") = beside path ∧
      ∀ source, derive source (some path.render) = beside path := by
  have hne : path.render.isEmpty = false := by
    rw [Bool.eq_false_iff, Ne, String.isEmpty_iff]
    exact hnormal.render_ne_empty
  refine ⟨?_, ?_, fun source => ?_⟩
  · rw [derive_eq, chosenText, hnormal.ofText_render]
  · rw [derive_eq, chosenText, if_pos (by decide), hnormal.ofText_render]
  · rw [derive_eq, chosenText, hne, if_neg Bool.false_ne_true, hnormal.ofText_render]

/-- A derived path can be chosen instead of the one that it was derived from. -/
theorem derive_again {source : String} {output : Option String} {paths : OutputPaths}
    {changed : Path} {extension : List Char} (h : derive source output = .ok paths)
    (hlength : 2 ≤ extension.length) (hslash : '/' ∉ extension) (hdot : '.' ∉ extension)
    (hchanged : (Path.ofText (chosenText source output)).withSuffix?
      (String.ofList ('.' :: extension)) = some changed) :
    derive changed.render none = .ok paths ∧ derive changed.render (some "") = .ok paths ∧
      ∀ other, derive other (some changed.render) = .ok paths := by
  have hsuffix : 3 ≤ (String.ofList ('.' :: extension)).length := by
    rw [← String.length_toList, String.toList_ofList, List.length_cons]
    omega
  have hnormal : changed.Normal :=
    Path.normal_of_withSuffix? hsuffix (by simpa using hslash) hchanged
  have hbeside : beside changed = .ok paths := by
    obtain ⟨hwat, hwasm⟩ := derive_eq_ok_iff.mp h
    have hextension : extension ≠ [] := by
      rintro rfl
      simp at hlength
    have hsame := Path.withSuffix?_of_withSuffix? hextension hdot hchanged
    rw [beside, hsame, hsame, hwat, hwasm]
  have hagain := derive_render hnormal
  rwa [hbeside] at hagain

/-- Derived paths are as they should be. -/
theorem derived_of_derive {source : String} {output : Option String} {paths : OutputPaths}
    (h : derive source output = .ok paths) :
    Derived (.ofText (chosenText source output)) paths := by
  obtain ⟨hwat, hwasm⟩ := derive_eq_ok_iff.mp h
  obtain ⟨name, hname, hwat'⟩ := Path.withSuffix?_eq_some_iff.mp hwat
  obtain ⟨same, hsame, hwasm'⟩ := Path.withSuffix?_eq_some_iff.mp hwasm
  rw [hname, Option.some.injEq] at hsame
  subst hsame
  have hstem := Path.isStem_stem name.toList
  have hne := hstem.ne_nil (Path.name_of_mem_ofText (List.mem_of_getLast? hname)).1
  refine {
    wat_parent := by simp [hwat', Path.parent]
    wasm_parent := by simp [hwasm', Path.parent]
    names := ⟨name, _, hname, hstem, hne, by simp [hwat', Path.name?], by simp [hwasm', Path.name?]⟩
    wat_ne_wasm := by simp [hwat', hwasm']
    again := fun printed hprinted => ?_ }
  simp only [List.mem_cons, List.not_mem_nil, or_false] at hprinted
  rcases hprinted with rfl | rfl
  · exact derive_again h (by decide) (by decide) (by decide) hwat
  · exact derive_again h (by decide) (by decide) (by decide) hwasm

/-- Output paths are derived from every path with a name, and from no other: the working directory
and the two roots. They lie in the directory of that path, under the stem of its name with the two
suffixes, and choosing what either of them prints gives both again. -/
theorem derive_total (source : String) (output : Option String) :
    let chosen := Path.ofText (chosenText source output)
    (derive source output = .error chosen ↔ chosen.render ∈ [".", "/", "//"]) ∧
      (chosen.name? = none ↔ chosen.render ∈ [".", "/", "//"]) ∧
      (chosen.render ∉ [".", "/", "//"] →
        ∃ paths, derive source output = .ok paths ∧ Derived chosen paths) := by
  intro chosen
  have hnameless := (Path.normal_ofText (chosenText source output)).names_eq_nil_iff
  refine ⟨derive_eq_error_iff.trans hnameless, List.getLast?_eq_none_iff.trans hnameless, ?_⟩
  intro hnamed
  cases hderive : derive source output with
  | error path =>
    rw [eq_of_derive_eq_error hderive, derive_eq_error_iff] at hderive
    exact absurd (hnameless.mp hderive) hnamed
  | ok paths => exact ⟨paths, rfl, derived_of_derive hderive⟩

/-- A name of two dots and a letter divides at its second dot, and the path is cleaned up on the
way. -/
theorem derive_total_dots :
    let chosen := Path.ofText "//a/.//..b"
    chosen.render ∉ [".", "/", "//"] ∧
      derive "//a/.//..b" none =
        .ok ⟨⟨.doubleSlash, ["a", "..wat"]⟩, ⟨.doubleSlash, ["a", "..wasm"]⟩⟩ ∧
      derive "p.bf" (some "//a/..wat") =
        .ok ⟨⟨.doubleSlash, ["a", "..wat"]⟩, ⟨.doubleSlash, ["a", "..wasm"]⟩⟩ := by
  intro chosen
  have hnamed : chosen.render ∉ [".", "/", "//"] := by decide
  have hpaths : derive "//a/.//..b" none =
      .ok ⟨⟨.doubleSlash, ["a", "..wat"]⟩, ⟨.doubleSlash, ["a", "..wasm"]⟩⟩ := by decide
  obtain ⟨paths, hderive, hderived⟩ := (derive_total "//a/.//..b" none).2.2 hnamed
  rw [hpaths, Except.ok.injEq] at hderive
  subst hderive
  exact ⟨hnamed, hpaths, (hderived.again "//a/..wat" (by decide)).2.2 "p.bf"⟩

end OutputPaths

end BrainfuckWasm
