import BrainfuckWasm.Proofs.Build.Effect

/-!
# What becomes of the source file

A build touches the places of its two output paths and no others. A source file elsewhere is still
there afterwards with its bytes, however the build has ended. The output paths are derived from the
source by its suffix alone, so a source that already has the suffix of an output stands in its own
way: once the module text is written, the source is that text or gone.
-/

namespace BrainfuckWasm.Build

open Assembler (Tool)

/-- The places that a build may touch: that of the text, and that of the binary if there is to be
one. -/
def touchedPlaces (options : Options) (tree : FileTree) (paths : OutputPaths) : Set Location :=
  {place | tree.locate paths.wat = .ok place ∨
    options.watOnly = false ∧ tree.locate paths.wasm = .ok place}

/-- A build that has written its text has touched nothing else than it may, and the text is there or
gone. -/
theorem Writes.touched {tool : Tool} (hconfined : tool.Confined) {source : String}
    {options : Options} {tree : FileTree} {paths : OutputPaths} {place : Location}
    {rendered : String} (h : Writes source options tree paths place rendered)
    (log : List LogEntry) :
    let after := (finish tool options paths log (withText tree place rendered)).tree
    tree.SameExcept (touchedPlaces options tree paths) after ∧
      (after.node? place = some (.file (Text.bytesOfText rendered)) ∨
        after.node? place = none) := by
  have htext : tree.SameExcept (touchedPlaces options tree paths) (withText tree place rendered) :=
    h.holds.elsewhere.mono (Set.singleton_subset_iff.mpr (Or.inl h.place_eq))
  have hleft (executable : String) (hwatOnly : options.watOnly = false) :
      tree.SameExcept (touchedPlaces options tree paths)
        (tool (commandOf paths executable) (withText tree place rendered)).1 := by
    apply (h.sameExcept_of_confined hconfined executable).mono
    rintro location (rfl | hbinary)
    · exact Or.inl h.place_eq
    · exact Or.inr ⟨hwatOnly, hbinary⟩
  have hfinishes := finish_finishes tool options paths log (withText tree place rendered)
  generalize finish tool options paths log (withText tree place rendered) = report at hfinishes
  cases hfinishes with
  | textOnly hwatOnly => exact ⟨htext, Or.inl h.holds.content_eq⟩
  | nameless hwatOnly hprogram => exact ⟨htext, Or.inl h.holds.content_eq⟩
  | @failed _ executable _ hwatOnly hprogram hexit =>
    exact ⟨hleft executable hwatOnly, Or.inl (h.text_of_confined hconfined executable)⟩
  | @kept _ executable _ hwatOnly hprogram hexit hkeepWat =>
    exact ⟨hleft executable hwatOnly, Or.inl (h.text_of_confined hconfined executable)⟩
  | @cleaned _ executable _ hwatOnly hprogram hexit hkeepWat =>
    rcases h.removeText_cases hconfined executable with
      ⟨-, hremoval⟩ | ⟨cause, -, hremoval⟩
    · obtain ⟨hsame, hempty⟩ := h.erased_of_confined hconfined executable
      rw [hremoval]
      refine ⟨(hleft executable hwatOnly).trans ?_, Or.inr hempty⟩
      exact hsame.mono (Set.singleton_subset_iff.mpr (Or.inl h.place_eq))
    · rw [hremoval]
      exact ⟨hleft executable hwatOnly, Or.inl (h.text_of_confined hconfined executable)⟩

/-- What stands at a place that a build may not touch is read as before. -/
theorem run_read_of_untouched {tool : Tool} (hconfined : tool.Confined) {source : String}
    {options : Options} {tree : FileTree} {path : Path} {place : Location} {bytes : List UInt8}
    (hplace : tree.locate path = .ok place) (hread : tree.read path = .ok bytes)
    (huntouched : ∀ paths, OutputPaths.derive source options.output = .ok paths →
      place ∉ touchedPlaces options tree paths) :
    (run tool source options tree).tree.read path = .ok bytes := by
  rcases run_cases tool source options tree with
    ⟨error, log, -, hrun⟩ | ⟨paths, text, rendered, cause, count, log, hbreaks, hrun⟩ |
    ⟨paths, text, rendered, log, hwrites, hrun⟩
  · rw [hrun]
    exact hread
  · rw [hrun]
    refine (holds_set _ hbreaks.place_free).elsewhere.read_eq_ok hplace (fun htext => ?_) hread
    rw [Set.mem_singleton_iff] at htext
    exact huntouched paths hbreaks.paths_eq (Or.inl (htext ▸ hbreaks.place_eq))
  · rw [hrun]
    exact (hwrites.touched hconfined log).1.read_eq_ok hplace (huntouched paths hwrites.paths_eq)
      hread

/-- Beside its source, a build may touch the place of the source only if that is one of the output
paths. -/
theorem not_mem_touchedPlaces {source : String} {options : Options} {tree : FileTree}
    {place : Location} (hplace : tree.locate (.ofText source) = .ok place)
    (hbeside : OutputPaths.chosenText source options.output = source) {paths : OutputPaths}
    (hpaths : OutputPaths.derive source options.output = .ok paths)
    (hwat : paths.wat ≠ .ofText source)
    (hwasm : options.watOnly = true ∨ paths.wasm ≠ .ofText source) :
    place ∉ touchedPlaces options tree paths := by
  obtain ⟨htext, hbinary⟩ := OutputPaths.derive_eq_ok_iff.mp hpaths
  rw [hbeside] at htext hbinary
  rintro (hfound | ⟨hwatOnly, hfound⟩)
  · exact OutputPaths.places_ne_of_withSuffix? htext (by decide) hwat hplace hfound rfl
  · rcases hwasm with hnot | hwasm
    · rw [hwatOnly] at hnot
      cases hnot
    · exact OutputPaths.places_ne_of_withSuffix? hbinary (by decide) hwasm hplace hfound rfl

/-- Where the module text goes, the module is read after the build, or nothing is there. -/
theorem Writes.run_read {tool : Tool} (hconfined : tool.Confined) {source : String}
    {options : Options} {tree : FileTree} {paths : OutputPaths} {path : Path} {place : Location}
    {rendered : String} (h : Writes source options tree paths place rendered)
    (hplace : tree.locate path = .ok place) (hallowed : (tree.refusals place).read = none) :
    (run tool source options tree).tree.read path = .ok (Text.bytesOfText rendered) ∨
      (run tool source options tree).tree.read path = .error (.system .notFound) := by
  obtain ⟨log, hrun⟩ := h.run_eq tool
  obtain ⟨hsame, hnode⟩ := h.touched hconfined log
  rw [← hsame.refusals_eq] at hallowed
  rw [hrun, FileTree.read, hsame.locate_eq_ok hplace]
  rcases hnode with hnode | hnode
  · exact Or.inl (by simp only [hallowed, hnode])
  · exact Or.inr (by simp only [hallowed, hnode])

/-- A source file keeps its bytes if it stands at none of the places that the build may touch; for
a build beside its source this means that the source is none of the output paths. Where the text
goes to the place of the source, the module is left there, or nothing. -/
theorem run_keeps_source {tool : Tool} (hconfined : tool.Confined) (source : String)
    (options : Options) {tree : FileTree} {place : Location} {bytes : List UInt8}
    (hplace : tree.locate (.ofText source) = .ok place)
    (hread : tree.read (.ofText source) = .ok bytes) :
    ((∀ paths, OutputPaths.derive source options.output = .ok paths →
        place ∉ touchedPlaces options tree paths) →
      (run tool source options tree).tree.read (.ofText source) = .ok bytes) ∧
    (OutputPaths.chosenText source options.output = source →
      (∀ paths, OutputPaths.derive source options.output = .ok paths →
        paths.wat ≠ .ofText source ∧ (options.watOnly = true ∨ paths.wasm ≠ .ofText source)) →
      (run tool source options tree).tree.read (.ofText source) = .ok bytes) ∧
    ∀ paths rendered, Writes source options tree paths place rendered →
      (run tool source options tree).tree.read (.ofText source) =
          .ok (Text.bytesOfText rendered) ∨
        (run tool source options tree).tree.read (.ofText source) = .error (.system .notFound) := by
  refine ⟨run_read_of_untouched hconfined hplace hread, fun hbeside hother => ?_,
    fun paths rendered hwrites => hwrites.run_read hconfined hplace ?_⟩
  · refine run_read_of_untouched hconfined hplace hread fun paths hpaths => ?_
    obtain ⟨hwat, hwasm⟩ := hother paths hpaths
    exact not_mem_touchedPlaces hplace hbeside hpaths hwat hwasm
  · obtain ⟨found, hfound, hallowed, -⟩ := FileTree.read_eq_ok_iff.mp hread
    rw [hplace, Except.ok.injEq] at hfound
    rwa [hfound]

/-- A source with another suffix is still there after it was assembled. -/
theorem run_keeps_source_assembled :
    let tool := (Assembler.Script.assembling (some [0, 97, 115, 109]) false).tool
    let tree := directoryOf "p.bf" [0x2B]
    tool.Confined ∧ tree.locate (.ofText "p.bf") = .ok ["work", "p.bf"] ∧
      tree.read (.ofText "p.bf") = .ok [0x2B] ∧
      (∀ paths, OutputPaths.derive "p.bf" none = .ok paths →
        paths.wat ≠ .ofText "p.bf" ∧ (false = true ∨ paths.wasm ≠ .ofText "p.bf")) ∧
      (run tool "p.bf" {} tree).tree.read (.ofText "p.bf") = .ok [0x2B] := by
  intro tool tree
  have hconfined : tool.Confined := (Assembler.Script.tidy_tool rfl).confined
  have hplace : tree.locate (.ofText "p.bf") = .ok ["work", "p.bf"] := by decide
  have hread : tree.read (.ofText "p.bf") = .ok [0x2B] := by decide
  have hother : ∀ paths, OutputPaths.derive "p.bf" none = .ok paths →
      paths.wat ≠ .ofText "p.bf" ∧ (false = true ∨ paths.wasm ≠ .ofText "p.bf") := by
    have hpaths : OutputPaths.derive "p.bf" none =
        .ok ⟨⟨.relative, ["p.wat"]⟩, ⟨.relative, ["p.wasm"]⟩⟩ := by decide
    rintro paths hderive
    rw [hpaths, Except.ok.injEq] at hderive
    subst hderive
    decide
  exact ⟨hconfined, hplace, hread, hother,
    (run_keeps_source hconfined "p.bf" {} hplace hread).2.1 rfl hother⟩

/-- A source that has the suffix of a module text is gone after it was assembled. -/
theorem run_removes_text_source :
    let tool := (Assembler.Script.assembling (some [0, 97, 115, 109]) false).tool
    let tree := directoryOf "p.wat" [0x2B]
    tool.Confined ∧ tree.read (.ofText "p.wat") = .ok [0x2B] ∧
      (run tool "p.wat" {} tree).outcome =
        .ok ⟨⟨.relative, ["p.wat"]⟩, some ⟨.relative, ["p.wasm"]⟩, true⟩ ∧
      (run tool "p.wat" {} tree).tree.read (.ofText "p.wat") = .error (.system .notFound) := by
  refine ⟨(Assembler.Script.tidy_tool rfl).confined, ?_, ?_, ?_⟩ <;> decide

end BrainfuckWasm.Build
