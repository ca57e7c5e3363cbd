import BrainfuckWasm.Proofs.Build.Effect
import BrainfuckWasm.Proofs.Comments
import BrainfuckWasm.Proofs.Decoding

/-!
# The text of a source file

A source file is any bytes. Its symbols are the bytes that are codes of symbols, in their order,
since decoding keeps ASCII apart from everything else. So the file with all other bytes deleted
compiles to the same module, and a build of either does the same up to the assembler. A file that
holds a text is built as that text is compiled.
-/

namespace BrainfuckWasm

open Text

/-- Whether a byte is the code of a symbol. -/
def isSymbolByte (b : UInt8) : Bool :=
  isSymbol (charOfByte b)

/-- Symbols are ASCII. -/
theorem toNat_lt_of_isSymbol {c : Char} (h : isSymbol c = true) : c.toNat < 0x80 := by
  rw [isSymbol] at h
  fun_cases Symbol.ofChar? c
  case case9 => simp_all [Symbol.ofChar?]
  all_goals decide

/-- Codes of symbols are ASCII. -/
theorem toNat_lt_of_isSymbolByte {b : UInt8} (h : isSymbolByte b = true) : b.toNat < 0x80 := by
  rw [← toNat_charOfByte]
  exact toNat_lt_of_isSymbol h

/-- The symbols of decoded bytes are the bytes that are codes of symbols. -/
theorem filter_isSymbol_textOfBytes (bytes : List UInt8) :
    (textOfBytes bytes).toList.filter isSymbol = (bytes.filter isSymbolByte).map charOfByte := by
  rw [textOfBytes, String.toList_ofList, decodeUtf8,
    filter_decodeUtf8After fun _ => toNat_lt_of_isSymbol, List.drop_zero, List.filter_map]
  rfl

/-- With all other bytes deleted, the bytes spell the symbols alone. -/
theorem textOfBytes_filter (bytes : List UInt8) :
    textOfBytes (bytes.filter isSymbolByte) = withoutComments (textOfBytes bytes) := by
  have hascii : ∀ b ∈ bytes.filter isSymbolByte, b.toNat < 0x80 :=
    fun b hb => toNat_lt_of_isSymbolByte (List.mem_filter.mp hb).2
  rw [withoutComments, filter_isSymbol_textOfBytes, textOfBytes, decodeUtf8_of_ascii hascii]

/-- Bytes compile to a module exactly if the codes of symbols among them do. -/
theorem compile_textOfBytes_filter (bytes : List UInt8) (mode : Addressing) (layout : Module.Layout)
    (rendered : String) :
    Module.compile (textOfBytes bytes) mode layout = .ok rendered ↔
      Module.compile (textOfBytes (bytes.filter isSymbolByte)) mode layout = .ok rendered := by
  rw [textOfBytes_filter, Module.compile, Module.compile, Body.compile_eq_mapError]
  cases Body.compile { addressing := mode } (withoutComments (textOfBytes bytes)) with
  | error stop => simp [Except.map, Except.mapError]
  | ok compiled => rfl

namespace Build

open Assembler (Tool)

/-- A build renders the same module for the same place if all bytes of its source are deleted that
are no codes of symbols. -/
theorem renders_filter_iff {source : String} {options : Options} {tree : FileTree}
    {place : Location} {bytes : List UInt8} (hplace : tree.locate (.ofText source) = .ok place)
    (hfile : tree.node? place = some (.file bytes)) (paths : OutputPaths) (text : Location)
    (rendered : String) :
    Renders source options tree paths text rendered ↔
      Renders source options (tree.set place (.file (bytes.filter isSymbolByte))) paths text
        rendered := by
  have hfree : tree.node? place ≠ some .directory := by
    rw [hfile]
    simp
  have hthere := FileTree.sameExcept_set (bytes.filter isSymbolByte) hfree
  have hback := FileTree.set_sameExcept (bytes.filter isSymbolByte) hfree
  have hallowed {other : FileTree} (hsame : tree.SameExcept {place} other)
      (h : Renders source options other paths text rendered) :
      (tree.refusals place).read = none := by
    obtain ⟨found, mode, hread, -⟩ := h.rendered_eq
    obtain ⟨location, hlocation, hallowed, -⟩ := FileTree.read_eq_ok_iff.mp hread
    rw [hsame.locate_eq_ok hplace, Except.ok.injEq] at hlocation
    rwa [← hlocation, hsame.refusals_eq] at hallowed
  have hread (hopen : (tree.refusals place).read = none) : tree.read (.ofText source) = .ok bytes :=
    FileTree.read_eq_ok_iff.mpr ⟨place, hplace, hopen, hfile⟩
  have hbare := FileTree.read_set (bytes.filter isSymbolByte) hplace hfree
  have hcompile (mode : Addressing) := compile_textOfBytes_filter bytes mode {} rendered
  constructor
  · intro h
    have hopen := hallowed (.refl _ _) h
    exact h.transfer hthere hback (hread hopen) (hbare hopen) fun mode => (hcompile mode).mp
  · intro h
    have hopen := hallowed hthere h
    exact h.transfer hback hthere (hbare hopen) (hread hopen) fun mode => (hcompile mode).mpr

/-- Builds in two trees that go alike up to the assembler: neither has anything to write, or both
are broken off in the same module, or both write the same module to the same place and go on from
there. -/
inductive Alike (tool : Tool) (source : String) (options : Options) (first second : FileTree) :
    Prop where
  | stopped {firstError secondError : Error} {firstLog secondLog : List LogEntry}
      (hfirst : run tool source options first = ⟨.error firstError, firstLog, [], first⟩)
      (hsecond : run tool source options second = ⟨.error secondError, secondLog, [], second⟩)
  | brokenOff {paths : OutputPaths} {place : Location} {rendered : String} {cause : SystemError}
      {count : Nat} {firstLog secondLog : List LogEntry}
      (hbreaks : BreaksOff source options first paths place rendered cause count)
      (hfirst : run tool source options first =
        ⟨.error (.unwritable paths.wat cause), firstLog, [],
          withBeginning first place rendered count⟩)
      (hsecond : run tool source options second =
        ⟨.error (.unwritable paths.wat cause), secondLog, [],
          withBeginning second place rendered count⟩)
  | written {paths : OutputPaths} {place : Location} {rendered : String}
      {firstLog secondLog : List LogEntry}
      (hwrites : Writes source options first paths place rendered)
      (hfirst : run tool source options first =
        finish tool options paths firstLog (withText first place rendered))
      (hsecond : run tool source options second =
        finish tool options paths secondLog (withText second place rendered))

section

variable {source : String} {options : Options} {first second : FileTree} {paths : OutputPaths}
  {place : Location} {rendered : String}

/-- Builds that are broken off in the same module go alike. -/
theorem BreaksOff.alike {cause : SystemError} {count : Nat}
    (hfirst : BreaksOff source options first paths place rendered cause count)
    (hsecond : BreaksOff source options second paths place rendered cause count) (tool : Tool) :
    Alike tool source options first second := by
  obtain ⟨firstLog, hfirstRun⟩ := hfirst.run_eq tool
  obtain ⟨secondLog, hsecondRun⟩ := hsecond.run_eq tool
  exact .brokenOff hfirst hfirstRun hsecondRun

/-- Builds that write the same module go alike. -/
theorem Writes.alike (hfirst : Writes source options first paths place rendered)
    (hsecond : Writes source options second paths place rendered) (tool : Tool) :
    Alike tool source options first second := by
  obtain ⟨firstLog, hfirstRun⟩ := hfirst.run_eq tool
  obtain ⟨secondLog, hsecondRun⟩ := hsecond.run_eq tool
  exact .written hfirst hfirstRun hsecondRun

end

/-- Builds go alike if they render the same and the system refuses the same. -/
theorem alike_of_renders_iff (tool : Tool) {source : String} {options : Options}
    {first second : FileTree} (hrefusals : second.refusals = first.refusals)
    (h : ∀ paths place rendered, Renders source options first paths place rendered ↔
      Renders source options second paths place rendered) :
    Alike tool source options first second := by
  rcases run_cases tool source options first with
    ⟨firstError, firstLog, -, hfirst⟩ | ⟨paths, place, rendered, cause, count, -, hbreaks, -⟩ |
    ⟨paths, place, rendered, -, hwrites, -⟩
  · rcases run_cases tool source options second with
      ⟨secondError, secondLog, -, hsecond⟩ |
      ⟨paths, place, rendered, cause, count, -, hbreaks, -⟩ |
      ⟨paths, place, rendered, -, hwrites, -⟩
    · exact .stopped hfirst hsecond
    · have hother : BreaksOff source options first paths place rendered cause count :=
        ⟨(h _ _ _).mpr hbreaks.toRenders, hrefusals ▸ hbreaks.brokenOff⟩
      exact hother.alike hbreaks tool
    · have hother : Writes source options first paths place rendered :=
        ⟨(h _ _ _).mpr hwrites.toRenders, hrefusals ▸ hwrites.unhindered⟩
      exact hother.alike hwrites tool
  · exact hbreaks.alike ⟨(h _ _ _).mp hbreaks.toRenders, hrefusals ▸ hbreaks.brokenOff⟩ tool
  · exact hwrites.alike ⟨(h _ _ _).mp hwrites.toRenders, hrefusals ▸ hwrites.unhindered⟩ tool

/-- Where builds go alike and are to stop at the text, one succeeds exactly if the other does. -/
theorem Alike.outcome_iff {tool : Tool} {source : String} {options : Options}
    {first second : FileTree} (h : Alike tool source options first second)
    (hwatOnly : options.watOnly = true) (product : Product) :
    (run tool source options first).outcome = .ok product ↔
      (run tool source options second).outcome = .ok product := by
  cases h with
  | stopped hfirst hsecond => simp [hfirst, hsecond]
  | brokenOff hbreaks hfirst hsecond => simp [hfirst, hsecond]
  | written hwrites hfirst hsecond =>
    rw [hfirst, hsecond, finish, finish, if_pos hwatOnly, if_pos hwatOnly]

/-- What a build does with a source file that holds a text, if its output paths are known. It fails
as the text does and leaves everything as it was. Or it goes on with the module of the text, which
then stands where its path leads, and is done if it is to stop there. -/
structure BuildsText (tool : Tool) (source : String) (options : Options) (tree : FileTree)
    (paths : OutputPaths) (text : String) : Prop where
  refused : ∀ error, Module.compileOffered text options.addressing = .error error →
    ∃ log, run tool source options tree = ⟨.error (.module error), log, [], tree⟩
  written : ∀ rendered left, Module.compileOffered text options.addressing = .ok rendered →
    tree.write paths.wat (bytesOfText rendered) = .ok left →
    (∃ place, tree.locate paths.wat = .ok place ∧
        Holds tree left place (bytesOfText rendered) ∧
        ((tree.refusals place).read = none →
          left.read paths.wat = .ok (bytesOfText rendered))) ∧
      (∃ log, run tool source options tree = finish tool options paths log left) ∧
      (options.watOnly = true →
        (run tool source options tree).outcome = .ok ⟨paths.wat, none, false⟩ ∧
          (run tool source options tree).tree = left)

/-- A source file that holds a text is built as the text is compiled. -/
theorem buildsText_of_read (tool : Tool) {source : String} {options : Options} {tree : FileTree}
    {paths : OutputPaths} {text : String}
    (hread : tree.read (.ofText source) = .ok (bytesOfText text))
    (hpaths : OutputPaths.derive source options.output = .ok paths) :
    BuildsText tool source options tree paths text := by
  constructor
  · intro error hcompile
    rw [← textOfBytes_bytesOfText text] at hcompile
    exact (Stops.uncompiled hpaths hread hcompile).run_eq tool
  · intro rendered left hcompile hwrite
    have hrun : ∃ log, run tool source options tree = finish tool options paths log left := by
      rw [run]
      simp only [hpaths, hread, textOfBytes_bytesOfText, hcompile, hwrite]
      exact ⟨_, rfl⟩
    obtain ⟨place, hplace, hfree, -, rfl⟩ := FileTree.write_eq_ok_iff.mp hwrite
    refine ⟨⟨place, hplace, holds_set _ hfree, FileTree.read_set _ hplace hfree⟩, hrun,
      fun hwatOnly => ?_⟩
    obtain ⟨log, hfinish⟩ := hrun
    rw [hfinish, finish, if_pos hwatOnly]
    exact ⟨rfl, rfl⟩

/-- Reading a source file neither loses nor invents symbols. Whatever its bytes, the symbols that
are read are the bytes which are codes of symbols, in order; so with all other bytes deleted it
compiles to the same module, if to any, and is built alike. A text is read from its own bytes, so a
file that holds them is built as the text is compiled. -/
theorem run_source_symbols :
    (∀ bytes : List UInt8,
      (textOfBytes bytes).toList.filter isSymbol = (bytes.filter isSymbolByte).map charOfByte ∧
      (∀ mode layout rendered, Module.compile (textOfBytes bytes) mode layout = .ok rendered ↔
        Module.compile (textOfBytes (bytes.filter isSymbolByte)) mode layout = .ok rendered) ∧
      ∀ tool source options tree place, tree.locate (.ofText source) = .ok place →
        tree.node? place = some (.file bytes) →
        let bare := tree.set place (.file (bytes.filter isSymbolByte))
        Alike tool source options tree bare ∧
          (options.watOnly = true → ∀ product,
            (run tool source options tree).outcome = .ok product ↔
              (run tool source options bare).outcome = .ok product)) ∧
    ∀ text : String, textOfBytes (bytesOfText text) = text ∧
      ∀ tool source options tree paths, tree.read (.ofText source) = .ok (bytesOfText text) →
        OutputPaths.derive source options.output = .ok paths →
        BuildsText tool source options tree paths text := by
  constructor
  · intro bytes
    refine ⟨filter_isSymbol_textOfBytes bytes, compile_textOfBytes_filter bytes, ?_⟩
    intro tool source options tree place hplace hfile bare
    have halike : Alike tool source options tree bare :=
      alike_of_renders_iff tool rfl (renders_filter_iff hplace hfile)
    exact ⟨halike, halike.outcome_iff⟩
  · intro text
    refine ⟨textOfBytes_bytesOfText text, ?_⟩
    intro tool source options tree paths hread hpaths
    exact buildsText_of_read tool hread hpaths

/-- Two sequences that break off and a byte that starts none stand around the symbols of one file,
and a letter beyond ASCII before that of another. -/
theorem run_source_symbols_broken :
    let bytes : List UInt8 := [0xE2, 0x82, 0x2B, 0xFF, 0xF0, 0x9F, 0x98, 0x2E]
    let tool := (Assembler.Script.assembling none false).tool
    let tree := directoryOf "p.bf" bytes
    let lettered := directoryOf "p.bf" (bytesOfText "é+")
    let paths : OutputPaths := ⟨⟨.relative, ["p.wat"]⟩, ⟨.relative, ["p.wasm"]⟩⟩
    textOfBytes bytes = "\uFFFD+\uFFFD\uFFFD." ∧ bytes.filter isSymbolByte = [0x2B, 0x2E] ∧
      tree.locate (.ofText "p.bf") = .ok ["work", "p.bf"] ∧
      tree.node? ["work", "p.bf"] = some (.file bytes) ∧
      Alike tool "p.bf" {} tree (tree.set ["work", "p.bf"] (.file [0x2B, 0x2E])) ∧
      lettered.read (.ofText "p.bf") = .ok (bytesOfText "é+") ∧
      OutputPaths.derive "p.bf" none = .ok paths ∧
      BuildsText tool "p.bf" {} lettered paths "é+" := by
  intro bytes tool tree lettered paths
  have hplace : tree.locate (.ofText "p.bf") = .ok ["work", "p.bf"] := by decide
  have hfile : tree.node? ["work", "p.bf"] = some (.file bytes) := by decide
  have hread : lettered.read (.ofText "p.bf") = .ok (bytesOfText "é+") := by decide
  have hpaths : OutputPaths.derive "p.bf" none = .ok paths := by decide
  exact ⟨by decide, by decide, hplace, hfile,
    ((run_source_symbols.1 bytes).2.2 tool "p.bf" {} tree _ hplace hfile).1, hread, hpaths,
    (run_source_symbols.2 "é+").2 tool "p.bf" {} lettered paths hread hpaths⟩

end Build

end BrainfuckWasm
