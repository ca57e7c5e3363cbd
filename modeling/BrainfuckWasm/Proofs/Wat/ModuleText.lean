import Mathlib.Data.List.Nodup
import BrainfuckWasm.Module
import BrainfuckWasm.Proofs.Wat.Validation

/-!
# What a compiled module says

A module is one expression: its imports, its global if there is one, its export and its function.
What it declares is read field by field, and a module is well formed if all that its functions
mention is declared in it and their bodies pass the checks on sequences. Every compiled module is
well formed, whatever its names are, as long as they can be written as literals.
-/

namespace BrainfuckWasm

namespace Wat

/-- A function of a module. -/
structure Function where
  name : String
  locals : List String
  body : Sequence
  deriving DecidableEq, Repr

/-- What a module declares. -/
structure Contents where
  /-- The sizes of its imported memories. -/
  memories : List Nat := []
  /-- The names and signatures of its imported functions. -/
  imports : List (String × Signature) := []
  /-- The names of its global variables. -/
  globals : List String := []
  /-- The names of its exported functions. -/
  exports : List String := []
  /-- The functions that it defines. -/
  functions : List Function := []
  deriving DecidableEq, Repr

namespace Row

/-- The number of results that a row declares. -/
def results? : Row → Option Nat
  | done => some 0
  | group (atom (.keyword .result) (atom (.keyword .word32) done)) rest => rest.results?.map (· + 1)
  | _ => none

/-- The signature that a row declares, parameters first. -/
def signature? : Row → Option Signature
  | group (atom (.keyword .parameter) (atom (.keyword .word32) done)) rest =>
    rest.signature?.map fun signature => { signature with parameters := signature.parameters + 1 }
  | row => row.results?.map fun results => ⟨0, results⟩

/-- A named function: its local variables and then its instructions. -/
def function? (name : String) : Row → Option Function
  | group (atom (.keyword (.declare .localVariable))
      (atom (.name variableName) (atom (.keyword .word32) done))) rest =>
    (rest.function? name).map fun inner => { inner with locals := variableName :: inner.locals }
  | row => row.sequence?.map fun body => ⟨name, [], body⟩

end Row

namespace Contents

/-- Declarations with an imported item before them. -/
def import? (contents : Contents) : Row → Option Contents
  | .atom (.keyword .memory) (.atom (.number pages) .done) =>
    some { contents with memories := pages :: contents.memories }
  | .atom (.keyword .function) (.atom (.name name) type) =>
    type.signature?.map fun signature =>
      { contents with imports := (name, signature) :: contents.imports }
  | _ => none

/-- Declarations with a field before them. -/
def field? (contents : Contents) : Row → Option Contents
  | .atom (.keyword .hostImport) (.atom (.literal _) (.atom (.literal _) (.group item .done))) =>
    contents.import? item
  | .atom (.keyword (.declare .globalVariable)) (.atom (.name name)
      (.group (.atom (.keyword .mutable) (.atom (.keyword .word32) .done))
        (.group (.atom (.keyword .constant) (.atom (.number _) .done)) .done))) =>
    some { contents with globals := name :: contents.globals }
  | .atom (.keyword .hostExport) (.atom (.literal _)
      (.group (.atom (.keyword .function) (.atom (.name name) .done)) .done)) =>
    some { contents with exports := name :: contents.exports }
  | .atom (.keyword .function) (.atom (.name name) definition) =>
    (definition.function? name).map fun function =>
      { contents with functions := function :: contents.functions }
  | _ => none

/-- What a row of fields declares. -/
def ofFields? : Row → Option Contents
  | .done => some {}
  | .group field rest => (ofFields? rest).bind fun contents => contents.field? field
  | .atom _ _ => none

/-- The kinds of variables that are declared under a name for a function of the module. -/
def kindsOf (contents : Contents) (function : Function) (name : String) : List Addressing :=
  ((function.locals.filter (· = name)).map fun _ => .localVariable) ++
    (contents.globals.filter (· = name)).map fun _ => .globalVariable

/-- What is required of a module. -/
structure WellFormed (contents : Contents) : Prop where
  /-- No two blocks or loops have the same label. -/
  labels_nodup : (contents.functions.flatMap fun function => function.body.labels).Nodup
  /-- Every branch goes to the label of a block or a loop around it. -/
  branches_within : ∀ function ∈ contents.functions, function.body.BranchesWithin []
  /-- Every call is of a declared import. -/
  calls_declared : ∀ function ∈ contents.functions, ∀ name,
    .call name ∈ function.body.operations → name ∈ contents.imports.map Prod.fst
  /-- Every access is to the pointer and of the one kind that is declared for it. -/
  accesses_declared : ∀ function ∈ contents.functions, ∀ kind name,
    .get kind name ∈ function.body.operations ∨ .set kind name ∈ function.body.operations →
      name = "$ptr" ∧ contents.kindsOf function name = [kind]
  /-- Every body starts and ends with an empty stack and never takes a value from one. -/
  stack_empty : ∀ function ∈ contents.functions,
    function.body.height (fun name => contents.imports.lookup name) 0 = some 0

end Contents

/-- A row that is a sequence of instructions declares no local variables. -/
theorem Row.function?_eq {row : Row} {body : Sequence} (h : row.sequence? = some body)
    (name : String) : row.function? name = some ⟨name, [], body⟩ := by
  unfold function?
  split
  · simp [sequence?, Keyword.labelled?, Keyword.operation?] at h
  · rw [h, Option.map_some]

end Wat

open Wat Body

namespace Module

/-- The names that are spliced into a module. -/
def Layout.names (layout : Layout) : List String :=
  [layout.memoryModule, layout.memoryField, layout.ioModule, layout.putCharField,
    layout.getCharField, layout.exportName]

/-- All names can be written as literals: they have neither quotes nor backslashes nor control
characters. -/
def Layout.Plain (layout : Layout) : Prop :=
  ∀ text ∈ layout.names, ∀ c ∈ text.toList, isLiteralChar c = true

instance (layout : Layout) : Decidable layout.Plain :=
  decidable_of_iff ((layout.names.all fun text => text.toList.all isLiteralChar) = true)
    (by simp only [List.all_eq_true, Layout.Plain])

/-- The expression that imports an item, before a row. -/
def importRow (group field : String) (item next : Row) : Row :=
  .group (.atom (.keyword .hostImport) (.atom (.literal group) (.atom (.literal field)
    (.group item .done)))) next

/-- The characters of a line that imports an item, cut where its names end. -/
theorem toList_importLine (group field what : String) :
    (importLine group field what).toList = " (import \"".toList ++
      (group.toList ++ '"' :: (" \"".toList ++ (field.toList ++ '"' :: (" ".toList ++
        (what.toList ++ ")".toList))))) := by
  unfold importLine
  simp

/-- The tokens of a line that imports an item. -/
theorem lexes_importLine {group field what : String} {item : Row}
    (hgroup : ∀ c ∈ group.toList, isLiteralChar c = true)
    (hfield : ∀ c ∈ field.toList, isLiteralChar c = true)
    (hwhat : Lexes what (Row.group item .done).tokens) :
    Lexes (importLine group field what) (importRow group field item .done).tokens := by
  have himport : Lexing.between.Reads " (import \"".toList
      [.opening, .atom (.keyword .hostImport)] (.literal []) := by decide
  have hnext : Lexing.afterLiteral.Reads " \"".toList [] (.literal []) := by decide
  have hblank : Lexing.afterLiteral.Reads " ".toList [] .between := by decide
  have hclosing : Lexing.between.Reads ")".toList [.closing] .between := by decide
  rw [Lexes, toList_importLine]
  have hitem := Lexing.Reads.append hwhat hclosing
  exact himport.append (Lexing.Reads.literal_quote group hgroup
    (hnext.append (Lexing.Reads.literal_quote field hfield (hblank.append hitem))))

/-- The row of the exported name, before a row. -/
def exportRow (name : String) (next : Row) : Row :=
  .group (.atom (.keyword .hostExport) (.atom (.literal name)
    (.group (.atom (.keyword .function) (.atom (.name "$runBrainfuck") .done)) .done))) next

/-- The tokens of the line that exports the function. -/
theorem lexes_exportLine {name : String} (h : ∀ c ∈ name.toList, isLiteralChar c = true) :
    Lexes (" (export \"" ++ name ++ "\" (func $runBrainfuck))") (exportRow name .done).tokens := by
  have hexport : Lexing.between.Reads " (export \"".toList
      [.opening, .atom (.keyword .hostExport)] (.literal []) := by decide
  have hfunction : Lexing.afterLiteral.Reads " (func $runBrainfuck))".toList
      [.opening, .atom (.keyword .function), .atom (.name "$runBrainfuck"), .closing, .closing]
      .between := by decide
  have hlist : (" (export \"" ++ name ++ "\" (func $runBrainfuck))").toList =
      " (export \"".toList ++ (name.toList ++ '"' :: " (func $runBrainfuck))".toList) := by
    simp [String.toList_append]
  rw [Lexes, hlist]
  exact hexport.append (Lexing.Reads.literal_quote name h hfunction)

/-- Where the pointer is declared as a global variable, before a row. -/
def globalRow (mode : Addressing) (next : Row) : Row :=
  match mode with
  | .globalVariable =>
    .group (.atom (.keyword (.declare .globalVariable)) (.atom (.name "$ptr")
      (.group (.atom (.keyword .mutable) (.atom (.keyword .word32) .done)) (constRow 0 .done)))) next
  | .localVariable => next

/-- Where the pointer is declared as a local variable, before a body. -/
def localRow (mode : Addressing) (body : Row) : Row :=
  match mode with
  | .globalVariable => body
  | .localVariable =>
    .group (.atom (.keyword (.declare .localVariable))
      (.atom (.name "$ptr") (.atom (.keyword .word32) .done))) body

/-- A memory of some size, as an item to import. -/
def memoryItem (pages : Nat) : Row :=
  .atom (.keyword .memory) (.atom (.number pages) .done)

/-- The function that puts a character, as an item to import. -/
def putItem : Row :=
  .atom (.keyword .function) (.atom (.name "$putChar")
    (.group (.atom (.keyword .parameter) (.atom (.keyword .word32) .done)) .done))

/-- The function that gets a character, as an item to import. -/
def getItem : Row :=
  .atom (.keyword .function) (.atom (.name "$getChar")
    (.group (.atom (.keyword .result) (.atom (.keyword .word32) .done)) .done))

/-- The fields of a module with a given size of its memory around a body. -/
def fieldsRow (mode : Addressing) (layout : Layout) (pages : Nat) (body : Row) : Row :=
  importRow layout.memoryModule layout.memoryField (memoryItem pages)
    (importRow layout.ioModule layout.putCharField putItem
      (importRow layout.ioModule layout.getCharField getItem
        (globalRow mode
          (exportRow layout.exportName
            (.group (.atom (.keyword .function) (.atom (.name "$runBrainfuck")
              (localRow mode body))) .done)))))

/-- A line and then further lines. -/
theorem lexes_lines_cons {line : String} {rest : List String} {first second : List Token}
    (hline : Lexes (line ++ "\n") first)
    (hrest : Lexes (String.join (rest.map (· ++ "\n"))) second) :
    Lexes (String.join ((line :: rest).map (· ++ "\n"))) (first ++ second) := by
  rw [List.map_cons, String.join_cons]
  exact hline.append hrest

/-- The tokens of the lines before the declaration of the pointer. -/
theorem lexes_imports {layout : Layout} (hplain : layout.Plain) {pages : Nat}
    (hpages : layout.memoryPages = pages) {rest : List String} {tokens : List Token}
    (hrest : Lexes (String.join (rest.map (· ++ "\n"))) tokens) :
    Lexes (String.join (("(module" ::
      importLine layout.memoryModule layout.memoryField
        ("(memory " ++ toString layout.memoryPages ++ ")") ::
      importLine layout.ioModule layout.putCharField "(func $putChar (param i32))" ::
      importLine layout.ioModule layout.getCharField "(func $getChar (result i32))" ::
      rest).map (· ++ "\n")))
      (.opening :: .atom (.keyword .wholeModule) ::
        ((importRow layout.memoryModule layout.memoryField (memoryItem pages) .done).tokens ++
        ((importRow layout.ioModule layout.putCharField putItem .done).tokens ++
        ((importRow layout.ioModule layout.getCharField getItem .done).tokens ++ tokens)))) := by
  have hmodule : Lexes ("(module" ++ "\n") [.opening, .atom (.keyword .wholeModule)] := by decide
  have hmemory : Lexes ("(memory " ++ toString layout.memoryPages ++ ")")
      (Row.group (memoryItem pages) .done).tokens := by
    have hkeyword : Lexes "(memory " [.opening, .atom (.keyword .memory)] := by decide
    have htext : toString layout.memoryPages = toString pages := by
      rw [hpages]
      rfl
    rw [htext, String.append_assoc]
    exact hkeyword.append (lexes_number pages)
  have hput : Lexes "(func $putChar (param i32))" (Row.group putItem .done).tokens := by decide
  have hget : Lexes "(func $getChar (result i32))" (Row.group getItem .done).tokens := by decide
  have hnames : layout.names = [layout.memoryModule, layout.memoryField, layout.ioModule,
    layout.putCharField, layout.getCharField, layout.exportName] := rfl
  exact lexes_lines_cons hmodule
    (lexes_lines_cons (lexes_importLine (hplain _ (by simp [hnames])) (hplain _ (by simp [hnames]))
      hmemory).line
    (lexes_lines_cons (lexes_importLine (hplain _ (by simp [hnames])) (hplain _ (by simp [hnames]))
      hput).line
    (lexes_lines_cons (lexes_importLine (hplain _ (by simp [hnames])) (hplain _ (by simp [hnames]))
      hget).line hrest)))

/-- The tokens of a module. -/
theorem lexes_render {layout : Layout} (hplain : layout.Plain) {pages : Nat}
    (hpages : layout.memoryPages = pages) (mode : Addressing) {body : String} {row : Row}
    (hbody : Lexes body row.tokens) :
    Lexes (render body mode layout)
      (Row.group (.atom (.keyword .wholeModule) (fieldsRow mode layout pages row)) .done).tokens := by
  have hempty : Lexes ("" ++ "\n") [] := by decide
  have hexport := (lexes_exportLine (hplain layout.exportName (by simp [Layout.names]))).line
  have hend : Lexes " )\n)\n" [.closing, .closing] := by decide
  have hnone : Lexes (String.join (([] : List String).map (· ++ "\n"))) [] := by decide
  cases mode with
  | globalVariable =>
    have hglobal : Lexes " (global $ptr (mut i32) (i32.const 0))"
      (globalRow .globalVariable .done).tokens := by decide
    have hfunction : Lexes (" (func $runBrainfuck" ++ "\n")
      [.opening, .atom (.keyword .function), .atom (.name "$runBrainfuck")] := by decide
    have hheader := lexes_imports hplain hpages (lexes_lines_cons hglobal.line
      (lexes_lines_cons hempty (lexes_lines_cons hexport (lexes_lines_cons hfunction hnone))))
    have hmodule := (hheader.append hbody).append hend
    simp only [fieldsRow, importRow, globalRow, exportRow, localRow, Row.tokens, List.append_assoc,
      List.cons_append, List.nil_append] at hmodule ⊢
    exact hmodule
  | localVariable =>
    have hfunction : Lexes (" (func $runBrainfuck (local $ptr i32)" ++ "\n")
      [.opening, .atom (.keyword .function), .atom (.name "$runBrainfuck"), .opening,
        .atom (.keyword (.declare .localVariable)), .atom (.name "$ptr"), .atom (.keyword .word32),
        .closing] := by decide
    have hheader := lexes_imports hplain hpages
      (lexes_lines_cons hempty (lexes_lines_cons hexport (lexes_lines_cons hfunction hnone)))
    have hmodule := (hheader.append hbody).append hend
    simp only [fieldsRow, importRow, globalRow, exportRow, localRow, Row.tokens, List.append_assoc,
      List.cons_append, List.nil_append] at hmodule ⊢
    exact hmodule

/-- The variables that a function of the mode declares for itself. -/
def localsOf : Addressing → List String
  | .localVariable => ["$ptr"]
  | .globalVariable => []

/-- The global variables of a module of the mode. -/
def globalsOf : Addressing → List String
  | .localVariable => []
  | .globalVariable => ["$ptr"]

/-- What a module around a body declares. -/
def contentsOf (mode : Addressing) (pages : Nat) (body : Sequence) : Contents where
  memories := [pages]
  imports := [("$putChar", ⟨1, 0⟩), ("$getChar", ⟨0, 1⟩)]
  globals := globalsOf mode
  exports := ["$runBrainfuck"]
  functions := [⟨"$runBrainfuck", localsOf mode, body⟩]

/-- The fields of a module are read as what they declare. -/
theorem ofFields?_fieldsRow (mode : Addressing) (layout : Layout) (pages : Nat) {row : Row}
    {body : Sequence} (h : row.sequence? = some body) :
    Contents.ofFields? (fieldsRow mode layout pages row) = some (contentsOf mode pages body) := by
  have hfunction := Row.function?_eq h "$runBrainfuck"
  cases mode with
  | localVariable =>
    simp [fieldsRow, importRow, globalRow, exportRow, localRow, memoryItem, putItem, getItem,
      Contents.ofFields?, Contents.field?, Contents.import?, Row.signature?, Row.results?,
      Row.function?, hfunction, contentsOf, localsOf, globalsOf]
  | globalVariable =>
    simp [fieldsRow, importRow, globalRow, exportRow, localRow, memoryItem, putItem, getItem,
      Contents.ofFields?, Contents.field?, Contents.import?, Row.signature?, Row.results?,
      hfunction, contentsOf, localsOf, globalsOf, constRow]

/-- The one declaration of the pointer is of the mode. -/
theorem kindsOf_contentsOf (mode : Addressing) (pages : Nat) (body : Sequence) :
    (contentsOf mode pages body).kindsOf ⟨"$runBrainfuck", localsOf mode, body⟩ "$ptr" = [mode] := by
  cases mode <;> rfl

/-- A module around fused code is well formed. -/
theorem wellFormed_contentsOf (mode : Addressing) (pages : Nat) (code : Code) :
    (contentsOf mode pages (code.sequence mode 0 .done)).WellFormed := by
  have hnone : ∀ operation ∈ Sequence.done.operations, Code.Fits mode operation := by
    simp [Sequence.operations]
  have hfits := code.fits_sequence mode 0 hnone
  refine ⟨?_, ?_, ?_, ?_, ?_⟩
  · have hlabels : (code.sequence mode 0 .done).labels.Nodup := by
      rw [Code.labels_sequence, Sequence.labels, List.append_nil]
      exact List.Nodup.map Code.labelText_injective List.nodup_range'
    simpa [contentsOf] using hlabels
  · have hbranches : Sequence.done.BranchesWithin [] := trivial
    simpa [contentsOf] using code.branchesWithin_sequence mode 0 hbranches
  · intro function hfunction name hname
    rw [List.mem_singleton.mp hfunction] at hname
    simpa [contentsOf, Code.Fits] using hfits _ hname
  · intro function hfunction kind name haccess
    rw [List.mem_singleton.mp hfunction] at haccess ⊢
    have hfit : kind = mode ∧ name = "$ptr" := by
      rcases haccess with hget | hset
      · exact hfits _ hget
      · exact hfits _ hset
    obtain ⟨rfl, rfl⟩ := hfit
    exact ⟨rfl, kindsOf_contentsOf kind pages _⟩
  · intro function hfunction
    rw [List.mem_singleton.mp hfunction]
    exact code.height_sequence mode rfl rfl 0 .done 0

/-- Every compiled module whose names can be written as literals is one expression, which declares
one function and exports it, and is well formed. -/
theorem compile_wellFormed {source : String} {mode : Addressing} {layout : Layout} {text : String}
    (hplain : layout.Plain) (hpages : 0 ≤ layout.memoryPages)
    (h : compile source mode layout = .ok text) :
    ∃ tokens fields contents function,
      tokens? text = some tokens ∧
      Row.ofTokens? tokens = some (.group (.atom (.keyword .wholeModule) fields) .done) ∧
      Contents.ofFields? fields = some contents ∧
      contents.functions = [function] ∧ contents.exports = [function.name] ∧
      contents.WellFormed := by
  cases hbody : Body.compile { addressing := mode } source with
  | error stop =>
    rw [compile, hbody] at h
    cases h
  | ok compiled =>
    rw [compile, hbody] at h
    cases h
    obtain ⟨pages, hpages⟩ := Int.eq_ofNat_of_zero_le hpages
    obtain ⟨program, hprogram⟩ := TapeProgram.exists_of_balanced (balanced_of_compile hbody)
    have hlexes := lexes_render hplain hpages mode (lexes_compile hbody hprogram)
    have hsequence := (program.fuse 0 0).sequence?_row mode 0 Row.sequence?_done
    exact ⟨_, _, _, _, hlexes.tokens?_eq, Row.ofTokens?_eq_some_iff.mpr rfl,
      ofFields?_fieldsRow mode layout pages hsequence, rfl, rfl,
      wellFormed_contentsOf mode pages (program.fuse 0 0)⟩

/-- The module of nested loops, with a parenthesis in one of its names. -/
theorem compile_wellFormed_nested :
    Layout.Plain { exportName := "run (main)" } ∧
      ∃ text, compile "[>[-],.]" .globalVariable { exportName := "run (main)" } = .ok text ∧
        ∃ tokens fields contents function,
          tokens? text = some tokens ∧
          Row.ofTokens? tokens = some (.group (.atom (.keyword .wholeModule) fields) .done) ∧
          Contents.ofFields? fields = some contents ∧
          contents.functions = [function] ∧ contents.exports = [function.name] ∧
          contents.WellFormed := by
  have hplain : Layout.Plain { exportName := "run (main)" } := by decide
  have hcompile : compile "[>[-],.]" .globalVariable { exportName := "run (main)" } = .ok _ := rfl
  exact ⟨hplain, _, hcompile, compile_wellFormed hplain (by decide) hcompile⟩

end Module

end BrainfuckWasm
