import BrainfuckWasm.Proofs.Numeral
import BrainfuckWasm.Proofs.Wat.ModuleText

/-!
# A module as a form with blanks

A rendered module is a form: fixed texts, and between them blanks for the names and the number of
pages. No entry holds the character that ends it, so what was entered can be told from the filled
form, even where a name holds what looks like the text after it. The body is what is left between
the form and the fixed end.
-/

namespace BrainfuckWasm.Module

open Body (toDigits_inj)
open Text (toList_toString_int)

/-- A piece of a form: a fixed text, or a blank with the character that ends its entry. -/
inductive Piece where
  | text (fixed : String)
  | blank (stop : Char)

/-- A form with its blanks filled in, before some other text. -/
def fill : List Piece → List (List Char) → List Char → List Char
  | .text fixed :: form, entries, rest => fixed.toList ++ fill form entries rest
  | .blank stop :: form, entry :: entries, rest => entry ++ stop :: fill form entries rest
  | _, _, rest => rest

/-- There is an entry for each blank, and no entry holds the character that ends it. -/
inductive Fits : List Piece → List (List Char) → Prop
  | done : Fits [] []
  | text {fixed : String} {form : List Piece} {entries : List (List Char)}
      (rest : Fits form entries) : Fits (.text fixed :: form) entries
  | blank {stop : Char} {entry : List Char} {form : List Piece} {entries : List (List Char)}
      (stops : stop ∉ entry) (rest : Fits form entries) :
      Fits (.blank stop :: form) (entry :: entries)

/-- An entry ends where its stop first occurs. -/
theorem eq_of_append_stop_eq {stop : Char} {entry other rest otherRest : List Char}
    (h : stop ∉ entry) (hother : stop ∉ other)
    (heq : entry ++ stop :: rest = other ++ stop :: otherRest) :
    entry = other ∧ rest = otherRest := by
  induction entry generalizing other with
  | nil =>
    cases other with
    | nil => exact ⟨rfl, (List.cons.inj heq).2⟩
    | cons c other =>
      obtain ⟨rfl, -⟩ := List.cons.inj heq
      exact absurd List.mem_cons_self hother
  | cons c entry ih =>
    cases other with
    | nil =>
      obtain ⟨rfl, -⟩ := List.cons.inj heq
      exact absurd List.mem_cons_self h
    | cons d other =>
      rw [List.mem_cons, not_or] at h hother
      obtain ⟨rfl, htail⟩ := List.cons.inj heq
      obtain ⟨rfl, hrest⟩ := ih h.2 hother.2 htail
      exact ⟨rfl, hrest⟩

/-- A filled form determines its entries and the text after it. -/
theorem Fits.fill_inj {form : List Piece} {entries others : List (List Char)}
    {rest otherRest : List Char} (h : Fits form entries) (hother : Fits form others)
    (heq : fill form entries rest = fill form others otherRest) :
    entries = others ∧ rest = otherRest := by
  induction h generalizing others with
  | done =>
    cases hother
    exact ⟨rfl, heq⟩
  | text _ ih =>
    cases hother with
    | text hothers =>
      rw [fill, fill] at heq
      exact ih hothers (List.append_cancel_left heq)
  | blank hentry _ ih =>
    cases hother with
    | blank hotherEntry hothers =>
      rw [fill, fill] at heq
      obtain ⟨rfl, hfilled⟩ := eq_of_append_stop_eq hentry hotherEntry heq
      obtain ⟨rfl, hrest⟩ := ih hothers hfilled
      exact ⟨rfl, hrest⟩

/-- Entries that fit two forms fit one after the other. -/
theorem Fits.append {form next : List Piece} {entries others : List (List Char)}
    (h : Fits form entries) (hnext : Fits next others) :
    Fits (form ++ next) (entries ++ others) := by
  induction h with
  | done => exact hnext
  | text _ ih => exact .text ih
  | blank hentry _ ih => exact .blank hentry ih

/-- The line that imports something, with blanks for its two names. -/
def importPieces (what : List Piece) : List Piece :=
  .text " (import \"" :: .blank '"' :: .text " \"" :: .blank '"' :: .text " " ::
    (what ++ [Piece.text ")", Piece.text "\n"])

/-- The module up to its last import. -/
def importForm : List Piece :=
  .text "(module" :: .text "\n" ::
    (importPieces [.text "(memory ", .blank ')'] ++
      importPieces [.text "(func $putChar (param i32))"] ++
      importPieces [.text "(func $getChar (result i32))"])

/-- The declaration of the pointer before the function. -/
def globalPieces : Addressing → List Piece
  | .globalVariable => [.text " (global $ptr (mut i32) (i32.const 0))", .text "\n"]
  | .localVariable => []

/-- The start of the function, with the declaration of the pointer in it. -/
def functionStart : Addressing → String
  | .globalVariable => " (func $runBrainfuck"
  | .localVariable => " (func $runBrainfuck (local $ptr i32)"

/-- The lines from the last import to the body. -/
def exportForm (mode : Addressing) : List Piece :=
  globalPieces mode ++
    [Piece.text "", Piece.text "\n", Piece.text " (export \"", Piece.blank '"',
      Piece.text " (func $runBrainfuck))", Piece.text "\n", Piece.text (functionStart mode),
      Piece.text "\n"]

/-- What a layout enters in the imports. -/
def Layout.importEntries (layout : Layout) : List (List Char) :=
  [layout.memoryModule.toList, layout.memoryField.toList, (toString layout.memoryPages).toList,
    layout.ioModule.toList, layout.putCharField.toList, layout.ioModule.toList,
    layout.getCharField.toList]

/-- A module is its two forms filled in, and the body with the fixed end. -/
theorem toList_render (body : String) (mode : Addressing) (layout : Layout) :
    (render body mode layout).toList =
      fill importForm layout.importEntries (fill (exportForm mode) [layout.exportName.toList]
        (body.toList ++ " )\n)\n".toList)) := by
  -- The fixed texts that hold the end of an entry are cut behind it.
  have hclosing : ")".toList = [')'] := by simp
  have hexport : "\" (func $runBrainfuck))".toList = '"' :: " (func $runBrainfuck))".toList := by
    simp
  cases mode <;>
    simp only [render, header, String.toList_append, String.toList_join, toList_importLine,
      List.map_cons, List.map_nil, List.flatMap_cons, List.flatMap_nil, List.cons_append,
      List.nil_append, List.append_nil, List.append_assoc, hclosing, hexport, importForm,
      importPieces, exportForm, globalPieces, functionStart, Layout.importEntries, fill]

/-- No parenthesis is in a printed number. -/
theorem parenthesis_not_mem_toString (pages : Int) : ')' ∉ (toString pages).toList := by
  have hdigits (n : Nat) : ')' ∉ Nat.toDigits 10 n := fun h =>
    absurd (Nat.isDigit_of_mem_toDigits (by decide) (by decide) h) (by decide)
  rw [toList_toString_int]
  cases pages with
  | ofNat n => exact hdigits n
  | negSucc n => simpa using hdigits (n + 1)

/-- A printed number determines the number. -/
theorem toString_int_inj {pages other : Int} (h : toString pages = toString other) :
    pages = other := by
  have hsign {n : Nat} {rest : List Char} : Nat.toDigits 10 n ≠ '-' :: rest := by
    intro h
    have hmem : '-' ∈ Nat.toDigits 10 n := by simp [h]
    exact absurd (Nat.isDigit_of_mem_toDigits (by decide) (by decide) hmem) (by decide)
  rw [← String.toList_inj, toList_toString_int, toList_toString_int] at h
  cases pages with
  | ofNat m =>
    cases other with
    | ofNat n => exact congrArg _ (toDigits_inj h)
    | negSucc n => exact absurd h hsign
  | negSucc m =>
    cases other with
    | ofNat n => exact absurd h.symm hsign
    | negSucc n =>
      exact congrArg _ (Nat.succ.inj (toDigits_inj (List.tail_eq_of_cons_eq h)))

/-- No name of the layout holds a double quote. -/
def Layout.Unquoted (layout : Layout) : Prop :=
  ∀ name ∈ layout.names, '"' ∉ name.toList

instance (layout : Layout) : Decidable layout.Unquoted :=
  inferInstanceAs (Decidable (∀ name ∈ layout.names, '"' ∉ name.toList))

/-- Names without quotes fit the line of an import. -/
theorem fits_importPieces {group field : String} {what : List Piece} {entries : List (List Char)}
    (hgroup : '"' ∉ group.toList) (hfield : '"' ∉ field.toList) (hwhat : Fits what entries) :
    Fits (importPieces what) (group.toList :: field.toList :: entries) := by
  have hend : Fits (what ++ [.text ")", .text "\n"]) entries := by
    simpa using hwhat.append (.text (.text .done))
  exact .text (.blank hgroup (.text (.blank hfield (.text hend))))

/-- The entries of a layout without quotes fit the imports. -/
theorem Layout.Unquoted.fits_importForm {layout : Layout} (h : layout.Unquoted) :
    Fits importForm layout.importEntries := by
  simp only [Unquoted, names, List.forall_mem_cons] at h
  obtain ⟨hmemoryModule, hmemoryField, hioModule, hputCharField, hgetCharField, -⟩ := h
  have hpages : Fits [.text "(memory ", .blank ')'] [(toString layout.memoryPages).toList] :=
    .text (.blank (parenthesis_not_mem_toString layout.memoryPages) .done)
  have hmemory := fits_importPieces hmemoryModule hmemoryField hpages
  exact .text (.text ((hmemory.append (fits_importPieces hioModule hputCharField
    (.text .done))).append (fits_importPieces hioModule hgetCharField (.text .done))))

/-- The name of the export fits the lines before the body. -/
theorem Layout.Unquoted.fits_exportForm {layout : Layout} (h : layout.Unquoted)
    (mode : Addressing) : Fits (exportForm mode) [layout.exportName.toList] := by
  have hname : '"' ∉ layout.exportName.toList := h layout.exportName (by simp [names])
  have hglobal : Fits (globalPieces mode) [] := by
    cases mode with
    | globalVariable => exact .text (.text .done)
    | localVariable => exact .done
  exact hglobal.append
    (.text (.text (.text (.blank hname (.text (.text (.text (.text .done))))))))

/-- What follows the imports tells the mode: only a global pointer is declared before the empty
line. -/
theorem mode_eq_of_fill_exportForm {mode other : Addressing} {entries others : List (List Char)}
    {rest otherRest : List Char}
    (h : fill (exportForm mode) entries rest = fill (exportForm other) others otherRest) :
    mode = other := by
  cases mode <;> cases other <;> first | rfl | simp [exportForm, globalPieces, fill] at h

/-- A layout is determined by what it enters in the two forms. -/
theorem Layout.eq_of_entries {layout other : Layout}
    (himports : layout.importEntries = other.importEntries)
    (hexport : layout.exportName = other.exportName) : layout = other := by
  simp only [importEntries, List.cons.injEq, String.toList_inj] at himports
  obtain ⟨hmemoryModule, hmemoryField, hpages, hioModule, hputCharField, -, hgetCharField, -⟩ :=
    himports
  cases layout
  cases other
  simp only [Layout.mk.injEq]
  exact ⟨hmemoryModule, hmemoryField, toString_int_inj hpages, hioModule, hputCharField,
    hgetCharField, hexport⟩

/-- A rendered module determines its body, its mode and its layout. -/
theorem render_inj {body other : String} {mode otherMode : Addressing}
    {layout otherLayout : Layout} (h : layout.Unquoted) (hother : otherLayout.Unquoted) :
    render body mode layout = render other otherMode otherLayout ↔
      body = other ∧ mode = otherMode ∧ layout = otherLayout := by
  refine ⟨fun heq => ?_, ?_⟩
  · have hlist := congrArg String.toList heq
    rw [toList_render, toList_render] at hlist
    obtain ⟨himports, hfilled⟩ := h.fits_importForm.fill_inj hother.fits_importForm hlist
    obtain rfl := mode_eq_of_fill_exportForm hfilled
    obtain ⟨hexport, hbody⟩ :=
      (h.fits_exportForm mode).fill_inj (hother.fits_exportForm mode) hfilled
    refine ⟨String.toList_inj.mp (List.append_cancel_right hbody), rfl, ?_⟩
    exact Layout.eq_of_entries himports (String.toList_inj.mp (List.head_eq_of_cons_eq hexport))
  · rintro ⟨rfl, rfl, rfl⟩
    rfl

/-- A name that goes on like the text after it, a negative number of pages, and a body that closes
the module early. -/
theorem render_inj_lookalikes :
    let layout : Layout := { memoryPages := -1, exportName := "run (func $runBrainfuck))\n" }
    let other : Layout := { memoryPages := 1, exportName := "run" }
    layout.Unquoted ∧ other.Unquoted ∧
      render "" .localVariable layout ≠ render " )\n)\n" .localVariable other := by
  intro layout other
  have hlayout : layout.Unquoted := by decide
  have hother : other.Unquoted := by decide
  refine ⟨hlayout, hother, fun h => ?_⟩
  obtain ⟨hbody, -⟩ := (render_inj hlayout hother).mp h
  exact absurd hbody (by decide)

end BrainfuckWasm.Module
