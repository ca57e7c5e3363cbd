import BrainfuckWasm.Proofs.Layout
import BrainfuckWasm.Proofs.Reached

/-!
# Labels follow the brackets

The labels in the lines of a body are compared with the brackets of its source. Each loop start
brings a block, a branch out of it and a loop, with the next two labels; each loop end brings a
branch back, to the label of the loop start that it closes. Which loop start that is is said by
counting alone, so the law ties the stack of a pass to the matching of the whole source.

The law is stated of any text and any list of labels. Reading one more character keeps it, in a pass
because the innermost open loop carries the label of the partner.
-/

namespace BrainfuckWasm

/-- The loop start after one text is closed by a loop end after a longer one: what stands between
them is balanced. -/
def Partner (before head : List Char) : Prop :=
  ∃ inner, head = before ++ '[' :: inner ∧ Balanced inner

/-- No loop start inside a balanced text has a balanced rest. -/
theorem Balanced.not_partner {inner middle rest : List Char} (h : Balanced inner)
    (hrest : Balanced rest) : inner ≠ middle ++ '[' :: rest := by
  intro hsplit
  have hmiddle := h.1 middle ⟨'[' :: rest, hsplit.symm⟩
  have hequal := h.2
  rw [hsplit, opens_append, closes_append, opens_cons, closes_cons, hrest.2] at hequal
  simp only [if_true, Char.reduceEq, if_false] at hequal
  omega

/-- A loop end closes one loop start only. -/
theorem Partner.unique {before other head : List Char} (h : Partner before head)
    (hother : Partner other head) : before = other := by
  obtain ⟨inner, hhead, hinner⟩ := h
  obtain ⟨nested, hsame, hnested⟩ := hother
  rw [hsame] at hhead
  rcases List.append_eq_append_iff.mp hhead with ⟨middle, rfl, htail⟩ | ⟨middle, rfl, htail⟩
  · cases middle with
    | nil => simp
    | cons c middle =>
      rw [List.cons_append, List.cons.injEq] at htail
      exact absurd htail.2 (hnested.not_partner hinner)
  · cases middle with
    | nil => simp
    | cons c middle =>
      rw [List.cons_append, List.cons.injEq] at htail
      exact absurd htail.2 (hinner.not_partner hnested)

/-- The innermost open start is the partner of a loop end that comes next. -/
theorem OpenStarts.partner {text : List Char} {position : Nat} {positions : List Nat}
    (h : OpenStarts text (position :: positions)) : Partner (text.take position) text := by
  cases h with
  | @some before inner _ _ hinner =>
    rw [List.take_left]
    exact ⟨inner, rfl, hinner⟩

/-- A character in a text with one more at its end is that one, or stands in the text. -/
theorem concat_eq_append_cons {text head tail : List Char} {last c : Char}
    (h : text ++ [last] = head ++ c :: tail) :
    (text = head ∧ last = c) ∨ ∃ rest, text = head ++ c :: rest := by
  rcases List.eq_nil_or_concat tail with rfl | ⟨rest, final, rfl⟩
  · obtain ⟨rfl, hlast⟩ := List.append_inj' h rfl
    exact Or.inl ⟨rfl, List.singleton_inj.mp hlast⟩
  · rw [List.concat_eq_append, ← List.cons_append, ← List.append_assoc] at h
    exact Or.inr ⟨rest, (List.append_inj' h rfl).1⟩

namespace Listing

/-- A block or a loop declares its label. -/
def MarkKind.declares : MarkKind → Bool
  | .block | .loop => true
  | .entry | .again => false

/-- The uses of labels that a character of the source brings. -/
def MarkKind.ofChar (c : Char) : List MarkKind :=
  if c = '[' then [.block, .entry, .loop] else if c = ']' then [.again] else []

/-- The labels of the marks of some kinds, in order. -/
def labelsOf (kinds : MarkKind → Bool) (marks : List Mark) : List Nat :=
  (marks.filter fun mark => kinds mark.kind).map Mark.label

/-- Labels come in the order of the marks. -/
theorem labelsOf_append (kinds : MarkKind → Bool) (first second : List Mark) :
    labelsOf kinds (first ++ second) = labelsOf kinds first ++ labelsOf kinds second := by
  simp [labelsOf]

/-- Marks that follow the brackets of a text. -/
structure Marked (text : List Char) (marks : List Mark) : Prop where
  /-- The lines with labels come in the order of the brackets. -/
  kinds_eq : marks.map Mark.kind = text.flatMap MarkKind.ofChar
  /-- Labels are declared one after another. -/
  declared_eq : labelsOf MarkKind.declares marks = List.range (2 * opens text)
  /-- The branch out of a loop goes to its even label. -/
  entries_eq : labelsOf (· = .entry) marks = (List.range (opens text)).map (2 * ·)
  /-- There is a branch back for each loop end. -/
  repeats_length : (labelsOf (· = .again) marks).length = closes text
  /-- A loop end has a partner, and the branch back goes to the odd label of that loop start. -/
  repeats_eq : ∀ head tail, text = head ++ ']' :: tail → (∃ before, Partner before head) ∧
    ∀ before, Partner before head →
      (labelsOf (· = .again) marks)[closes head]? = some (2 * opens before + 1)

namespace Marked

/-- Without a source there are no marks. -/
theorem nil : Marked [] [] where
  kinds_eq := rfl
  declared_eq := rfl
  entries_eq := rfl
  repeats_length := rfl
  repeats_eq := by simp

/-- What is known of the loop ends stays true with more marks. -/
theorem repeats_append {text : List Char} {marks : List Mark} (h : Marked text marks)
    (more : List Mark) {head rest : List Char} (htext : text = head ++ ']' :: rest) :
    (∃ before, Partner before head) ∧ ∀ before, Partner before head →
      (labelsOf (· = .again) (marks ++ more))[closes head]? = some (2 * opens before + 1) := by
  obtain ⟨hpartner, hlabel⟩ := h.repeats_eq head rest htext
  refine ⟨hpartner, fun before hbefore => ?_⟩
  have hold := hlabel before hbefore
  rw [labelsOf_append, List.getElem?_append_left (List.getElem?_eq_some_iff.mp hold).1, hold]

/-- A character that is no loop end leaves the loop ends as they are. -/
theorem repeats_concat {text : List Char} {marks : List Mark} (h : Marked text marks) {c : Char}
    (hc : c ≠ ']') (more : List Mark) (head tail : List Char)
    (htext : text ++ [c] = head ++ ']' :: tail) :
    (∃ before, Partner before head) ∧ ∀ before, Partner before head →
      (labelsOf (· = .again) (marks ++ more))[closes head]? = some (2 * opens before + 1) := by
  rcases concat_eq_append_cons htext with ⟨-, hlast⟩ | ⟨rest, hrest⟩
  · exact absurd hlast hc
  · exact h.repeats_append more hrest

/-- Any character but a bracket brings no marks. -/
theorem concat_other {text : List Char} {marks : List Mark} (h : Marked text marks) {c : Char}
    (hopen : c ≠ '[') (hclose : c ≠ ']') : Marked (text ++ [c]) marks := by
  have hopens : opens (text ++ [c]) = opens text := by simp [opens, hopen]
  have hcloses : closes (text ++ [c]) = closes text := by simp [closes, hclose]
  refine ⟨?_, ?_, ?_, ?_, fun head tail htext => ?_⟩
  · simp [h.kinds_eq, MarkKind.ofChar, hopen, hclose]
  · rw [h.declared_eq, hopens]
  · rw [h.entries_eq, hopens]
  · rw [h.repeats_length, hcloses]
  · simpa using h.repeats_concat hclose [] head tail htext

/-- A loop start brings the next two labels. -/
theorem concat_open {text : List Char} {marks : List Mark} (h : Marked text marks) :
    Marked (text ++ ['[']) (marks ++ [⟨.block, 2 * opens text⟩, ⟨.entry, 2 * opens text⟩,
      ⟨.loop, 2 * opens text + 1⟩]) := by
  have hopens : opens (text ++ ['[']) = opens text + 1 := opens_append _ _
  have hcloses : closes (text ++ ['[']) = closes text := closes_append _ _
  refine ⟨?_, ?_, ?_, ?_, h.repeats_concat (by decide) _⟩
  · simp [h.kinds_eq, MarkKind.ofChar]
  · rw [labelsOf_append, h.declared_eq, hopens, Nat.mul_succ, List.range_succ, List.range_succ,
      List.append_assoc]
    rfl
  · rw [labelsOf_append, h.entries_eq, hopens, List.range_succ, List.map_append]
    rfl
  · rw [labelsOf_append, hcloses, ← h.repeats_length]
    exact List.length_append

/-- A loop end brings the odd label of its partner. -/
theorem concat_close {text before : List Char} {marks : List Mark} (h : Marked text marks)
    (hpartner : Partner before text) :
    Marked (text ++ [']']) (marks ++ [⟨.again, 2 * opens before + 1⟩]) := by
  have hopens : opens (text ++ [']']) = opens text := opens_append _ _
  have hcloses : closes (text ++ [']']) = closes text + 1 := closes_append _ _
  have hrepeats : labelsOf (· = .again) (marks ++ [⟨.again, 2 * opens before + 1⟩]) =
      labelsOf (· = .again) marks ++ [2 * opens before + 1] := labelsOf_append _ _ _
  refine ⟨?_, ?_, ?_, ?_, fun head tail htext => ?_⟩
  · simp [h.kinds_eq, MarkKind.ofChar]
  · rw [labelsOf_append, h.declared_eq, hopens]
    exact List.append_nil _
  · rw [labelsOf_append, h.entries_eq, hopens]
    exact List.append_nil _
  · rw [hrepeats, hcloses, List.length_append, h.repeats_length, List.length_singleton]
  · rcases concat_eq_append_cons htext with ⟨rfl, -⟩ | ⟨rest, hrest⟩
    · -- The new loop end: its branch is the last, and its partner is the one given.
      refine ⟨⟨before, hpartner⟩, fun other hother => ?_⟩
      rw [hrepeats, ← h.repeats_length, List.getElem?_concat_length, hpartner.unique hother]
    · exact h.repeats_append _ hrest

end Marked

end Listing

namespace Body

open Listing (Marked)

/-- Moves have no labels. -/
theorem marksOf_moveLines (width amount : Int) : marksOf (moveLines width amount) = [] := by
  rw [moveLines]
  split <;> rfl

/-- Changes have no labels. -/
theorem marksOf_changeLines (width amount : Int) : marksOf (changeLines width amount) = [] := by
  rw [changeLines]
  split <;> rfl

namespace Pass

/-- What is pending has no labels. -/
theorem marksOf_pendingLines (pass : Pass) : marksOf pass.pendingLines = [] := by
  rw [pendingLines, marksOf_append, marksOf_moveLines, marksOf_changeLines, List.append_nil]

/-- Further lines bring their labels after those of the others. -/
theorem marksOf_extend (pass : Pass) (lines : List Line) :
    marksOf (pass.extend lines).lines.toList = marksOf pass.lines.toList ++ marksOf lines := by
  rw [extend, Array.toList_append, marksOf_append]

/-- The labels in the lines of a pass follow the brackets that it has read. -/
theorem Reached.marked {settings : Settings} {text : List Char} {pass : Pass}
    (h : Reached settings text pass) : Marked text (marksOf pass.lines.toList) := by
  induction h with
  | start => exact .nil
  | @comment text pass c _ hc ih =>
    refine ih.concat_other ?_ ?_
    · rintro rfl
      cases hc
    · rintro rfl
      cases hc
  | @symbol text pass symbol h hopen _ ih =>
    have hlines : marksOf ((pass.extend (pass.due symbol)).turn text.length symbol).lines.toList =
        marksOf pass.lines.toList ++ marksOf (pass.due symbol) := by
      rw [← marksOf_extend]
      cases symbol <;> rfl
    rw [hlines]
    cases symbol with
    | right | left =>
      rw [due, marksOf_changeLines, List.append_nil]
      exact ih.concat_other (by decide) (by decide)
    | increment | decrement =>
      rw [due, marksOf_moveLines, List.append_nil]
      exact ih.concat_other (by decide) (by decide)
    | output | input =>
      rw [due, marksOf_append, marksOf_pendingLines]
      simpa [marksOf, Instruction.mark?] using ih.concat_other (by decide) (by decide)
    | loopOpen =>
      rw [due, marksOf_append, marksOf_pendingLines, h.nextLabel_eq]
      exact ih.concat_open
    | loopClose =>
      cases hloops : pass.openLoops with
      | nil => exact absurd hloops (hopen rfl)
      | cons loop rest =>
        have hstarts := h.follows.starts
        rw [hloops, List.map_cons] at hstarts
        rw [due_loopClose hloops, marksOf_append, marksOf_pendingLines, closingLines,
          h.label_eq loop (by rw [hloops]; exact List.mem_cons_self)]
        exact ih.concat_close hstarts.partner

end Pass

/-- Labels follow bracket matching. A balanced source, unless a line has no margin, compiles to a
body with two labels for each loop start, and the labels in its text are those of its brackets. -/
theorem compile_labels (settings : Settings) (source : String) (h : Balanced source.toList) :
    (∃ cause, settings.refusal? (Run.ofSource source.toList) = some cause ∧
      compile settings source = .error (.margin cause)) ∨
    settings.refusal? (Run.ofSource source.toList) = none ∧
      ∃ compiled, compile settings source = .ok compiled ∧
        compiled.labelCount = 2 * opens source.toList ∧
        Marked source.toList (Listing.marks compiled.text) := by
  rcases compile_of_refusal? settings h with hrefused | ⟨hnone, compiled, hcompile⟩
  · exact Or.inl hrefused
  · obtain ⟨pass, hreached, -, rfl⟩ := exists_reached_of_compile hcompile
    refine Or.inr ⟨hnone, _, hcompile, hreached.nextLabel_eq, ?_⟩
    have hmarks : Listing.marks (pass.extend pass.pendingLines).body =
        marksOf pass.lines.toList := by
      rw [Pass.body, Pass.output, Listing.marks_join]
      exact (pass.marksOf_extend _).trans (by rw [pass.marksOf_pendingLines, List.append_nil])
    rw [hmarks]
    exact hreached.marked

/-- The second loop end of nested loops goes back to the first loop start. -/
theorem compile_labels_nested :
    Balanced "[[]]".toList ∧ Partner [] "[[]".toList ∧
      ∃ compiled, compile {} "[[]]" = .ok compiled ∧ compiled.labelCount = 4 ∧
        (Listing.labelsOf (· = .again) (Listing.marks compiled.text))[1]? = some 1 := by
  have hpartner : Partner [] "[[]".toList := ⟨"[]".toList, rfl, by decide⟩
  refine ⟨by decide, hpartner, ?_⟩
  rcases compile_labels {} "[[]]" (by decide) with ⟨cause, -, hcompile⟩ |
    ⟨-, compiled, hcompile, hcount, hmarked⟩
  · cases hcompile
  · exact ⟨compiled, hcompile, hcount, (hmarked.repeats_eq "[[]".toList [] rfl).2 [] hpartner⟩

/-- A balanced source has no labels at a width below the 64-bit integers. -/
theorem not_labelled_below_words :
    ¬ ∀ (settings : Settings) (source : String), Balanced source.toList →
      ∃ compiled, compile settings source = .ok compiled ∧
        compiled.labelCount = 2 * opens source.toList := by
  intro h
  obtain ⟨compiled, hcompile, -⟩ := h { baseIndent := -0x8000000000000001 } "[]" (by decide)
  have hrefused : compile { baseIndent := -0x8000000000000001 } "[]" =
      .error (.margin .outOfRange) := by rfl
  rw [hrefused] at hcompile
  cases hcompile

end Body

end BrainfuckWasm
