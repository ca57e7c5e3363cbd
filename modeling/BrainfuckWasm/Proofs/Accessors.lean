import BrainfuckWasm.Proofs.Listing.BodyLines
import BrainfuckWasm.Proofs.Recast

/-!
# The addressing modes differ in accessor names only

A body for a global pointer and one for a local pointer come from the same pass, so they have the
same lines and the same labels, or there is neither. Their texts differ in the word before the dot
of each accessor: replacing it throughout the one text gives the other.

Replacing works on raw text and knows nothing of lines or instructions. It does its work between any
two characters that are not in the word, such as digits, blanks, parentheses and line feeds. So no
occurrence lies across two pieces that these keep apart, and what is left are fixed texts.
-/

namespace BrainfuckWasm

namespace Text

/-- Characters with every occurrence of a word, which is not empty, replaced from left to right and
without overlap, after a number of characters that belong to an occurrence before them. -/
def replaceAfter (word new : List Char) : Nat → List Char → List Char
  | _, [] => []
  | skipped + 1, _ :: rest => replaceAfter word new skipped rest
  | 0, c :: rest =>
    if word.isPrefixOf (c :: rest) then new ++ replaceAfter word new (word.length - 1) rest
    else c :: replaceAfter word new 0 rest

/-- A text with every occurrence of a word replaced. -/
def replaceAll (word new text : String) : String :=
  String.ofList (replaceAfter word.toList new.toList 0 text.toList)

/-- A word does not begin before a character that is not in it and end after it. -/
theorem prefix_append_cons_iff {word : List Char} {c : Char} (hc : c ∉ word)
    (before after : List Char) : word <+: before ++ c :: after ↔ word <+: before := by
  refine ⟨fun h => ?_, fun h => h.trans (List.prefix_append _ _)⟩
  rcases prefix_append_cases h with hbefore | ⟨start, hstart, rfl⟩
  · exact hbefore
  · rcases List.prefix_cons_iff.mp hstart with rfl | ⟨rest, rfl, -⟩
    · rw [List.append_nil]
    · exact absurd (List.mem_append_right before List.mem_cons_self) hc

/-- A word is found before or after a character that is not in it. -/
theorem infix_append_cons {word before after : List Char} {c : Char} (hc : c ∉ word)
    (h : word <:+: before ++ c :: after) : word <:+: before ∨ word <:+: after := by
  induction before with
  | nil =>
    rcases List.infix_cons_iff.mp h with hhead | hafter
    · rw [← List.nil_append (c :: after), prefix_append_cons_iff hc] at hhead
      exact Or.inl hhead.isInfix
    · exact Or.inr hafter
  | cons d before ih =>
    rw [List.cons_append, List.infix_cons_iff] at h
    rcases h with hhead | hrest
    · rw [← List.cons_append, prefix_append_cons_iff hc] at hhead
      exact Or.inl hhead.isInfix
    · exact (ih hrest).imp_left List.infix_cons

/-- Replacing is done before and after a character that is not in the word. -/
theorem replaceAfter_append_cons {word : List Char} (hword : word ≠ []) {c : Char} (hc : c ∉ word)
    (new before after : List Char) {skipped : Nat} (hskipped : skipped ≤ before.length) :
    replaceAfter word new skipped (before ++ c :: after) =
      replaceAfter word new skipped before ++ c :: replaceAfter word new 0 after := by
  have hsame (piece : List Char) :
      word.isPrefixOf (piece ++ c :: after) = word.isPrefixOf piece := by
    rw [Bool.eq_iff_iff, List.isPrefixOf_iff_prefix, List.isPrefixOf_iff_prefix,
      prefix_append_cons_iff hc]
  induction before generalizing skipped with
  | nil =>
    obtain rfl : skipped = 0 := Nat.le_zero.mp hskipped
    have hnone : word.isPrefixOf (c :: after) = false := by
      rw [← List.nil_append (c :: after), hsame, Bool.eq_false_iff, ne_eq,
        List.isPrefixOf_iff_prefix, List.prefix_nil]
      exact hword
    simp only [List.nil_append, replaceAfter, hnone, Bool.false_eq_true, if_false]
  | cons d before ih =>
    cases skipped with
    | succ skipped => exact ih (Nat.le_of_succ_le_succ hskipped)
    | zero =>
      rw [List.cons_append, replaceAfter, replaceAfter, ← List.cons_append, hsame]
      by_cases hhead : word.isPrefixOf (d :: before) = true
      · have hlength := (List.isPrefixOf_iff_prefix.mp hhead).length_le
        rw [List.length_cons] at hlength
        rw [if_pos hhead, if_pos hhead, ih (by omega), List.append_assoc]
      · rw [if_neg hhead, if_neg hhead, ih (Nat.zero_le _), List.cons_append]

end Text

namespace Body

open Text Listing

/-- A text of the global mode and the same of the local one: the first has no local accessor, and it
becomes the second where its accessors are replaced. -/
structure Switches (inGlobal inLocal : List Char) : Prop where
  absent : ¬ "local.".toList <:+: inGlobal
  replaced : replaceAfter "global.".toList "local.".toList 0 inGlobal = inLocal

instance (inGlobal inLocal : List Char) : Decidable (Switches inGlobal inLocal) :=
  decidable_of_iff (¬ "local.".toList <:+: inGlobal ∧
      replaceAfter "global.".toList "local.".toList 0 inGlobal = inLocal)
    ⟨fun h => ⟨h.1, h.2⟩, fun h => ⟨h.absent, h.replaced⟩⟩

namespace Switches

variable {firstGlobal firstLocal secondGlobal secondLocal : List Char}

/-- Texts may be put together around a character that is in neither word. -/
theorem append_cons (hfirst : Switches firstGlobal firstLocal)
    (hsecond : Switches secondGlobal secondLocal) {c : Char}
    (hc : c ∉ "global.".toList ++ "local.".toList) :
    Switches (firstGlobal ++ c :: secondGlobal) (firstLocal ++ c :: secondLocal) := by
  rw [List.mem_append, not_or] at hc
  constructor
  · intro h
    rcases infix_append_cons hc.2 h with hbefore | hafter
    · exact hfirst.absent hbefore
    · exact hsecond.absent hafter
  · rw [replaceAfter_append_cons (by decide) hc.1 _ _ _ (Nat.zero_le _), hfirst.replaced,
      hsecond.replaced]

/-- A stretch of characters that are in neither word may come between texts. -/
theorem append_stretch (hfirst : Switches firstGlobal firstLocal)
    (hsecond : Switches secondGlobal secondLocal) {stretch : List Char} (hne : stretch ≠ [])
    (h : ∀ c ∈ stretch, c ∉ "global.".toList ++ "local.".toList) :
    Switches (firstGlobal ++ stretch ++ secondGlobal)
      (firstLocal ++ stretch ++ secondLocal) := by
  rw [List.append_assoc, List.append_assoc]
  induction stretch generalizing firstGlobal firstLocal with
  | nil => exact absurd rfl hne
  | cons c stretch ih =>
    rw [List.forall_mem_cons] at h
    cases stretch with
    | nil => exact hfirst.append_cons hsecond h.1
    | cons d stretch =>
      have hnil : Switches [] [] := by decide
      exact hfirst.append_cons (ih hnil (List.cons_ne_nil d stretch) h.2) h.1

/-- A number may come between texts. -/
theorem append_number (hfirst : Switches firstGlobal firstLocal)
    (hsecond : Switches secondGlobal secondLocal) (n : Nat) :
    Switches (firstGlobal ++ Nat.toDigits 10 n ++ secondGlobal)
      (firstLocal ++ Nat.toDigits 10 n ++ secondLocal) := by
  have hletters : ("global.".toList ++ "local.".toList).any Char.isDigit = false := by decide
  refine hfirst.append_stretch hsecond Nat.toDigits_ne_nil fun c hdigit hletter => ?_
  exact List.any_eq_false.mp hletters c hletter (isDigit_of_mem hdigit)

/-- Spaces may come before a text. -/
theorem spaces (h : Switches firstGlobal firstLocal) (n : Nat) :
    Switches (List.replicate n ' ' ++ firstGlobal) (List.replicate n ' ' ++ firstLocal) := by
  have hnil : Switches [] [] := by decide
  induction n with
  | zero => exact h
  | succ n ih => exact hnil.append_cons ih (by decide)

end Switches

/-- The texts of an instruction in the two modes. -/
theorem switches_text (instruction : Instruction) :
    Switches (instruction.text .globalVariable).toList
      (instruction.text .localVariable).toList := by
  cases instruction with
  | movedPointer amount =>
    simp only [toList_movedPointer, numbered, ← List.append_assoc]
    generalize decide (amount > 0) = up
    exact .append_number (by cases up <;> decide +kernel) (by decide) _
  | storeChanged amount =>
    simp only [toList_storeChanged, numbered, ← List.append_assoc]
    generalize decide (amount > 0) = up
    exact .append_number (by cases up <;> decide +kernel) (by decide) _
  | block label =>
    simp only [toList_block, numbered, ← List.append_assoc]
    exact .append_number (by decide) (by decide) label
  | loop label =>
    simp only [toList_loop, numbered, ← List.append_assoc]
    exact .append_number (by decide) (by decide) label
  | leaveIfZero label =>
    simp only [toList_leaveIfZero, numbered, ← List.append_assoc]
    exact .append_number (by decide) (by decide +kernel) label
  | againUnlessZero label =>
    simp only [toList_againUnlessZero, numbered, ← List.append_assoc]
    exact .append_number (by decide) (by decide +kernel) label
  | setPointer | pointer | cell | put | get | close => decide +kernel

/-- The texts of lines in the two modes. -/
theorem switches_join (lines : List Line) :
    Switches (String.join (lines.map (Line.render .globalVariable))).toList
      (String.join (lines.map (Line.render .localVariable))).toList := by
  induction lines with
  | nil => decide
  | cons line rest ih =>
    have hline := ((switches_text line.instruction).append_cons ih
      (show '\n' ∉ _ by decide)).spaces line.width.toNat
    simpa [toList_render] using hline

/-- Bodies for a global and for a local pointer differ in the names of their accessors only. For
every source both are there, with one number of labels, or both fail in the same way, having drawn
the same labels. The body with a global pointer does not name a local one, and replacing the name
throughout gives the body with a local pointer. -/
theorem compile_accessors (baseIndent indentStep : Int) (source : String) :
    let inGlobal : Settings := ⟨.globalVariable, baseIndent, indentStep⟩
    let inLocal : Settings := ⟨.localVariable, baseIndent, indentStep⟩
    ((∃ stop, compile inGlobal source = .error stop ∧ compile inLocal source = .error stop) ∨
      ∃ globalBody localBody, compile inGlobal source = .ok globalBody ∧
        compile inLocal source = .ok localBody ∧
        localBody.labelCount = globalBody.labelCount ∧
        ¬ "local.".toList <:+: globalBody.text.toList ∧
        replaceAll "global." "local." globalBody.text = localBody.text) ∧
    (Pass.run inLocal source.toList).pass.nextLabel =
      (Pass.run inGlobal source.toList).pass.nextLabel := by
  intro inGlobal inLocal
  have hrun : Pass.run inLocal source.toList =
      (Pass.run inGlobal source.toList).recast .localVariable id :=
    Pass.run_recast .localVariable inGlobal source.toList
  have haddressing := Pass.addressing_run inGlobal source.toList
  rw [compile, compile, hrun]
  generalize Pass.run inGlobal source.toList = progress at haddressing
  obtain ⟨pass, stop⟩ := progress
  refine ⟨?_, rfl⟩
  cases stop with
  | some stop =>
    have hstop : stop.recast id = stop := by
      rcases stop with (position | position) | cause <;> rfl
    exact Or.inl ⟨stop, rfl, congrArg Except.error hstop⟩
  | none =>
    have hglobal : pass.body =
        String.join (pass.lines.toList.map (Line.render .globalVariable)) := by
      rw [Pass.body, Pass.output, show pass.settings.addressing = _ from haddressing]
    have hswitches := switches_join pass.lines.toList
    rw [← hglobal] at hswitches
    refine Or.inr ⟨_, _, rfl, rfl, rfl, hswitches.absent, ?_⟩
    rw [replaceAll, hswitches.replaced, String.ofList_toList]
    rfl

end Body

end BrainfuckWasm
