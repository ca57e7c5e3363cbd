import Mathlib.Data.List.Induction
import Mathlib.Data.List.Infix
import BrainfuckWasm.Symbol

/-!
# Balanced loops

The loop starts and loop ends of a text are compared by counting alone: a text is balanced if no
prefix has more ends than starts and the whole has as many of each. From the counts follow the
matching of a start with its end, the first end that nothing matches, and the starts that stay open.

A text cut at its open starts consists of balanced pieces. That decomposition is what reading one
more character preserves, and the innermost open start can be read off it.
-/

namespace BrainfuckWasm

/-- The number of loop starts in a text. -/
def opens (text : List Char) : Nat :=
  text.count '['

/-- The number of loop ends in a text. -/
def closes (text : List Char) : Nat :=
  text.count ']'

/-- No prefix has more loop ends than loop starts. -/
def Covered (text : List Char) : Prop :=
  ∀ before, before <+: text → closes before ≤ opens before

/-- No prefix has more loop ends than loop starts, and the whole has as many of each. -/
def Balanced (text : List Char) : Prop :=
  Covered text ∧ opens text = closes text

instance (text : List Char) : Decidable (Covered text) :=
  decidable_of_iff (∀ before ∈ text.inits, closes before ≤ opens before) (by simp [Covered])

instance (text : List Char) : Decidable (Balanced text) :=
  inferInstanceAs (Decidable (_ ∧ _))

/-- Loop starts are counted piece by piece. -/
@[simp]
theorem opens_append (left right : List Char) : opens (left ++ right) = opens left + opens right :=
  List.count_append

/-- Loop ends are counted piece by piece. -/
@[simp]
theorem closes_append (left right : List Char) :
    closes (left ++ right) = closes left + closes right :=
  List.count_append

/-- A loop start counts one among the loop starts. -/
theorem opens_cons (c : Char) (text : List Char) :
    opens (c :: text) = opens text + if c = '[' then 1 else 0 := by
  simp [opens, List.count_cons]

/-- A loop end counts one among the loop ends. -/
theorem closes_cons (c : Char) (text : List Char) :
    closes (c :: text) = closes text + if c = ']' then 1 else 0 := by
  simp [closes, List.count_cons]

/-- A prefix of two texts in a row is one of the first, or the first and a prefix of the second. -/
theorem prefix_append_cases {before left right : List Char} (h : before <+: left ++ right) :
    before <+: left ∨ ∃ start, start <+: right ∧ before = left ++ start := by
  obtain ⟨rest, hrest⟩ := h
  rcases List.append_eq_append_iff.mp hrest with ⟨middle, rfl, -⟩ | ⟨middle, rfl, rfl⟩
  · exact Or.inl (List.prefix_append _ _)
  · exact Or.inr ⟨middle, List.prefix_append _ _, rfl⟩

/-- The empty text is balanced. -/
theorem balanced_nil : Balanced [] := by
  refine ⟨fun before h => ?_, rfl⟩
  rw [List.prefix_nil.mp h]
  exact Nat.le_refl _

/-- Two covered texts in a row are covered. -/
theorem Covered.append {left right : List Char} (hleft : Covered left) (hright : Covered right) :
    Covered (left ++ right) := by
  intro before hbefore
  rcases prefix_append_cases hbefore with h | ⟨start, hstart, rfl⟩
  · exact hleft before h
  · have hwhole := hleft left List.prefix_rfl
    have hpart := hright start hstart
    simp only [opens_append, closes_append]
    omega

/-- Two balanced texts in a row are balanced. -/
theorem Balanced.append {left right : List Char} (hleft : Balanced left) (hright : Balanced right) :
    Balanced (left ++ right) := by
  refine ⟨hleft.1.append hright.1, ?_⟩
  rw [opens_append, closes_append, hleft.2, hright.2]

/-- A character that is no bracket is balanced by itself. -/
theorem balanced_singleton {c : Char} (hopen : c ≠ '[') (hclose : c ≠ ']') : Balanced [c] := by
  have hopens : opens [c] = 0 := List.count_eq_zero.mpr (by simp [hopen.symm])
  have hcloses : closes [c] = 0 := List.count_eq_zero.mpr (by simp [hclose.symm])
  refine ⟨fun before h => ?_, by rw [hopens, hcloses]⟩
  have hends : closes before ≤ closes [c] := h.sublist.count_le ']'
  rw [hcloses] at hends
  exact Nat.le_trans hends (Nat.zero_le _)

/-- A symbol is read from no other character than its own. -/
theorem Symbol.eq_toChar {c : Char} {symbol : Symbol} (h : Symbol.ofChar? c = some symbol) :
    c = symbol.toChar := by
  unfold Symbol.ofChar? at h
  split at h <;> simp_all <;> subst h <;> rfl

/-- A comment is balanced. -/
theorem balanced_of_comment {c : Char} (h : Symbol.ofChar? c = none) : Balanced [c] := by
  apply balanced_singleton
  · rintro rfl
    cases h
  · rintro rfl
    cases h

/-- A balanced text between a loop start and a loop end is balanced. -/
theorem Balanced.enclose {inner : List Char} (h : Balanced inner) :
    Balanced ('[' :: (inner ++ [']'])) := by
  constructor
  · intro before hbefore
    rcases List.prefix_cons_iff.mp hbefore with rfl | ⟨start, rfl, hstart⟩
    · exact Nat.le_refl _
    · have hends : closes start ≤ opens start + 1 := by
        rcases prefix_append_cases hstart with hinner | ⟨final, hfinal, rfl⟩
        · exact Nat.le_trans (h.1 start hinner) (Nat.le_succ _)
        · have hcount : closes final ≤ 1 := hfinal.sublist.count_le ']'
          have hequal := h.2
          simp only [opens_append, closes_append]
          omega
      simpa [opens_cons, closes_cons] using hends
  · simp only [opens_cons, closes_cons, opens_append, closes_append, h.2]
    rfl

/-- A text that is not covered has a first loop end after a balanced text. -/
theorem exists_balanced_before_close {text : List Char} (h : ¬ Covered text) :
    ∃ inner rest, text = inner ++ ']' :: rest ∧ Balanced inner := by
  induction text using List.reverseRecOn with
  | nil => exact absurd balanced_nil.1 h
  | append_singleton text c ih =>
    by_cases hcovered : Covered text
    · -- The text itself is covered, so the one excess prefix is the whole, and `c` is its end.
      have hexcess : opens (text ++ [c]) < closes (text ++ [c]) := by
        by_contra hle
        apply h
        intro before hbefore
        rcases List.prefix_concat_iff.mp hbefore with rfl | hshort
        · exact Nat.not_lt.mp hle
        · exact hcovered before hshort
      have htotal := hcovered text List.prefix_rfl
      rw [opens_append, closes_append] at hexcess
      have hc : c = ']' := by
        by_contra hne
        have hzero : closes [c] = 0 := List.count_eq_zero.mpr (by simpa using Ne.symm hne)
        omega
      subst hc
      have hone : closes [']'] = 1 := rfl
      exact ⟨text, [], rfl, hcovered, by omega⟩
    · obtain ⟨inner, rest, rfl, hinner⟩ := ih hcovered
      exact ⟨inner, rest ++ [c], by simp, hinner⟩

/-- A text with a loop end after a balanced text is not covered. -/
theorem not_covered_of_balanced_before_close {inner rest : List Char} (h : Balanced inner) :
    ¬ Covered (inner ++ ']' :: rest) := by
  intro hcovered
  have hle := hcovered (inner ++ [']']) ⟨rest, by simp⟩
  rw [opens_append, closes_append, h.2] at hle
  change closes inner + 1 ≤ closes inner + 0 at hle
  omega

/-- The loop start at a position has a loop end: what stands between them is balanced. -/
def Matched (text : List Char) (position : Nat) : Prop :=
  ∃ before inner rest,
    text = before ++ '[' :: (inner ++ ']' :: rest) ∧ before.length = position ∧ Balanced inner

/-- A position holds a loop start without a loop end. -/
def UnmatchedOpen (text : List Char) (position : Nat) : Prop :=
  text[position]? = some '[' ∧ ¬ Matched text position

/-- A position holds a loop end after equally many loop starts and loop ends. -/
def UnmatchedClose (text : List Char) (position : Nat) : Prop :=
  text[position]? = some ']' ∧ opens (text.take position) = closes (text.take position)

instance (text : List Char) (position : Nat) : Decidable (UnmatchedClose text position) :=
  inferInstanceAs (Decidable (_ ∧ _))

/-- No loop end of a covered text is unmatched. -/
theorem Covered.not_unmatchedClose {text : List Char} {position : Nat} (h : Covered text) :
    ¬ UnmatchedClose text position := by
  rintro ⟨hclose, hequal⟩
  have hexcess := h (text.take (position + 1)) ( List.take_prefix _ _)
  rw [List.take_add_one, hclose, opens_append, closes_append, hequal] at hexcess
  change _ + 1 ≤ _ + 0 at hexcess
  omega

/-- The starts that stay open in a text, innermost first: they cut it into balanced pieces. -/
inductive OpenStarts : List Char → List Nat → Prop where
  | none {text : List Char} (h : Balanced text) : OpenStarts text []
  | some {before inner : List Char} {positions : List Nat} (hbefore : OpenStarts before positions)
      (hinner : Balanced inner) : OpenStarts (before ++ '[' :: inner) (before.length :: positions)

namespace OpenStarts

/-- A balanced text opens nothing. -/
theorem append_balanced {before inner : List Char} {positions : List Nat}
    (h : OpenStarts before positions) (hinner : Balanced inner) :
    OpenStarts (before ++ inner) positions := by
  cases h with
  | none hbalanced => exact .none (hbalanced.append hinner)
  | some hbefore hlast =>
    rw [List.append_assoc, List.cons_append]
    exact .some hbefore (hlast.append hinner)

/-- A loop start is the innermost open one. -/
theorem append_open {before : List Char} {positions : List Nat} (h : OpenStarts before positions) :
    OpenStarts (before ++ ['[']) (before.length :: positions) :=
  .some h balanced_nil

/-- A loop end closes the innermost open start. -/
theorem append_close {before : List Char} {position : Nat} {positions : List Nat}
    (h : OpenStarts before (position :: positions)) : OpenStarts (before ++ [']']) positions := by
  cases h with
  | some hbefore hinner =>
    rw [List.append_assoc, List.cons_append]
    exact hbefore.append_balanced hinner.enclose

/-- There is one more loop start than loop ends for each that stays open. -/
theorem opens_eq {text : List Char} {positions : List Nat} (h : OpenStarts text positions) :
    opens text = closes text + positions.length := by
  induction h with
  | none hbalanced => exact hbalanced.2
  | @some before inner positions _ hinner ih =>
    rw [opens_append, closes_append, opens_cons, closes_cons, ih, hinner.2, List.length_cons]
    simp only [if_true, Char.reduceEq, if_false]
    omega

/-- A text that is cut by its open starts is covered. -/
theorem covered {text : List Char} {positions : List Nat} (h : OpenStarts text positions) :
    Covered text := by
  induction h with
  | none hbalanced => exact hbalanced.1
  | @some before inner positions _ hinner ih =>
    rw [← List.singleton_append]
    have hstart : Covered ['['] := by
      intro start hstart
      rcases List.prefix_cons_iff.mp hstart with rfl | ⟨tail, rfl, htail⟩
      · decide
      · rw [List.prefix_nil.mp htail]
        decide
    exact ih.append (hstart.append hinner.1)

/-- Open starts lie within the text, further in the more of it comes before them. -/
theorem positions_lt {text : List Char} {positions : List Nat} (h : OpenStarts text positions) :
    positions.Pairwise (· > ·) ∧ ∀ position ∈ positions, text[position]? = Option.some '[' := by
  induction h with
  | none => simp
  | @some before inner positions _ _ ih =>
    have hlt : ∀ position ∈ positions, position < before.length := fun position hposition =>
      (List.getElem?_eq_some_iff.mp (ih.2 position hposition)).1
    refine ⟨List.pairwise_cons.mpr ⟨hlt, ih.1⟩, List.forall_mem_cons.mpr ⟨by simp, ?_⟩⟩
    intro position hposition
    rw [List.getElem?_append_left (hlt position hposition)]
    exact ih.2 position hposition

/-- With nothing open the text is balanced. -/
theorem balanced {text : List Char} (h : OpenStarts text []) : Balanced text := by
  cases h with
  | none hbalanced => exact hbalanced

/-- With a loop end for each open start the text is balanced. -/
theorem append_closers {text : List Char} {positions : List Nat} (h : OpenStarts text positions) :
    Balanced (text ++ List.replicate positions.length ']') := by
  induction positions generalizing text with
  | nil => simpa using h.balanced
  | cons position positions ih =>
    have hrest := ih h.append_close
    rwa [List.append_assoc, List.singleton_append] at hrest

/-- With something open the text is not balanced. -/
theorem not_balanced {text : List Char} {position : Nat} {positions : List Nat}
    (h : OpenStarts text (position :: positions)) : ¬ Balanced text := by
  intro hbalanced
  have hopens := h.opens_eq
  rw [hbalanced.2, List.length_cons] at hopens
  omega

/-- The innermost open start has no loop end. -/
theorem unmatchedOpen {text : List Char} {position : Nat} {positions : List Nat}
    (h : OpenStarts text (position :: positions)) : UnmatchedOpen text position := by
  cases h with
  | @some before inner _ _ hinner =>
    refine ⟨by simp, ?_⟩
    rintro ⟨before', inner', rest, htext, hlength, hinner'⟩
    obtain ⟨-, htail⟩ := List.append_inj htext hlength.symm
    rw [List.cons.injEq] at htail
    rw [htail.2] at hinner
    exact not_covered_of_balanced_before_close hinner' hinner.1

/-- Every start after the innermost open one has its loop end. -/
theorem unmatchedOpen_le {text : List Char} {position : Nat} {positions : List Nat}
    (h : OpenStarts text (position :: positions)) {later : Nat} (hlater : UnmatchedOpen text later) :
    later ≤ position := by
  cases h with
  | @some before inner _ _ hinner =>
    by_contra hlt
    obtain ⟨hstart, hunmatched⟩ := hlater
    -- The later start lies in the last balanced piece, at some index of it.
    obtain ⟨index, rfl⟩ : ∃ index, later = before.length + 1 + index :=
      ⟨later - (before.length + 1), by omega⟩
    rw [Nat.add_assoc, List.getElem?_append_right (Nat.le_add_right _ _), Nat.add_sub_cancel_left,
      Nat.add_comm 1 index, List.getElem?_cons_succ] at hstart
    obtain ⟨hindex, hchar⟩ := List.getElem?_eq_some_iff.mp hstart
    have hsplit : inner = inner.take index ++ '[' :: inner.drop (index + 1) := by
      rw [← hchar, List.getElem_cons_drop, List.take_append_drop]
    have hnot : ¬ Covered (inner.drop (index + 1)) := by
      intro hcovered
      have htail := hcovered _ List.prefix_rfl
      have hhead := hinner.1 (inner.take index) ( List.take_prefix _ _)
      have hequal := hinner.2
      rw [hsplit, opens_append, closes_append, opens_cons, closes_cons] at hequal
      simp only [if_true, Char.reduceEq, if_false] at hequal
      omega
    obtain ⟨nested, rest, hdrop, hnested⟩ := exists_balanced_before_close hnot
    apply hunmatched
    refine ⟨before ++ '[' :: inner.take index, nested, rest, ?_, ?_, hnested⟩
    · conv_lhs => rw [hsplit, hdrop]
      simp
    · simp only [List.length_append, List.length_cons, List.length_take]
      omega

/-- With nothing open, a loop end is the first that nothing matches. -/
theorem unmatchedClose {before : List Char} (h : OpenStarts before []) (rest : List Char) :
    UnmatchedClose (before ++ ']' :: rest) before.length := by
  refine ⟨by simp, ?_⟩
  rw [List.take_left]
  exact h.balanced.2

/-- A text that is cut by its open starts has no unmatched loop end. -/
theorem le_unmatchedClose {before : List Char} {positions : List Nat}
    (h : OpenStarts before positions) {rest : List Char} {earlier : Nat}
    (hearlier : UnmatchedClose (before ++ rest) earlier) : before.length ≤ earlier := by
  by_contra hlt
  obtain ⟨hclose, hequal⟩ := hearlier
  rw [List.getElem?_append_left (by omega)] at hclose
  rw [List.take_append_of_le_length (by omega)] at hequal
  exact h.covered.not_unmatchedClose ⟨hclose, hequal⟩

end OpenStarts

end BrainfuckWasm
