import Mathlib.Data.List.Chain
import BrainfuckWasm.Proofs.Listing.Reader
import BrainfuckWasm.Proofs.Relabel

/-!
# The lines of a body are read back

An instruction is written in plain characters, with at most one number in it. Stripped of its
margin and its line feed, its line is read as what the instruction does, and its label as the label
of the instruction. So whatever is read of the text of lines can be said of their instructions.
-/

namespace BrainfuckWasm

namespace Body

/-- What an instruction does, if it does anything by itself. -/
def Instruction.run? : Instruction → Option Run
  | .movedPointer amount => some (.moves amount)
  | .storeChanged amount => some (.changes amount)
  | .put => some .output
  | .get => some .input
  | .block _ => some .loopStart
  | .againUnlessZero _ => some .loopEnd
  | _ => none

/-- The label in an instruction. -/
def Instruction.mark? : Instruction → Option Listing.Mark
  | .block label => some ⟨.block, label⟩
  | .loop label => some ⟨.loop, label⟩
  | .leaveIfZero label => some ⟨.entry, label⟩
  | .againUnlessZero label => some ⟨.again, label⟩
  | _ => none

/-- What lines do, in their order. -/
def runsOf (lines : List Line) : List Run :=
  lines.filterMap fun line => line.instruction.run?

/-- The labels in lines, in their order. -/
def marksOf (lines : List Line) : List Listing.Mark :=
  lines.filterMap fun line => line.instruction.mark?

/-- What lines do comes piece by piece. -/
theorem runsOf_append (first second : List Line) :
    runsOf (first ++ second) = runsOf first ++ runsOf second :=
  List.filterMap_append

/-- Labels come piece by piece. -/
theorem marksOf_append (first second : List Line) :
    marksOf (first ++ second) = marksOf first ++ marksOf second :=
  List.filterMap_append

end Body

namespace Listing

open Text Body

/-- What the line of a changed operand has before its constant. -/
def changeHead (up : Bool) (operand : String) : String :=
  "(" ++ (if up then "i32.add" else "i32.sub") ++ " " ++ operand ++ " "

/-- What a conditional branch has after its label. -/
def branchTail (mode : Addressing) (test : String) : String :=
  " (" ++ test ++ " " ++ cellText mode ++ " " ++ constText 0 ++ "))"

/-- The characters of a changed operand. -/
theorem toList_changedText (operand : String) (amount : Int) :
    (changedText operand amount).toList =
      (changeHead (decide (amount > 0)) operand).toList ++
        numbered "(i32.const " amount.natAbs "))" := by
  simp [changedText, changeHead, constText, numbered]

/-- The characters of the line that moves the pointer. -/
theorem toList_movedPointer (mode : Addressing) (amount : Int) :
    ((Instruction.movedPointer amount).text mode).toList =
      (changeHead (decide (amount > 0)) (pointerText mode)).toList ++
        numbered "(i32.const " amount.natAbs "))" :=
  toList_changedText _ _

/-- The characters of the line that changes the cell. -/
theorem toList_storeChanged (mode : Addressing) (amount : Int) :
    ((Instruction.storeChanged amount).text mode).toList =
      ("(i32.store8 " ++ changeHead (decide (amount > 0)) (cellText mode)).toList ++
        numbered "(i32.const " amount.natAbs ")))" := by
  change ("(i32.store8 " ++ changedText (cellText mode) amount ++ ")").toList = _
  simp [toList_changedText, numbered]

/-- The characters of the line that opens a block. -/
theorem toList_block (mode : Addressing) (label : Nat) :
    ((Instruction.block label).text mode).toList = numbered "(block $label$" label "" := by
  change ("(block " ++ labelText label).toList = _
  simp [labelText, numbered]

/-- The characters of the line that opens a loop. -/
theorem toList_loop (mode : Addressing) (label : Nat) :
    ((Instruction.loop label).text mode).toList = numbered "(loop $label$" label "" := by
  change ("(loop " ++ labelText label).toList = _
  simp [labelText, numbered]

/-- The characters of the line that leaves a block. -/
theorem toList_leaveIfZero (mode : Addressing) (label : Nat) :
    ((Instruction.leaveIfZero label).text mode).toList =
      numbered "(br_if $label$" label (branchTail mode "i32.eq") := by
  change ("(br_if " ++ labelText label ++ " (i32.eq " ++ cellText mode ++ " " ++ constText 0 ++
    "))").toList = _
  simp [labelText, numbered, branchTail]

/-- The characters of the line that repeats a loop. -/
theorem toList_againUnlessZero (mode : Addressing) (label : Nat) :
    ((Instruction.againUnlessZero label).text mode).toList =
      numbered "(br_if $label$" label (branchTail mode "i32.ne") := by
  change ("(br_if " ++ labelText label ++ " (i32.ne " ++ cellText mode ++ " " ++ constText 0 ++
    "))").toList = _
  simp [labelText, numbered, branchTail]

/-- The end of the line that gets a value is no end of a text without its capital. -/
theorem isSuffixOf_getChar_eq_false {text : List Char} (h : 'C' ∉ text) :
    "(call $getChar))".toList.isSuffixOf text = false := by
  rw [← Bool.not_eq_true, List.isSuffixOf_iff_suffix]
  exact fun hsuffix => h (hsuffix.subset (by decide))

/-- A magnitude with the sign of its amount is the amount. -/
theorem signed_natAbs (amount : Int) : signed (decide (amount > 0)) amount.natAbs = amount := by
  by_cases h : amount > 0
  · simp only [signed, h, decide_true, if_true]
    omega
  · simp only [signed, h, decide_false, Bool.false_eq_true, if_false]
    omega

/-- The line that moves the pointer is read as its move. -/
theorem readCore_movedPointer (mode : Addressing) (amount : Int) :
    readCore ((Instruction.movedPointer amount).text mode).toList =
      some (some (.moves amount)) := by
  have hamount := signed_natAbs amount
  rw [toList_movedPointer, readCore, amount?_numbered _ _ (Or.inl rfl)]
  generalize decide (amount > 0) = up at hamount
  cases mode <;> cases up <;>
    simp [moveHeads, changeHead, pointerText, Addressing.word, List.isPrefixOf, hamount]

/-- The line that changes the cell is read as its change. -/
theorem readCore_storeChanged (mode : Addressing) (amount : Int) :
    readCore ((Instruction.storeChanged amount).text mode).toList =
      some (some (.changes amount)) := by
  have hamount := signed_natAbs amount
  rw [toList_storeChanged, readCore, amount?_numbered _ _ (Or.inr rfl)]
  generalize decide (amount > 0) = up at hamount
  cases up <;> simp [moveHeads, changeHead, List.isPrefixOf, hamount]

/-- A line without a number's operation at its beginning, and not about the host, is read by what it
opens or repeats. -/
theorem readCore_eq {text : List Char} (hstart : ¬ "(i32.".toList <+: text)
    (hcapital : 'C' ∉ text) :
    readCore text =
      if "(block".toList.isPrefixOf text then some (some .loopStart)
      else if "(br_if".toList.isPrefixOf text ∧ "i32.ne".toList <:+: text then some (some .loopEnd)
      else some none := by
  have hother {head : String} (hhead : "(i32.".toList <+: head.toList) :
      ¬ head.toList.isPrefixOf text = true :=
    fun h => hstart (hhead.trans (List.isPrefixOf_iff_prefix.mp h))
  have hmove : ¬ (moveHeads.any fun head => head.toList.isPrefixOf text) = true := by
    rw [List.any_eq_true]
    rintro ⟨head, hmem, hprefix⟩
    have hheads : ∀ head ∈ moveHeads, "(i32.".toList <+: head.toList := by decide
    exact hother (hheads head hmem) hprefix
  have hput : text ≠ "(call $putChar)".toList := by
    rintro rfl
    exact hcapital (by simp)
  rw [readCore, if_neg hmove, if_neg (hother (by decide)), if_neg hput,
    isSuffixOf_getChar_eq_false hcapital]
  rfl

/-- The line that opens a block is read as the start of a loop. -/
theorem readCore_block (mode : Addressing) (label : Nat) :
    readCore ((Instruction.block label).text mode).toList = some (some .loopStart) := by
  have hcapital : 'C' ∉ numbered "(block $label$" label "" :=
    not_mem_numbered label rfl (by simp) (by simp)
  rw [toList_block, readCore_eq (by simp [numbered]) hcapital]
  simp [numbered]

/-- The line that opens a loop is read as nothing. -/
theorem readCore_loop (mode : Addressing) (label : Nat) :
    readCore ((Instruction.loop label).text mode).toList = some none := by
  have hcapital : 'C' ∉ numbered "(loop $label$" label "" :=
    not_mem_numbered label rfl (by simp) (by simp)
  rw [toList_loop, readCore_eq (by simp [numbered]) hcapital]
  simp [numbered]

/-- A conditional branch is read by its test. -/
theorem readCore_branch {tail : String} (label : Nat) (htail : 'C' ∉ tail.toList) :
    readCore (numbered "(br_if $label$" label tail) =
      if "i32.ne".toList <:+: numbered "(br_if $label$" label tail then some (some .loopEnd)
      else some none := by
  have hcapital : 'C' ∉ numbered "(br_if $label$" label tail :=
    not_mem_numbered label rfl (by simp) htail
  have hblock : ¬ "(block".toList.isPrefixOf (numbered "(br_if $label$" label tail) = true := by
    simp [numbered]
  have hbranch : "(br_if".toList.isPrefixOf (numbered "(br_if $label$" label tail) = true := by
    simp [numbered]
  rw [readCore_eq (by simp [numbered]) hcapital, if_neg hblock,
    hbranch]
  simp only [true_and]

/-- The line that repeats a loop is read as its end. -/
theorem readCore_againUnlessZero (mode : Addressing) (label : Nat) :
    readCore ((Instruction.againUnlessZero label).text mode).toList = some (some .loopEnd) := by
  have htail : "i32.ne".toList <:+: (branchTail mode "i32.ne").toList := by
    cases mode <;> decide
  have htest : "i32.ne".toList <:+: numbered "(br_if $label$" label (branchTail mode "i32.ne") :=
    htail.trans ((List.suffix_append _ _).trans (List.suffix_append _ _)).isInfix
  have hcapital : 'C' ∉ (branchTail mode "i32.ne").toList := by cases mode <;> decide +kernel
  rw [toList_againUnlessZero, readCore_branch label hcapital, if_pos htest]

/-- The line that leaves a block is read as nothing. -/
theorem readCore_leaveIfZero (mode : Addressing) (label : Nat) :
    readCore ((Instruction.leaveIfZero label).text mode).toList = some none := by
  -- The other test has a dot before an n, and this line has none, also where its number stands.
  have hdigits : (Nat.toDigits 10 label).IsChain fun a b => ¬ (a = '.' ∧ b = 'n') := by
    refine (List.pairwise_of_forall_mem_list fun a ha b _ h => ?_).isChain
    have hdigit := isDigit_of_mem ha
    rw [h.1] at hdigit
    cases hdigit
  have hline : (numbered "(br_if $label$" label (branchTail mode "i32.eq")).IsChain
      fun a b => ¬ (a = '.' ∧ b = 'n') := by
    refine (show List.IsChain _ _ by decide).append (hdigits.append ?_ ?_) ?_
    · cases mode <;> decide
    · intro a ha b _ h
      have hdigit := isDigit_of_mem (List.mem_of_getLast? ha)
      rw [h.1] at hdigit
      cases hdigit
    · intro a ha b _ h
      obtain rfl : '$' = a := Option.mem_some.mp ha
      cases h.1
  have htest : ¬ "i32.ne".toList <:+: numbered "(br_if $label$" label (branchTail mode "i32.eq") :=
    fun h => absurd ( List.IsChain.infix hline h) (by decide)
  have hcapital : 'C' ∉ (branchTail mode "i32.eq").toList := by cases mode <;> decide +kernel
  rw [toList_leaveIfZero, readCore_branch label hcapital, if_neg htest]

/-- The line of an instruction is read as what the instruction does. -/
theorem readCore_text (mode : Addressing) (instruction : Instruction) :
    readCore (instruction.text mode).toList = some instruction.run? := by
  cases instruction with
  | movedPointer amount => exact readCore_movedPointer mode amount
  | storeChanged amount => exact readCore_storeChanged mode amount
  | block label => exact readCore_block mode label
  | loop label => exact readCore_loop mode label
  | leaveIfZero label => exact readCore_leaveIfZero mode label
  | againUnlessZero label => exact readCore_againUnlessZero mode label
  | setPointer | pointer | cell | put | get | close => cases mode <;> decide +kernel

/-- In an unmarked text no dollar sign has the letter of a label mark after it. -/
theorem not_infix_of_unmarked {text : List Char} (h : unmarked text = true) :
    ¬ ['$', 'l'] <:+: text := by
  induction text using unmarked.induct with
  | case1 => simp
  | case2 c =>
    intro hinfix
    have hlength := hinfix.length_le
    simp at hlength
  | case3 c next rest ih =>
    rw [unmarked, Bool.and_eq_true] at h
    rw [List.infix_cons_iff, not_or]
    refine ⟨?_, ih h.2⟩
    rintro ⟨tail, htail⟩
    obtain ⟨rfl, rfl, -⟩ : '$' = c ∧ 'l' = next ∧ _ := by simpa using htail
    simp at h

/-- No number is read after a head that a text does not begin with. -/
theorem numberBetween?_of_not_head (head tail : String) {text : List Char}
    (h : ¬ head.toList <+: text) : numberBetween? head tail text = none := by
  rw [numberBetween?, if_neg]
  exact fun hread => h (List.isPrefixOf_iff_prefix.mp hread.1)

/-- A line without a label mark is not read by a head that has one. -/
theorem numberBetween?_of_unmarked {head : String} (tail : String) {text : List Char}
    (hhead : ['$', 'l'] <:+: head.toList) (htext : unmarked text = true) :
    numberBetween? head tail text = none := by
  apply numberBetween?_of_not_head
  exact fun h => not_infix_of_unmarked htext (hhead.trans h.isInfix)

/-- A line without a label has no label mark. -/
theorem unmarked_text (mode : Addressing) {instruction : Instruction}
    (h : instruction.mark? = none) : unmarked (instruction.text mode).toList = true := by
  cases instruction with
  | movedPointer amount => exact unmarked_changedText (unmarked_pointerText mode) amount
  | storeChanged amount =>
    change unmarked ("(i32.store8 " ++ changedText (cellText mode) amount ++ ")").toList = true
    rw [String.toList_append, String.toList_append]
    exact unmarked_append (unmarked_append (by decide)
      (unmarked_changedText (unmarked_cellText mode) amount)) (by decide)
  | pointer => exact unmarked_pointerText mode
  | cell => exact unmarked_cellText mode
  | setPointer | put | get | close => cases mode <;> decide +kernel
  | block label | loop label | leaveIfZero label | againUnlessZero label => cases h

/-- No label is read from a line without a label mark. -/
theorem mark?_of_unmarked {text : List Char} (h : unmarked text = true) : mark? text = none := by
  have hblock : ['$', 'l'] <:+: "(block $label$".toList := by decide
  have hloop : ['$', 'l'] <:+: "(loop $label$".toList := by decide
  have hbranch : ['$', 'l'] <:+: "(br_if $label$".toList := by decide
  simp [mark?, numberBetween?_of_unmarked _ hblock h, numberBetween?_of_unmarked _ hloop h,
    numberBetween?_of_unmarked _ hbranch h]

/-- The label of a branch is read by its test. -/
theorem mark?_branch (mode : Addressing) (test : String) (label : Nat) :
    mark? (numbered "(br_if $label$" label (branchTail mode test)) =
      ((if " (i32.eq".toList.isPrefixOf (branchTail mode test).toList then some label
        else none).map (Mark.mk .entry)).or
      ((if " (i32.ne".toList.isPrefixOf (branchTail mode test).toList then some label
        else none).map (Mark.mk .again)) := by
  have hblank : ∀ c ∈ (branchTail mode test).toList.head?, isDecimalDigit c = false := by
    simp only [branchTail, String.toList_append, List.append_assoc]
    intro c hc
    obtain rfl : ' ' = c := Option.mem_some.mp hc
    decide
  rw [mark?, numberBetween?_of_not_head "(block $label$" _ (by simp [numbered]),
    numberBetween?_of_not_head "(loop $label$" _ (by simp [numbered]),
    numberBetween?_numbered _ _ label hblank, numberBetween?_numbered _ _ label hblank,
    Option.map_none, Option.none_or, Option.map_none, Option.none_or]

/-- The label of a line is that of its instruction. -/
theorem mark?_text (mode : Addressing) (instruction : Instruction) :
    mark? (instruction.text mode).toList = instruction.mark? := by
  cases instruction with
  | block label =>
    rw [toList_block, mark?, numberBetween?_numbered _ _ label (by simp)]
    rfl
  | loop label =>
    rw [toList_loop, mark?, numberBetween?_of_not_head _ _ (by simp [numbered]),
      numberBetween?_numbered _ _ label (by simp)]
    rfl
  | leaveIfZero label =>
    rw [toList_leaveIfZero, mark?_branch, if_pos (by simp [branchTail])]
    rfl
  | againUnlessZero label =>
    rw [toList_againUnlessZero, mark?_branch, if_neg (by simp [branchTail, List.isPrefixOf]),
      if_pos (by simp [branchTail])]
    rfl
  | _ => exact mark?_of_unmarked (unmarked_text mode rfl)

/-! ## From lines to the text -/

/-- A character of the printable part of ASCII. -/
def isPlain (c : Char) : Bool :=
  0x20 ≤ c.toNat && c.toNat < 0x7F

/-- No plain character ends a line. -/
theorem isLineEnd_of_isPlain {c : Char} (h : isPlain c = true) : isLineEnd c = false := by
  simp only [isPlain, Bool.and_eq_true, decide_eq_true_eq] at h
  simp only [isLineEnd, Bool.or_eq_false_iff, Bool.and_eq_false_iff, decide_eq_false_iff_not,
    beq_eq_false_iff_ne]
  omega

/-- Digits are plain and not blank. -/
theorem plain_of_isDigit {c : Char} (h : c.isDigit = true) :
    isPlain c = true ∧ isBlank c = false := by
  have hrange : 0x30 ≤ c.toNat ∧ c.toNat ≤ 0x39 := by
    simpa [Char.isDigit, UInt32.le_iff_toNat_le] using h
  constructor
  · simp only [isPlain, Bool.and_eq_true, decide_eq_true_eq]
    omega
  · simp only [isBlank, Bool.or_eq_false_iff, Bool.and_eq_false_iff, decide_eq_false_iff_not,
      beq_eq_false_iff_ne]
    omega

/-- A text that stripping leaves as it is and that fits in one line. -/
structure Solid (text : List Char) : Prop where
  plain : text.all isPlain = true
  first : text.head?.any (!isBlank ·) = true
  last : text.getLast?.any (!isBlank ·) = true

instance (text : List Char) : Decidable (Solid text) :=
  decidable_of_iff (text.all isPlain = true ∧ text.head?.any (!isBlank ·) = true ∧
      text.getLast?.any (!isBlank ·) = true)
    ⟨fun h => ⟨h.1, h.2.1, h.2.2⟩, fun h => ⟨h.plain, h.first, h.last⟩⟩

/-- A solid text has characters. -/
theorem Solid.ne_nil {text : List Char} (h : Solid text) : text ≠ [] := by
  rintro rfl
  cases h.first

/-- A number within plain characters is solid if what is before it begins and what is after it ends
without a blank. -/
theorem Solid.number {head tail : List Char} (n : Nat)
    (hhead : head.all isPlain = true ∧ head.head?.any (!isBlank ·) = true)
    (htail : tail.all isPlain = true ∧ tail.getLast?.all (!isBlank ·) = true) :
    Solid (head ++ (Nat.toDigits 10 n ++ tail)) where
  plain := by
    have hdigits : (Nat.toDigits 10 n).all isPlain = true :=
      List.all_eq_true.mpr fun c hc => (plain_of_isDigit (isDigit_of_mem hc)).1
    rw [List.all_append, List.all_append, hhead.1, hdigits, htail.1]
    rfl
  first := by
    cases head with
    | nil => cases hhead.2
    | cons c rest => exact hhead.2
  last := by
    rw [← List.append_assoc]
    cases hlast : tail.getLast? with
    | none =>
      rw [List.getLast?_eq_none_iff.mp hlast, List.append_nil,
        List.getLast?_append_of_ne_nil _ Nat.toDigits_ne_nil,
        List.getLast?_eq_some_getLast Nat.toDigits_ne_nil, Option.any_some,
        (plain_of_isDigit (isDigit_of_mem (List.getLast_mem _))).2]
      rfl
    | some c =>
      have hblank := htail.2
      rw [hlast, Option.all_some] at hblank
      rw [List.getLast?_append, hlast, Option.some_or, Option.any_some, hblank]

/-- The text of an instruction is solid. -/
theorem solid_text (mode : Addressing) (instruction : Instruction) :
    Solid (instruction.text mode).toList := by
  cases instruction with
  | movedPointer amount =>
    rw [toList_movedPointer, numbered, ← List.append_assoc]
    generalize decide (amount > 0) = up
    exact .number _ (by cases mode <;> cases up <;> decide +kernel) (by decide)
  | storeChanged amount =>
    rw [toList_storeChanged, numbered, ← List.append_assoc]
    generalize decide (amount > 0) = up
    exact .number _ (by cases mode <;> cases up <;> decide +kernel) (by decide)
  | block label =>
    rw [toList_block]
    exact .number _ (by decide) (by decide)
  | loop label =>
    rw [toList_loop]
    exact .number _ (by decide) (by decide)
  | leaveIfZero label =>
    rw [toList_leaveIfZero]
    exact .number _ (by decide) (by cases mode <;> decide +kernel)
  | againUnlessZero label =>
    rw [toList_againUnlessZero]
    exact .number _ (by decide) (by cases mode <;> decide +kernel)
  | setPointer | pointer | cell | put | get | close => cases mode <;> decide +kernel

/-- A rendered line is its margin, the text of its instruction and a line feed. -/
theorem toList_render (mode : Addressing) (line : Line) : (line.render mode).toList =
    List.replicate line.width.toNat ' ' ++ ((line.instruction.text mode).toList ++ ['\n']) := by
  simp [Line.render, margin]

/-- What is between the blanks of a rendered line is the text of its instruction. -/
theorem core_render (mode : Addressing) (line : Line) :
    core (line.render mode) = (line.instruction.text mode).toList := by
  have hsolid := solid_text mode line.instruction
  rw [core, toList_render, trimBoth]
  generalize (line.instruction.text mode).toList = text at hsolid
  have hspace (c : Char) (h : c ∈ List.replicate line.width.toNat ' ') : isBlank c = true := by
    rw [List.eq_of_mem_replicate h]
    decide
  have hfirst : ∀ c ∈ (text ++ ['\n']).head?, isBlank c = false := by
    intro c hc
    rw [List.head?_append_of_ne_nil _ hsolid.ne_nil, Option.mem_def] at hc
    simpa [hc] using hsolid.first
  have hlast : ∀ c ∈ text.reverse.head?, isBlank c = false := by
    intro c hc
    rw [List.head?_reverse, Option.mem_def] at hc
    simpa [hc] using hsolid.last
  have hfeed : ∀ c ∈ ['\n'], isBlank c = true := List.forall_mem_singleton.mpr rfl
  rw [(while_append hspace hfirst).2, List.reverse_append, List.reverse_singleton,
    (while_append hfeed hlast).2, List.reverse_reverse]

/-- The first line of a text ends where its first line end is. -/
theorem cutLines_append {line : List Char} (h : ∀ c ∈ line, isLineEnd c = false)
    (rest : List Char) : cutLines (line ++ '\n' :: rest) = (line ++ ['\n']) :: cutLines rest := by
  induction line with
  | nil => rfl
  | cons c line ih =>
    rw [List.forall_mem_cons] at h
    rw [List.cons_append, cutLines, h.1, ih h.2]
    rfl

/-- The lines of rendered text are the rendered lines. -/
theorem textLines_join (mode : Addressing) (lines : List Line) :
    textLines (String.join (lines.map (Line.render mode))) = lines.map (Line.render mode) := by
  induction lines with
  | nil => rfl
  | cons line rest ih =>
    have hplain : ∀ c ∈ List.replicate line.width.toNat ' ' ++
        (line.instruction.text mode).toList, isLineEnd c = false := by
      intro c hc
      rcases List.mem_append.mp hc with hin | hin
      · rw [List.eq_of_mem_replicate hin]
        decide
      · have hplain := List.all_eq_true.mp (solid_text mode line.instruction).plain
        exact isLineEnd_of_isPlain (hplain c hin)
    rw [textLines, List.map_cons, String.join_cons, String.toList_append, toList_render,
      ← List.append_assoc, List.append_assoc, List.singleton_append, cutLines_append hplain,
      List.map_cons]
    refine congrArg₂ List.cons ?_ ih
    rw [List.append_assoc, ← toList_render, String.ofList_toList]

/-- Lines do what their instructions do. -/
theorem readLines_render (mode : Addressing) (lines : List Line) :
    readLines (lines.map (Line.render mode)) = some (runsOf lines) := by
  induction lines with
  | nil => rfl
  | cons line rest ih =>
    rw [List.map_cons, readLines, core_render, readCore_text, ih, runsOf, runsOf,
      List.filterMap_cons]
    cases line.instruction.run? with
    | none => rfl
    | some run => rfl

/-- The text of lines does what their instructions do. -/
theorem decode_join (mode : Addressing) (lines : List Line) :
    decode (String.join (lines.map (Line.render mode))) = some (runsOf lines) := by
  rw [decode, textLines_join, readLines_render]

/-- The labels in the text of lines are those of their instructions. -/
theorem marks_join (mode : Addressing) (lines : List Line) :
    marks (String.join (lines.map (Line.render mode))) = marksOf lines := by
  rw [marks, textLines_join, List.filterMap_map]
  refine List.filterMap_congr fun line _ => ?_
  rw [Function.comp_apply, core_render, mark?_text]

end Listing

end BrainfuckWasm
