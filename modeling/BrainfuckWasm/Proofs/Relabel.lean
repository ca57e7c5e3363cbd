import BrainfuckWasm.Proofs.Typesetting

/-!
# Shifting the labels of a text

Labels are recognised in the text alone, by the mark that comes before their number. Shifting adds
one offset to every such number and leaves all else as it is. On typeset lines this is the same as
shifting the labels of the instructions, because no other text of an instruction contains the mark
and no digit follows a label's number.
-/

namespace BrainfuckWasm.Body

/-- What comes before the number of a label. -/
def labelMark : List Char :=
  ['$', 'l', 'a', 'b', 'e', 'l', '$']

/-- Digits with an offset added to their number; without digits there is nothing to add to. -/
def shiftDigits (offset : Nat) (digits : List Char) : List Char :=
  if digits = [] then [] else Nat.toDigits 10 (Nat.ofDigitChars 10 digits 0 + offset)

/-- Characters with an offset added to the number after every label mark. -/
def relabelChars (offset : Nat) : List Char → List Char
  | [] => []
  | c :: rest =>
    if labelMark.isPrefixOf (c :: rest) then
      labelMark ++ shiftDigits offset ((rest.drop 6).takeWhile Char.isDigit) ++
        relabelChars offset ((rest.drop 6).dropWhile Char.isDigit)
    else c :: relabelChars offset rest
termination_by text => text.length
decreasing_by
  · have hdigits := (List.dropWhile_suffix Char.isDigit (l := rest.drop 6)).length_le
    simp only [List.length_drop, List.length_cons] at hdigits ⊢
    omega
  · simp

/-- A text with an offset added to the number after every label mark. -/
def relabel (offset : Nat) (text : String) : String :=
  String.ofList (relabelChars offset text.toList)

/-- Every dollar sign of a piece is followed by a character that no label mark has there. -/
def unmarked : List Char → Bool
  | [] => true
  | [c] => c != '$'
  | c :: next :: rest => (c != '$' || next != 'l') && unmarked (next :: rest)

/-- A label mark begins with a dollar sign and the letter after it. -/
theorem isPrefixOf_labelMark_eq_false {c next : Char} (h : (c != '$' || next != 'l') = true)
    (rest : List Char) : labelMark.isPrefixOf (c :: next :: rest) = false := by
  rw [labelMark, List.isPrefixOf, List.isPrefixOf, Bool.and_eq_false_iff, Bool.and_eq_false_iff]
  simp only [Bool.or_eq_true, bne_iff_ne, ne_eq] at h
  rcases h with hc | hnext
  · exact Or.inl (by simpa using Ne.symm hc)
  · exact Or.inr (Or.inl (by simpa using Ne.symm hnext))

/-- Relabelling passes over a piece without marks. -/
theorem relabelChars_append_of_unmarked (offset : Nat) {piece : List Char}
    (h : unmarked piece = true) (rest : List Char) :
    relabelChars offset (piece ++ rest) = piece ++ relabelChars offset rest := by
  induction piece using unmarked.induct with
  | case1 => rfl
  | case2 c =>
    have hmark : labelMark.isPrefixOf (c :: rest) = false := by
      simp only [unmarked, bne_iff_ne, ne_eq] at h
      simp [labelMark, List.isPrefixOf, Ne.symm h]
    rw [List.singleton_append, relabelChars, hmark]
    rfl
  | case3 c next piece ih =>
    rw [unmarked, Bool.and_eq_true] at h
    rw [List.cons_append, List.cons_append, relabelChars,
      isPrefixOf_labelMark_eq_false h.1]
    exact congrArg (c :: ·) (ih h.2)

/-- Pieces without marks may be joined, as none ends in a dollar sign. -/
theorem unmarked_append {first second : List Char} (hfirst : unmarked first = true)
    (hsecond : unmarked second = true) : unmarked (first ++ second) = true := by
  induction first using unmarked.induct with
  | case1 => exact hsecond
  | case2 c =>
    cases second with
    | nil => exact hfirst
    | cons next rest =>
      rw [unmarked] at hfirst
      rw [List.singleton_append, unmarked, hfirst, hsecond]
      rfl
  | case3 c next rest ih =>
    rw [unmarked, Bool.and_eq_true] at hfirst
    rw [List.cons_append, List.cons_append, unmarked, hfirst.1]
    exact ih hfirst.2

/-- A piece without dollar signs has no marks. -/
theorem unmarked_of_not_mem {piece : List Char} (h : '$' ∉ piece) : unmarked piece = true := by
  induction piece using unmarked.induct with
  | case1 => rfl
  | case2 c =>
    rw [unmarked, bne_iff_ne]
    exact fun hc => h (hc ▸ List.mem_singleton_self c)
  | case3 c next rest ih =>
    rw [List.mem_cons, not_or] at h
    rw [unmarked, ih h.2, bne_iff_ne.mpr (Ne.symm h.1)]
    rfl

/-- The digits of a number have no marks. -/
theorem unmarked_toString (n : Nat) : unmarked (toString n).toList = true := by
  apply unmarked_of_not_mem
  intro h
  rw [Nat.toString_eq_repr, Nat.toList_repr] at h
  have hdigit := Nat.isDigit_of_mem_toDigits (by decide) (by decide) h
  cases hdigit

/-- The number of a label is shifted if no digit follows it. -/
theorem relabelChars_labelText (offset label : Nat) {c : Char} (h : c.isDigit = false)
    (rest : List Char) :
    relabelChars offset ((labelText label).toList ++ c :: rest) =
      (labelText (label + offset)).toList ++ relabelChars offset (c :: rest) := by
  have hlabel (n : Nat) : (labelText n).toList = labelMark ++ Nat.toDigits 10 n := by
    rw [labelText, String.toList_append, Nat.toString_eq_repr, Nat.toList_repr]
    rfl
  have hdigits (d : Char) (hd : d ∈ Nat.toDigits 10 label) : d.isDigit = true :=
    Nat.isDigit_of_mem_toDigits (by decide) (by decide) hd
  have htake : (Nat.toDigits 10 label ++ c :: rest).takeWhile Char.isDigit =
      Nat.toDigits 10 label := by
    rw [List.takeWhile_append_of_pos hdigits, List.takeWhile_cons_of_neg (by simp [h]),
      List.append_nil]
  have hdrop : (Nat.toDigits 10 label ++ c :: rest).dropWhile Char.isDigit = c :: rest := by
    rw [List.dropWhile_append_of_pos hdigits, List.dropWhile_cons_of_neg (by simp [h])]
  rw [hlabel, hlabel, List.append_assoc]
  change relabelChars offset ('$' :: (['l', 'a', 'b', 'e', 'l', '$'] ++ _)) = _
  rw [relabelChars, if_pos (by rfl)]
  change labelMark ++ shiftDigits offset (List.takeWhile _ (Nat.toDigits 10 label ++ c :: rest)) ++
    relabelChars offset (List.dropWhile _ (Nat.toDigits 10 label ++ c :: rest)) = _
  rw [htake, hdrop, shiftDigits, if_neg Nat.toDigits_ne_nil, Nat.ofDigitChars_ten_toDigits]

/-- An instruction with an offset added to its label. -/
def Instruction.shift (offset : Nat) : Instruction → Instruction
  | .block label => .block (label + offset)
  | .leaveIfZero label => .leaveIfZero (label + offset)
  | .loop label => .loop (label + offset)
  | .againUnlessZero label => .againUnlessZero (label + offset)
  | other => other

/-- A line with an offset added to its label. -/
def Line.shift (offset : Nat) (line : Line) : Line :=
  ⟨line.width, line.instruction.shift offset⟩

/-- The text of a pointer has no marks. -/
theorem unmarked_pointerText (mode : Addressing) : unmarked (pointerText mode).toList = true := by
  cases mode <;> decide

/-- The text of a cell has no marks. -/
theorem unmarked_cellText (mode : Addressing) : unmarked (cellText mode).toList = true := by
  cases mode <;> decide

/-- The text of a constant has no marks. -/
theorem unmarked_constText (n : Nat) : unmarked (constText n).toList = true := by
  change unmarked ("(i32.const " ++ toString n ++ ")").toList = true
  rw [String.toList_append, String.toList_append]
  exact unmarked_append (unmarked_append (by decide) (unmarked_toString n)) (by decide)

/-- The text of a change has no marks if its operand has none. -/
theorem unmarked_changedText {operand : String} (h : unmarked operand.toList = true)
    (amount : Int) : unmarked (changedText operand amount).toList = true := by
  have hname : unmarked (if amount > 0 then "i32.add" else "i32.sub").toList = true := by
    split <;> decide
  have hspace : unmarked " ".toList = true := by decide
  simp only [changedText, String.toList_append]
  exact unmarked_append (unmarked_append (unmarked_append (unmarked_append (unmarked_append
    (unmarked_append (by decide) hname) hspace) h) hspace) (unmarked_constText _)) (by decide)

/-- Relabelling a conditional branch shifts its label: a blank follows it, and no mark after that.
-/
theorem relabelChars_branch (offset label : Nat) (mode : Addressing) {test : String}
    {name : List Char} (htest : test.toList = ' ' :: name) (h : unmarked test.toList = true)
    (rest : List Char) :
    relabelChars offset (("(br_if " ++ labelText label ++ test ++ cellText mode ++ " " ++
        constText 0 ++ "))").toList ++ rest) =
      ("(br_if " ++ labelText (label + offset) ++ test ++ cellText mode ++ " " ++
        constText 0 ++ "))").toList ++ relabelChars offset rest := by
  have hword : unmarked "(br_if ".toList = true := by decide
  have hspace : unmarked " ".toList = true := by decide
  have hclose : unmarked "))".toList = true := by decide
  have htail := unmarked_append (unmarked_append (unmarked_append (unmarked_append h
    (unmarked_cellText mode)) hspace) (unmarked_constText 0)) hclose
  have hsplit (n : Nat) (after : List Char) :
      ("(br_if " ++ labelText n ++ test ++ cellText mode ++ " " ++ constText 0 ++ "))").toList ++
        after = "(br_if ".toList ++ ((labelText n).toList ++
          (test.toList ++ (cellText mode).toList ++ " ".toList ++ (constText 0).toList ++
            "))".toList ++ after)) := by
    simp only [String.toList_append, List.append_assoc]
  rw [hsplit, hsplit, relabelChars_append_of_unmarked offset hword,
    ← relabelChars_append_of_unmarked offset htail]
  simp only [htest, List.cons_append]
  rw [relabelChars_labelText offset label rfl]

/-- Relabelling the opening of a block or a loop shifts its label. -/
theorem relabelChars_opening (offset label : Nat) {word : String} (h : unmarked word.toList = true)
    (rest : List Char) :
    relabelChars offset ((word ++ labelText label).toList ++ '\n' :: rest) =
      (word ++ labelText (label + offset)).toList ++ relabelChars offset ('\n' :: rest) := by
  rw [String.toList_append, String.toList_append, List.append_assoc, List.append_assoc,
    relabelChars_append_of_unmarked offset h, relabelChars_labelText offset label rfl]

/-- Relabelling the text of an instruction at the end of its line shifts its label. -/
theorem relabelChars_text (offset : Nat) (mode : Addressing) (instruction : Instruction)
    (rest : List Char) :
    relabelChars offset ((instruction.text mode).toList ++ '\n' :: rest) =
      ((instruction.shift offset).text mode).toList ++ relabelChars offset ('\n' :: rest) := by
  cases instruction with
  | movedPointer amount =>
    exact relabelChars_append_of_unmarked offset
      (unmarked_changedText (unmarked_pointerText mode) amount) _
  | storeChanged amount =>
    refine relabelChars_append_of_unmarked offset ?_ _
    change unmarked ("(i32.store8 " ++ changedText (cellText mode) amount ++ ")").toList = true
    rw [String.toList_append, String.toList_append]
    exact unmarked_append (unmarked_append (by decide)
      (unmarked_changedText (unmarked_cellText mode) amount)) (by decide)
  | pointer => exact relabelChars_append_of_unmarked offset (unmarked_pointerText mode) _
  | cell => exact relabelChars_append_of_unmarked offset (unmarked_cellText mode) _
  | setPointer | put | get | close =>
    exact relabelChars_append_of_unmarked offset (by cases mode <;> decide) _
  | block label =>
    exact relabelChars_opening offset label (by decide) rest
  | loop label =>
    exact relabelChars_opening offset label (by decide) rest
  | leaveIfZero label =>
    have htest : " (i32.eq ".toList = ' ' :: "(i32.eq ".toList := by decide
    exact relabelChars_branch offset label mode htest (by decide) _
  | againUnlessZero label =>
    have htest : " (i32.ne ".toList = ' ' :: "(i32.ne ".toList := by decide
    exact relabelChars_branch offset label mode htest (by decide) _

/-- Relabelling a rendered line shifts its label. -/
theorem relabelChars_render (offset : Nat) (mode : Addressing) (line : Line) (rest : List Char) :
    relabelChars offset ((line.render mode).toList ++ rest) =
      ((line.shift offset).render mode).toList ++ relabelChars offset rest := by
  have hmargin : unmarked (margin line.width).toList = true := by
    apply unmarked_of_not_mem
    simp [margin, List.mem_replicate]
  have hfeed : unmarked ['\n'] = true := by decide
  have hsplit (shown : Line) (after : List Char) : (shown.render mode).toList ++ after =
      (margin shown.width).toList ++ ((shown.instruction.text mode).toList ++ '\n' :: after) := by
    simp [Line.render, String.toList_append]
  rw [hsplit, hsplit, relabelChars_append_of_unmarked offset hmargin, relabelChars_text,
    ← List.singleton_append, relabelChars_append_of_unmarked offset hfeed]
  rfl

/-- Relabelling the text of lines shifts their labels. -/
theorem relabel_join_render (offset : Nat) (mode : Addressing) (lines : List Line) :
    relabel offset (String.join (lines.map (Line.render mode))) =
      String.join ((lines.map (Line.shift offset)).map (Line.render mode)) := by
  have hchars : relabelChars offset (lines.flatMap fun line => (line.render mode).toList) =
      lines.flatMap fun line => ((line.shift offset).render mode).toList := by
    induction lines with
    | nil => rw [List.flatMap_nil, List.flatMap_nil, relabelChars]
    | cons line rest ih => rw [List.flatMap_cons, relabelChars_render, ih, List.flatMap_cons]
  rw [relabel, ← String.toList_inj, String.toList_ofList, String.toList_join, String.toList_join,
    List.flatMap_map, hchars, List.map_map, List.flatMap_map]
  rfl

/-- Shifting labels leaves the margins as they are. -/
theorem firstMarginError_map_shift (offset : Nat) (lines : List Line) :
    firstMarginError (lines.map (Line.shift offset)) = firstMarginError lines := by
  rw [firstMarginError, List.findSome?_map]
  rfl

/-- Code whose labels are counted from further on has shifted lines. -/
theorem lines_add_label (code : Code) (step width : Int) (label offset : Nat) :
    code.lines step width (label + offset) =
      (code.lines step width label).map (Line.shift offset) := by
  induction code generalizing width label with
  | done => rfl
  | move amount rest ih | change amount rest ih | output rest ih | input rest ih =>
    simp only [Code.lines, List.map_cons, ih]
    rfl
  | loop body rest ihbody ihrest =>
    have hopening : (openingLines width label).map (Line.shift offset) =
        openingLines width (label + offset) := by
      simp [openingLines, Line.shift, Instruction.shift, Nat.add_right_comm]
    have hclosing : (closingLines width step (label + 1)).map (Line.shift offset) =
        closingLines width step (label + offset + 1) := by
      simp [closingLines, Line.shift, Instruction.shift, Nat.add_right_comm]
    simp only [Code.lines, List.map_append, hopening, hclosing, ← ihbody, ← ihrest]
    rw [Nat.add_right_comm label offset 2, Nat.add_right_comm (label + 2) offset body.labels]

/-- Code whose labels are counted from further on is typeset with shifted labels. -/
theorem typeset_lines_add_label (mode : Addressing) (code : Code) (step width : Int)
    (label offset : Nat) :
    typeset mode (code.lines step width (label + offset)) =
      (typeset mode (code.lines step width label)).map (relabel offset) := by
  rw [lines_add_label, typeset, typeset, firstMarginError_map_shift]
  cases firstMarginError (code.lines step width label) with
  | some cause => rfl
  | none => exact congrArg Except.ok (relabel_join_render offset mode _).symm

end BrainfuckWasm.Body
