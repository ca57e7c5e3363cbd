import BrainfuckWasm.Proofs.Typesetting
import BrainfuckWasm.Proofs.Wat.Sequence

/-!
# What a compiled body says

Each line of a body ends between two tokens, so the tokens of a body are those of its lines. Those
of fused code are the tokens of a row: the parentheses that a loop leaves open on its first lines
are closed by its last two, whatever stands between them. That row reads as a sequence of
instructions in which operands that were pushed on one line are popped on the next.

Rows and sequences of code are given with what follows them.
-/

namespace BrainfuckWasm

open Wat

namespace Body

/-- The expression that reads the pointer, before a row. -/
def pointerRow (mode : Addressing) (next : Row) : Row :=
  .group (.atom (.keyword (.get mode)) (.atom (.name "$ptr") .done)) next

/-- The expression that reads the current cell, before a row. -/
def cellRow (mode : Addressing) (next : Row) : Row :=
  .group (.atom (.keyword .load) (pointerRow mode .done)) next

/-- The expression of a constant, before a row. -/
def constRow (n : Nat) (next : Row) : Row :=
  .group (.atom (.keyword .constant) (.atom (.number n) .done)) next

/-- The keyword that changes a value by a signed amount. -/
def changeKeyword (amount : Int) : Keyword :=
  if amount > 0 then .add else .sub

/-- The expression that changes an operand by a signed amount, before a row. -/
def changedRow (operand : Row → Row) (amount : Int) (next : Row) : Row :=
  .group (.atom (.keyword (changeKeyword amount)) (operand (constRow amount.natAbs .done))) next

/-- The expression that branches to a label if a test of the current cell against nought holds. -/
def branchRow (mode : Addressing) (test : Keyword) (label : Nat) (next : Row) : Row :=
  .group (.atom (.keyword .branchIf) (.atom (.name (labelText label))
    (.group (.atom (.keyword test) (cellRow mode (constRow 0 .done))) .done))) next

/-- The tokens of an instruction. -/
def Instruction.tokens (mode : Addressing) : Instruction → List Token
  | .movedPointer amount => (changedRow (pointerRow mode) amount .done).tokens
  | .setPointer => (Row.group (.atom (.keyword (.set mode)) (.atom (.name "$ptr") .done)) .done).tokens
  | .pointer => (pointerRow mode .done).tokens
  | .storeChanged amount =>
    (Row.group (.atom (.keyword .store) (changedRow (cellRow mode) amount .done)) .done).tokens
  | .cell => (cellRow mode .done).tokens
  | .put => (Row.group (.atom (.keyword .call) (.atom (.name "$putChar") .done)) .done).tokens
  | .get => (Row.group (.atom (.keyword .store) (pointerRow mode
      (.group (.atom (.keyword .call) (.atom (.name "$getChar") .done)) .done))) .done).tokens
  | .block label => [.opening, .atom (.keyword .block), .atom (.name (labelText label))]
  | .leaveIfZero label => (branchRow mode .equal label .done).tokens
  | .loop label => [.opening, .atom (.keyword .loop), .atom (.name (labelText label))]
  | .againUnlessZero label => (branchRow mode .unequal label .done).tokens
  | .close => [.closing]

/-- The digits of a number are characters of a word. -/
theorem isWordChar_of_mem_toDigits {n : Nat} {c : Char} (h : c ∈ Nat.toDigits 10 n) :
    isWordChar c = true := by
  have hdigit := Nat.isDigit_of_mem_toDigits (by decide) (by decide) h
  simp [isWordChar, Char.isAlphanum, hdigit]

/-- Digits stand for their number. -/
theorem ofWord?_toDigits (n : Nat) : Atom.ofWord? (Nat.toDigits 10 n) = some (.number n) := by
  have hdigit (c : Char) (h : c ∈ Nat.toDigits 10 n) : c.isDigit = true :=
    Nat.isDigit_of_mem_toDigits (by decide) (by decide) h
  have hhead : (Nat.toDigits 10 n).head? ≠ some '$' := by
    intro h
    have hdollar := hdigit '$' (List.mem_of_mem_head? h)
    cases hdollar
  have hall : (Nat.toDigits 10 n).all Char.isDigit = true := List.all_eq_true.mpr hdigit
  rw [Atom.ofWord?, if_neg hhead, if_pos hall, Nat.ofDigitChars_ten_toDigits]

/-- The characters of a number are its digits. -/
theorem toList_toString (n : Nat) : (toString n).toList = Nat.toDigits 10 n := by
  rw [Nat.toString_eq_repr, Nat.toList_repr]

/-- Digits determine their number. -/
theorem toDigits_inj {m n : Nat} (h : Nat.toDigits 10 m = Nat.toDigits 10 n) : m = n := by
  rw [← Nat.ofDigitChars_ten_toDigits (n := m), h, Nat.ofDigitChars_ten_toDigits]

/-- The tokens of a number with a parenthesis after it. -/
theorem lexes_number (n : Nat) : Lexes (toString n ++ ")") [.atom (.number n), .closing] := by
  have hdigits : Lexing.between.Reads (Nat.toDigits 10 n) [] (.word (Nat.toDigits 10 n)) :=
    Lexing.reads_between_word Nat.toDigits_ne_nil fun c h => isWordChar_of_mem_toDigits h
  have hclosing : delimiter? ')' = some [.closing] := by decide
  have hend : Lexing.between.Reads [] [] .between := rfl
  rw [Lexes, String.toList_append, toList_toString]
  exact hdigits.append (Lexing.Reads.word_delimiter (ofWord?_toDigits n) hclosing hend)

/-- The tokens of a label with a blank and further text after it. -/
theorem lexes_labelText (label : Nat) {c : Char} (hc : delimiter? c = some []) {text : String}
    {rest : List Char} (htext : text.toList = c :: rest) {tokens : List Token}
    (hrest : Lexing.between.Reads rest tokens .between) :
    Lexes (labelText label ++ text) (.atom (.name (labelText label)) :: tokens) := by
  have hlabel : (labelText label).toList = "$label$".toList ++ Nat.toDigits 10 label := by
    rw [labelText, String.toList_append, toList_toString]
  have hchars (d : Char) (h : d ∈ (labelText label).toList) : isWordChar d = true := by
    rw [hlabel, List.mem_append] at h
    rcases h with h | h
    · have hmark : "$label$".toList.all isWordChar = true := by decide
      exact List.all_eq_true.mp hmark d h
    · exact isWordChar_of_mem_toDigits h
  have hne : (labelText label).toList ≠ [] := by
    rw [hlabel]
    exact List.append_ne_nil_of_left_ne_nil (by decide) _
  have hname : Atom.ofWord? (labelText label).toList = some (.name (labelText label)) := by
    have hhead : (labelText label).toList.head? = some '$' := by
      rw [hlabel]
      rfl
    rw [Atom.ofWord?, if_pos hhead, String.ofList_toList]
  rw [Lexes, String.toList_append, htext]
  exact (Lexing.reads_between_word hne hchars).append (Lexing.Reads.word_delimiter hname hc hrest)

/-- The tokens of a constant. -/
theorem lexes_constText (n : Nat) : Lexes (constText n) (constRow n .done).tokens := by
  have hkeyword : Lexes "(i32.const " [.opening, .atom (.keyword .constant)] := by decide
  have happend : constText n = "(i32.const " ++ (toString n ++ ")") := String.append_assoc
  rw [happend]
  exact hkeyword.append (lexes_number n)

/-- The tokens of the expression that reads the pointer. -/
theorem lexes_pointerText (mode : Addressing) :
    Lexes (pointerText mode) (pointerRow mode .done).tokens := by
  cases mode <;> decide

/-- The tokens of the expression that reads the current cell. -/
theorem lexes_cellText (mode : Addressing) : Lexes (cellText mode) (cellRow mode .done).tokens := by
  have hkeyword : Lexes "(i32.load8_u " [.opening, .atom (.keyword .load)] := by decide
  have hclosing : Lexes ")" [.closing] := by decide
  exact (hkeyword.append (lexes_pointerText mode)).append hclosing

/-- The tokens of an expression that changes an operand. -/
theorem lexes_changedText {operand : String} {row : Row → Row} {tokens : List Token}
    (hrow : ∀ next, (row next).tokens = tokens ++ next.tokens) (h : Lexes operand tokens)
    (amount : Int) : Lexes (changedText operand amount) (changedRow row amount .done).tokens := by
  have hkeyword : Lexes ("(" ++ (if amount > 0 then "i32.add" else "i32.sub") ++ " ")
      [.opening, .atom (.keyword (changeKeyword amount))] := by
    rw [changeKeyword]
    split <;> decide
  have hspace : Lexes " " [] := by decide
  have hclosing : Lexes ")" [.closing] := by decide
  have htokens : (changedRow row amount .done).tokens =
      [.opening, .atom (.keyword (changeKeyword amount))] ++ tokens ++ [] ++
        (constRow amount.natAbs .done).tokens ++ [.closing] := by
    simp [changedRow, Row.tokens, hrow]
  rw [htokens]
  exact (((hkeyword.append h).append hspace).append (lexes_constText _)).append hclosing

/-- The tokens of a conditional branch. -/
theorem lexes_branch (mode : Addressing) (label : Nat) {test : String} {keyword : Keyword}
    {rest : List Char} (htest : test.toList = ' ' :: rest)
    (h : Lexing.between.Reads rest [.opening, .atom (.keyword keyword)] .between) :
    Lexes ("(br_if " ++ labelText label ++ test ++ cellText mode ++ " " ++ constText 0 ++ "))")
      (branchRow mode keyword label .done).tokens := by
  have hkeyword : Lexes "(br_if " [.opening, .atom (.keyword .branchIf)] := by decide
  have hblank : delimiter? ' ' = some [] := by decide
  have hspace : Lexes " " [] := by decide
  have hclosing : Lexes "))" [.closing, .closing] := by decide
  have hlabel := hkeyword.append (lexes_labelText label hblank htest h)
  rw [← String.append_assoc] at hlabel
  exact (((hlabel.append (lexes_cellText mode)).append hspace).append (lexes_constText 0)).append
    hclosing

/-- The tokens of a line that opens a block or a loop. -/
theorem lexes_opening (label : Nat) {word : String} {keyword : Keyword}
    (h : Lexes word [.opening, .atom (.keyword keyword)]) :
    Lexes (word ++ labelText label ++ "\n")
      [.opening, .atom (.keyword keyword), .atom (.name (labelText label))] := by
  have hfeed : delimiter? '\n' = some [] := by decide
  have htext : "\n".toList = ['\n'] := by decide
  have hend : Lexing.between.Reads [] [] .between := rfl
  rw [String.append_assoc]
  exact h.append (lexes_labelText label hfeed htext hend)

/-- The tokens of an instruction at the end of its line. -/
theorem lexes_text (mode : Addressing) (instruction : Instruction) :
    Lexes (instruction.text mode ++ "\n") (instruction.tokens mode) := by
  have hstore : Lexes "(i32.store8 " [.opening, .atom (.keyword .store)] := by decide
  have hclosing : Lexes ")" [.closing] := by decide
  cases instruction with
  | movedPointer amount =>
    exact (lexes_changedText (fun _ => rfl) (lexes_pointerText mode) amount).line
  | storeChanged amount =>
    have hchanged : Lexes (changedText (cellText mode) amount)
        (changedRow (cellRow mode) amount .done).tokens :=
      lexes_changedText (fun _ => rfl) (lexes_cellText mode) amount
    exact ((hstore.append hchanged).append hclosing).line
  | pointer => exact (lexes_pointerText mode).line
  | cell => exact (lexes_cellText mode).line
  | setPointer =>
    have hset : Lexes (Instruction.setPointer.text mode) (Instruction.setPointer.tokens mode) := by
      cases mode <;> decide
    exact hset.line
  | put =>
    have hput : Lexes "(call $putChar)" [.opening, .atom (.keyword .call),
      .atom (.name "$putChar"), .closing] := by decide
    exact hput.line
  | get =>
    have hcall : Lexes " (call $getChar))" [.opening, .atom (.keyword .call),
      .atom (.name "$getChar"), .closing, .closing] := by decide
    exact ((hstore.append (lexes_pointerText mode)).append hcall).line
  | close => exact hclosing.line
  | block label =>
    have hblock : Lexes "(block " [.opening, .atom (.keyword .block)] := by decide
    exact lexes_opening label hblock
  | loop label =>
    have hloop : Lexes "(loop " [.opening, .atom (.keyword .loop)] := by decide
    exact lexes_opening label hloop
  | leaveIfZero label =>
    have htest : " (i32.eq ".toList = ' ' :: "(i32.eq ".toList := by decide
    exact (lexes_branch mode label htest (by decide)).line
  | againUnlessZero label =>
    have htest : " (i32.ne ".toList = ' ' :: "(i32.ne ".toList := by decide
    exact (lexes_branch mode label htest (by decide)).line

/-- The tokens of a rendered line. -/
theorem lexes_render (mode : Addressing) (line : Line) :
    Lexes (line.render mode) (line.instruction.tokens mode) := by
  have hmargin : Lexes (margin line.width) [] := by
    rw [Lexes, margin, String.toList_ofList]
    exact Lexing.reads_spaces _
  rw [Line.render, String.append_assoc]
  exact hmargin.append (lexes_text mode line.instruction)

end Body

namespace Code

open Body

/-- The row of code with labels counted from a given one on, before a row. -/
def row (mode : Addressing) (label : Nat) (next : Row) : Code → Row
  | done => next
  | move amount rest => changedRow (pointerRow mode) amount
      (.group (.atom (.keyword (.set mode)) (.atom (.name "$ptr") .done)) (rest.row mode label next))
  | change amount rest => pointerRow mode
      (.group (.atom (.keyword .store) (changedRow (cellRow mode) amount .done))
        (rest.row mode label next))
  | output rest => cellRow mode
      (.group (.atom (.keyword .call) (.atom (.name "$putChar") .done)) (rest.row mode label next))
  | input rest =>
    .group (.atom (.keyword .store) (pointerRow mode
      (.group (.atom (.keyword .call) (.atom (.name "$getChar") .done)) .done)))
      (rest.row mode label next)
  | loop body rest =>
    .group (.atom (.keyword .block) (.atom (.name (labelText label))
      (branchRow mode .equal label
        (.group (.atom (.keyword .loop) (.atom (.name (labelText (label + 1)))
          (body.row mode (label + 2) (branchRow mode .unequal (label + 1) .done)))) .done))))
      (rest.row mode (label + 2 + body.labels) next)

/-- The tokens of the lines of code are those of its row. -/
theorem tokens_row (mode : Addressing) (step width : Int) (label : Nat) (next : Row) (code : Code) :
    (code.row mode label next).tokens =
      (code.lines step width label).flatMap (fun line => line.instruction.tokens mode) ++
        next.tokens := by
  induction code generalizing width label next with
  | done => rfl
  | move amount rest ih | change amount rest ih | output rest ih | input rest ih =>
    simp [row, lines, Instruction.tokens, changedRow, pointerRow, cellRow, constRow, Row.tokens,
      ih width label next]
  | loop body rest ihbody ihrest =>
    simp [row, lines, Instruction.tokens, openingLines, closingLines, branchRow, cellRow, pointerRow,
      constRow, Row.tokens, ihbody (width + step), ihrest width]

/-- The operation that changes a value by the magnitude of a signed amount. -/
def changeOperation (amount : Int) : Operation :=
  if amount > 0 then .add else .sub

/-- The instructions that change a value by a signed amount. -/
def changeThen (amount : Int) (next : Sequence) : Sequence :=
  .perform (.constant (BitVec.ofNat 32 amount.natAbs)) (.perform (changeOperation amount) next)

/-- The instructions that push the current cell. -/
def cellThen (mode : Addressing) (next : Sequence) : Sequence :=
  .perform (.get mode "$ptr") (.perform .load next)

/-- The instructions that branch to a label if a test of the current cell against nought holds. -/
def branchThen (mode : Addressing) (test : Operation) (label : Nat) (next : Sequence) : Sequence :=
  cellThen mode (.perform (.constant 0) (.perform test (.perform (.branchIf (labelText label)) next)))

/-- The instructions of code with labels counted from a given one on, before a sequence. -/
def sequence (mode : Addressing) (label : Nat) (next : Sequence) : Code → Sequence
  | done => next
  | move amount rest => .perform (.get mode "$ptr")
      (changeThen amount (.perform (.set mode "$ptr") (rest.sequence mode label next)))
  | change amount rest => .perform (.get mode "$ptr")
      (cellThen mode (changeThen amount (.perform .store (rest.sequence mode label next))))
  | output rest =>
    cellThen mode (.perform (.call "$putChar") (rest.sequence mode label next))
  | input rest => .perform (.get mode "$ptr")
      (.perform (.call "$getChar") (.perform .store (rest.sequence mode label next)))
  | loop body rest =>
    .block (labelText label)
      (branchThen mode .equal label
        (.loop (labelText (label + 1))
          (body.sequence mode (label + 2) (branchThen mode .unequal (label + 1) .done)) .done))
      (rest.sequence mode (label + 2 + body.labels) next)

/-- The expression that reads the pointer says to push it. -/
theorem sequence?_pointerRow (mode : Addressing) {next : Row} {after : Sequence}
    (h : next.sequence? = some after) :
    (pointerRow mode next).sequence? = some (.perform (.get mode "$ptr") after) :=
  Row.sequence?_labelled (.get mode) (.name "$ptr") Row.sequence?_done h

/-- The expression that reads the current cell says to push it. -/
theorem sequence?_cellRow (mode : Addressing) {next : Row} {after : Sequence}
    (h : next.sequence? = some after) :
    (cellRow mode next).sequence? = some (cellThen mode after) :=
  Row.sequence?_plain rfl (sequence?_pointerRow mode Row.sequence?_done) h

/-- The expression of a constant says to push it. -/
theorem sequence?_constRow (n : Nat) {next : Row} {after : Sequence}
    (h : next.sequence? = some after) :
    (constRow n next).sequence? = some (.perform (.constant (BitVec.ofNat 32 n)) after) :=
  Row.sequence?_labelled .constant (.number n) Row.sequence?_done h

/-- A changed operand is pushed and then changed. -/
theorem sequence?_changedRow {operand : Row → Row} {inner after : Sequence} {next : Row}
    (amount : Int) (hinner : (operand (constRow amount.natAbs .done)).sequence? = some inner)
    (h : next.sequence? = some after) :
    (changedRow operand amount next).sequence? =
      some (inner.append (.perform (changeOperation amount) after)) := by
  have hkeyword : (changeKeyword amount).plain? = some (changeOperation amount) := by
    rw [changeKeyword, changeOperation]
    split <;> rfl
  exact Row.sequence?_plain hkeyword hinner h

/-- A conditional branch pushes its test first. -/
theorem sequence?_branchRow (mode : Addressing) {test : Keyword} {operation : Operation}
    (htest : test.plain? = some operation) (label : Nat) {next : Row} {after : Sequence}
    (h : next.sequence? = some after) :
    (branchRow mode test label next).sequence? = some (branchThen mode operation label after) := by
  have hcell := sequence?_cellRow mode (sequence?_constRow 0 Row.sequence?_done)
  have hoperand := Row.sequence?_plain htest hcell Row.sequence?_done
  exact Row.sequence?_labelled .branchIf (.name (labelText label)) hoperand h

/-- The row of code says its instructions. -/
theorem sequence?_row (mode : Addressing) (label : Nat) {next : Row} {after : Sequence}
    (h : next.sequence? = some after) (code : Code) :
    (code.row mode label next).sequence? = some (code.sequence mode label after) := by
  induction code generalizing label next after with
  | done => exact h
  | move amount rest ih =>
    have hset := Row.sequence?_labelled (.set mode) (.name "$ptr") Row.sequence?_done (ih label h)
    have hoperand := sequence?_pointerRow mode (sequence?_constRow amount.natAbs Row.sequence?_done)
    exact sequence?_changedRow amount hoperand hset
  | change amount rest ih =>
    have hoperand := sequence?_cellRow mode (sequence?_constRow amount.natAbs Row.sequence?_done)
    have hchanged := sequence?_changedRow amount hoperand Row.sequence?_done
    exact sequence?_pointerRow mode (Row.sequence?_plain rfl hchanged (ih label h))
  | output rest ih =>
    have hcall := Row.sequence?_labelled .call (.name "$putChar") Row.sequence?_done (ih label h)
    exact sequence?_cellRow mode hcall
  | input rest ih =>
    have hcall := Row.sequence?_labelled .call (.name "$getChar") Row.sequence?_done Row.sequence?_done
    exact Row.sequence?_plain rfl (sequence?_pointerRow mode hcall) (ih label h)
  | loop body rest ihbody ihrest =>
    have hequal : Keyword.equal.plain? = some .equal := rfl
    have hunequal : Keyword.unequal.plain? = some .unequal := rfl
    have hagain := sequence?_branchRow mode hunequal (label + 1) Row.sequence?_done
    have hloop := Row.sequence?_labelled .loop (.name (labelText (label + 1)))
      (ihbody (label + 2) hagain) Row.sequence?_done
    have hleave := sequence?_branchRow mode hequal label hloop
    exact Row.sequence?_labelled .block (.name (labelText label)) hleave (ihrest _ h)

end Code

namespace Body

/-- The tokens of a compiled text are those of the fused code of its source. -/
theorem lexes_compile {settings : Settings} {source : String} {compiled : Compiled}
    {program : TapeProgram} (h : compile settings source = .ok compiled)
    (hprogram : Symbol.ofSource source.toList = program.symbols) :
    Lexes compiled.text ((program.fuse 0 0).row settings.addressing 0 .done).tokens := by
  rw [compile_eq_typesetCode settings (balanced_of_compile h) hprogram, typesetCode, typeset] at h
  split at h
  · cases h
  · cases h
    rw [Code.tokens_row settings.addressing settings.indentStep settings.baseIndent]
    simp only [Row.tokens, List.append_nil]
    exact Lexes.join _ _ _ fun line _ => lexes_render settings.addressing line

end Body

end BrainfuckWasm
