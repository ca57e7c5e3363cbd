import BrainfuckWasm.Proofs.Balance

/-!
# The tree of a balanced source

A balanced source is a program: single moves, changes, outputs and inputs in a row, with loops
around programs of their own. One type holds a program together with what follows each of its
commands, so a row and a nesting are both handled by plain structural recursion. The symbols of a
program are those of its sources, and every balanced source has a program.
-/

namespace BrainfuckWasm

/-- A program, command by command. Moves go forward or back by one cell, changes go up or down by
one. -/
inductive TapeProgram where
  | done
  | move (forward : Bool) (rest : TapeProgram)
  | change (up : Bool) (rest : TapeProgram)
  | output (rest : TapeProgram)
  | input (rest : TapeProgram)
  | loop (body rest : TapeProgram)
  deriving DecidableEq, Repr

/-- One, with the sign that a direction stands for. -/
def unit (positive : Bool) : Int :=
  if positive then 1 else -1

/-- A symbol that is added to the sum of moves. -/
def Symbol.isMove : Symbol → Bool
  | .right | .left => true
  | _ => false

/-- A symbol that is added to the sum of changes. -/
def Symbol.isChange : Symbol → Bool
  | .increment | .decrement => true
  | _ => false

/-- A comment adds nothing to the symbols of a source. -/
theorem Symbol.ofSource_cons_none {c : Char} {rest : List Char} (h : Symbol.ofChar? c = none) :
    Symbol.ofSource (c :: rest) = Symbol.ofSource rest :=
  List.filterMap_cons_none h

/-- A symbol comes before those of the rest of a source. -/
theorem Symbol.ofSource_cons_some {c : Char} {symbol : Symbol} {rest : List Char}
    (h : Symbol.ofChar? c = some symbol) :
    Symbol.ofSource (c :: rest) = symbol :: Symbol.ofSource rest :=
  List.filterMap_cons_some h

namespace TapeProgram

/-- The symbol of a move. -/
def moveSymbol (forward : Bool) : Symbol :=
  if forward then .right else .left

/-- The symbol of a change. -/
def changeSymbol (up : Bool) : Symbol :=
  if up then .increment else .decrement

/-- The symbol of a move is one. -/
theorem isMove_moveSymbol (forward : Bool) : (moveSymbol forward).isMove = true := by
  cases forward <;> rfl

/-- The symbol of a change is one. -/
theorem isChange_changeSymbol (up : Bool) : (changeSymbol up).isChange = true := by
  cases up <;> rfl

/-- The symbols of a program, in order. -/
def symbols : TapeProgram → List Symbol
  | done => []
  | move forward rest => moveSymbol forward :: rest.symbols
  | change up rest => changeSymbol up :: rest.symbols
  | output rest => .output :: rest.symbols
  | input rest => .input :: rest.symbols
  | loop body rest => .loopOpen :: (body.symbols ++ .loopClose :: rest.symbols)

/-- A program and further ones, each after a loop end. -/
def chained (first : TapeProgram) : List TapeProgram → List Symbol
  | [] => first.symbols
  | second :: rest => first.symbols ++ .loopClose :: chained second rest

/-- A symbol that is no bracket comes before the first program of a chain. -/
theorem exists_chained_cons (symbol : Symbol) (hopen : symbol ≠ .loopOpen)
    (hclose : symbol ≠ .loopClose) (first : TapeProgram) (others : List TapeProgram) :
    ∃ next : TapeProgram, symbol :: first.chained others = next.chained others := by
  have hhead (next : TapeProgram) (h : next.symbols = symbol :: first.symbols) :
      symbol :: first.chained others = next.chained others := by
    cases others with
    | nil => exact h.symm
    | cons second rest => rw [chained, chained, h, List.cons_append]
  cases symbol with
  | right => exact ⟨move true first, hhead _ rfl⟩
  | left => exact ⟨move false first, hhead _ rfl⟩
  | increment => exact ⟨change true first, hhead _ rfl⟩
  | decrement => exact ⟨change false first, hhead _ rfl⟩
  | output => exact ⟨output first, hhead _ rfl⟩
  | input => exact ⟨input first, hhead _ rfl⟩
  | loopOpen => exact absurd rfl hopen
  | loopClose => exact absurd rfl hclose

/-- A text that closes a number of loops more than it opens is a chain of that many further
programs. -/
theorem exists_chained (source : List Char) (excess : Nat)
    (hcovered : ∀ before, before <+: source → closes before ≤ opens before + excess)
    (htotal : closes source = opens source + excess) :
    ∃ (first : TapeProgram) (others : List TapeProgram),
      others.length = excess ∧ Symbol.ofSource source = first.chained others := by
  induction source generalizing excess with
  | nil =>
    have hzero : 0 = 0 + excess := htotal
    exact ⟨done, [], by simp; omega, rfl⟩
  | cons c rest ih =>
    -- A prefix of the rest is compared through the prefix of the source with `c` before it.
    have hcons (before : List Char) (h : before <+: rest) :
        closes (c :: before) ≤ opens (c :: before) + excess :=
      hcovered (c :: before) (List.cons_prefix_cons.mpr ⟨rfl, h⟩)
    simp only [opens_cons, closes_cons] at hcons htotal
    by_cases hopen : c = '['
    · subst hopen
      simp only [if_true, Char.reduceEq, if_false] at hcons htotal
      obtain ⟨body, others, hlength, hrest⟩ := ih (excess + 1)
        (fun before h => by have hbefore := hcons before h; omega) (by omega)
      cases others with
      | nil => cases hlength
      | cons next others =>
        refine ⟨loop body next, others, Nat.succ.inj hlength, ?_⟩
        rw [Symbol.ofSource_cons_some rfl, hrest]
        cases others with
        | nil => rfl
        | cons second others => simp [chained, symbols]
    by_cases hclose : c = ']'
    · subst hclose
      have hpositive : 1 ≤ excess := by
        simpa [opens, closes] using hcons [] ⟨rest, rfl⟩
      simp only [if_true, Char.reduceEq, if_false] at hcons htotal
      obtain ⟨first, others, hlength, hrest⟩ := ih (excess - 1)
        (fun before h => by have hbefore := hcons before h; omega) (by omega)
      refine ⟨done, first :: others, ?_, ?_⟩
      · rw [List.length_cons, hlength]
        omega
      · rw [Symbol.ofSource_cons_some rfl, hrest]
        rfl
    · simp only [hopen, hclose, if_false] at hcons htotal
      obtain ⟨first, others, hlength, hrest⟩ := ih excess hcons htotal
      cases hsymbol : Symbol.ofChar? c with
      | none => exact ⟨first, others, hlength, by rw [Symbol.ofSource_cons_none hsymbol, hrest]⟩
      | some symbol =>
        obtain rfl := Symbol.eq_toChar hsymbol
        obtain ⟨next, hnext⟩ := exists_chained_cons symbol
          (by rintro rfl; exact hopen rfl) (by rintro rfl; exact hclose rfl) first others
        exact ⟨next, others, hlength, by rw [Symbol.ofSource_cons_some hsymbol, hrest, hnext]⟩

/-- Every balanced source has a program. -/
theorem exists_of_balanced {source : List Char} (h : Balanced source) :
    ∃ program : TapeProgram, Symbol.ofSource source = program.symbols := by
  obtain ⟨first, others, hlength, hsource⟩ := exists_chained source 0 h.1 h.2.symm
  rw [List.length_eq_zero_iff.mp hlength] at hsource
  exact ⟨first, hsource⟩

end TapeProgram

end BrainfuckWasm
