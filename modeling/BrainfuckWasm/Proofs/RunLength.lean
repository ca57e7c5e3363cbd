import Mathlib.Data.List.SplitBy
import BrainfuckWasm.Proofs.Composition
import BrainfuckWasm.Proofs.Listing.BodyLines

/-!
# The run-length form of a source

The run-length form of a source is said without any accumulator: its symbols are cut where two
neighbours do not go into the same sum, each stretch of moves or changes is replaced by its total,
and a total of nought leaves nothing behind. Fused code lists its operations in the same way.

The run-length form of code determines the code, since its brackets do.
-/

namespace BrainfuckWasm

/-- What a symbol adds to the sum of its stretch. -/
def Symbol.step : Symbol → Int
  | .right | .increment => 1
  | .left | .decrement => -1
  | _ => 0

/-- The sum of a stretch. -/
def Symbol.total (stretch : List Symbol) : Int :=
  (stretch.map Symbol.step).sum

namespace Run

/-- What a stretch comes to, if it does not cancel. -/
def ofStretch? (stretch : List Symbol) : Option Run :=
  match stretch with
  | [] => none
  | first :: _ =>
    let total := Symbol.total stretch
    match first with
    | .right | .left => if total = 0 then none else some (.moves total)
    | .increment | .decrement => if total = 0 then none else some (.changes total)
    | .output => some .output
    | .input => some .input
    | .loopOpen => some .loopStart
    | .loopClose => some .loopEnd

/-- The run-length form of symbols: each longest stretch that goes into one sum counts once. -/
def ofSymbols (symbols : List Symbol) : List Run :=
  (symbols.splitBy Symbol.fusesWith).filterMap ofStretch?

/-- The run-length form of a source. -/
def ofSource (source : List Char) : List Run :=
  ofSymbols (Symbol.ofSource source)

/-- A total as a run of its kind, unless it is nought. -/
def unlessZero (run : Int → Run) (total : Int) : List Run :=
  if total = 0 then [] else [run total]

/-- No run comes of nought. -/
@[simp]
theorem unlessZero_zero (run : Int → Run) : unlessZero run 0 = [] :=
  if_pos rfl

/-- Symbols that do not meet in one sum have their forms in a row. -/
theorem ofSymbols_append (first second : List Symbol)
    (h : ∀ last ∈ first.getLast?, ∀ next ∈ second.head?, last.fusesWith next = false) :
    ofSymbols (first ++ second) = ofSymbols first ++ ofSymbols second := by
  rw [ofSymbols, List.splitBy_append h, List.filterMap_append]
  rfl

/-- A class of symbols that all go into one sum, which makes runs of one kind. -/
structure Sums (goes : Symbol → Bool) (run : Int → Run) : Prop where
  fusesWith_eq : ∀ first second, goes second = true → first.fusesWith second = goes first
  ofStretch?_eq : ∀ first rest, goes first = true → ofStretch? (first :: rest) =
    if Symbol.total (first :: rest) = 0 then none else some (run (Symbol.total (first :: rest)))

/-- Moves go into one sum. -/
theorem sums_moves : Sums Symbol.isMove .moves where
  fusesWith_eq := fun first second hsecond => by
    cases first <;> cases second <;> first | rfl | cases hsecond
  ofStretch?_eq := fun first rest hfirst => by cases first <;> first | rfl | cases hfirst

/-- Changes go into one sum. -/
theorem sums_changes : Sums Symbol.isChange .changes where
  fusesWith_eq := fun first second hsecond => by
    cases first <;> cases second <;> first | rfl | cases hsecond
  ofStretch?_eq := fun first rest hfirst => by cases first <;> first | rfl | cases hfirst

/-- A stretch of one class comes to its total. -/
theorem Sums.ofSymbols_eq {goes : Symbol → Bool} {run : Int → Run} (hsums : Sums goes run)
    {stretch : List Symbol} (h : ∀ symbol ∈ stretch, goes symbol = true) :
    ofSymbols stretch = unlessZero run (Symbol.total stretch) := by
  cases stretch with
  | nil => rfl
  | cons first rest =>
    have hchain : (first :: rest).IsChain fun symbol next => symbol.fusesWith next = true := by
      refine (List.pairwise_of_forall_mem_list fun symbol hsymbol next hnext => ?_).isChain
      exact (hsums.fusesWith_eq symbol next (h next hnext)).trans (h symbol hsymbol)
    rw [ofSymbols, List.splitBy_of_isChain (List.cons_ne_nil _ _) hchain, List.filterMap_cons,
      hsums.ofStretch?_eq first rest (h first List.mem_cons_self)]
    by_cases htotal : Symbol.total (first :: rest) = 0
    · simp [unlessZero, htotal]
    · simp [unlessZero, htotal]

/-- A stretch that is being read, with the sums of moves and changes that are pending for it. -/
inductive Underway : List Symbol → Int → Int → Prop where
  | moves {stretch : List Symbol} (h : ∀ symbol ∈ stretch, symbol.isMove = true) :
      Underway stretch (Symbol.total stretch) 0
  | changes {stretch : List Symbol} (h : ∀ symbol ∈ stretch, symbol.isChange = true) :
      Underway stretch 0 (Symbol.total stretch)

namespace Underway

/-- Before anything is read, nothing is pending. -/
theorem nothing : Underway [] 0 0 :=
  .moves (by simp)

/-- A stretch of moves goes on with a move. -/
theorem moves_concat {stretch : List Symbol} (h : ∀ symbol ∈ stretch, symbol.isMove = true)
    (forward : Bool) :
    Underway (stretch ++ [TapeProgram.moveSymbol forward])
      (Symbol.total stretch + unit forward) 0 := by
  have htotal : Symbol.total (stretch ++ [TapeProgram.moveSymbol forward]) =
      Symbol.total stretch + unit forward := by
    cases forward <;> simp [Symbol.total, TapeProgram.moveSymbol, Symbol.step, unit]
  rw [← htotal]
  exact .moves (List.forall_mem_append.mpr
    ⟨h, List.forall_mem_singleton.mpr (TapeProgram.isMove_moveSymbol forward)⟩)

/-- A stretch of changes goes on with a change. -/
theorem changes_concat {stretch : List Symbol} (h : ∀ symbol ∈ stretch, symbol.isChange = true)
    (up : Bool) :
    Underway (stretch ++ [TapeProgram.changeSymbol up]) 0 (Symbol.total stretch + unit up) := by
  have htotal : Symbol.total (stretch ++ [TapeProgram.changeSymbol up]) =
      Symbol.total stretch + unit up := by
    cases up <;> simp [Symbol.total, TapeProgram.changeSymbol, Symbol.step, unit]
  rw [← htotal]
  exact .changes (List.forall_mem_append.mpr
    ⟨h, List.forall_mem_singleton.mpr (TapeProgram.isChange_changeSymbol up)⟩)

/-- A stretch under way comes to what is pending. -/
theorem ofSymbols_eq {stretch : List Symbol} {moves changes : Int}
    (h : Underway stretch moves changes) :
    ofSymbols stretch = unlessZero .moves moves ++ unlessZero .changes changes := by
  cases h with
  | moves hmoves => rw [sums_moves.ofSymbols_eq hmoves, unlessZero_zero, List.append_nil]
  | changes hchanges => rw [sums_changes.ofSymbols_eq hchanges, unlessZero_zero, List.nil_append]

/-- A stretch under way ends where a symbol does not go into its sum. -/
theorem ofSymbols_append_cons {stretch : List Symbol} {moves changes : Int}
    (h : Underway stretch moves changes) {next : Symbol}
    (happart : ∀ symbol ∈ stretch, symbol.fusesWith next = false) (symbols : List Symbol) :
    ofSymbols (stretch ++ next :: symbols) =
      unlessZero .moves moves ++ unlessZero .changes changes ++ ofSymbols (next :: symbols) := by
  rw [ofSymbols_append _ _ ?_, h.ofSymbols_eq]
  intro last hlast head hhead
  obtain rfl : next = head := Option.mem_some.mp hhead
  exact happart last (List.mem_of_getLast? hlast)

/-- A move goes on with moves, and otherwise starts a stretch after the changes. -/
theorem move {stretch : List Symbol} {moves changes : Int} (h : Underway stretch moves changes)
    (forward : Bool) (symbols : List Symbol) :
    ∃ next, Underway next (moves + unit forward) 0 ∧
      ofSymbols (stretch ++ TapeProgram.moveSymbol forward :: symbols) =
        unlessZero .changes changes ++ ofSymbols (next ++ symbols) := by
  cases h with
  | moves hmoves => exact ⟨_, moves_concat hmoves forward, by simp⟩
  | changes hchanges =>
    refine ⟨[TapeProgram.moveSymbol forward], moves_concat (List.forall_mem_nil _) forward, ?_⟩
    have happart : ∀ symbol ∈ stretch,
        symbol.fusesWith (TapeProgram.moveSymbol forward) = false := by
      intro symbol hsymbol
      have hchange := hchanges symbol hsymbol
      cases symbol <;> cases forward <;> first | rfl | cases hchange
    rw [(Underway.changes hchanges).ofSymbols_append_cons happart, unlessZero_zero]
    rfl

/-- A change goes on with changes, and otherwise starts a stretch after the moves. -/
theorem change {stretch : List Symbol} {moves changes : Int} (h : Underway stretch moves changes)
    (up : Bool) (symbols : List Symbol) :
    ∃ next, Underway next 0 (changes + unit up) ∧
      ofSymbols (stretch ++ TapeProgram.changeSymbol up :: symbols) =
        unlessZero .moves moves ++ ofSymbols (next ++ symbols) := by
  cases h with
  | changes hchanges => exact ⟨_, changes_concat hchanges up, by simp⟩
  | moves hmoves =>
    refine ⟨[TapeProgram.changeSymbol up], changes_concat (List.forall_mem_nil _) up, ?_⟩
    have happart : ∀ symbol ∈ stretch,
        symbol.fusesWith (TapeProgram.changeSymbol up) = false := by
      intro symbol hsymbol
      have hmove := hmoves symbol hsymbol
      cases symbol <;> cases up <;> first | rfl | cases hmove
    rw [(Underway.moves hmoves).ofSymbols_append_cons happart, unlessZero_zero, List.append_nil]
    rfl

/-- Any other symbol ends a stretch and stands for itself. -/
theorem single {stretch : List Symbol} {moves changes : Int} (h : Underway stretch moves changes)
    {symbol : Symbol} (hsingle : symbol.isMove = false ∧ symbol.isChange = false)
    (symbols : List Symbol) :
    ofSymbols (stretch ++ symbol :: symbols) =
      unlessZero .moves moves ++ unlessZero .changes changes ++
        (ofSymbols [symbol] ++ ofSymbols symbols) := by
  have hrest : ofSymbols (symbol :: symbols) = ofSymbols [symbol] ++ ofSymbols symbols := by
    refine ofSymbols_append [symbol] symbols fun last hlast next _ => ?_
    obtain rfl : symbol = last := Option.mem_some.mp hlast
    simp [Symbol.fusesWith, hsingle]
  rw [h.ofSymbols_append_cons (fun last _ => by simp [Symbol.fusesWith, hsingle]), hrest]

end Underway

end Run

namespace Code

/-- The operations of code, in the order of its text. -/
def runs : Code → List Run
  | done => []
  | move amount rest => .moves amount :: rest.runs
  | change amount rest => .changes amount :: rest.runs
  | output rest => .output :: rest.runs
  | input rest => .input :: rest.runs
  | loop body rest => .loopStart :: (body.runs ++ .loopEnd :: rest.runs)

/-- A move that is by nothing is no run. -/
theorem runs_moved (amount : Int) (rest : Code) :
    (moved amount rest).runs = Run.unlessZero .moves amount ++ rest.runs := by
  by_cases h : amount = 0
  · simp [moved, h]
  · simp [moved, h, runs, Run.unlessZero]

/-- A change that is by nothing is no run. -/
theorem runs_changed (amount : Int) (rest : Code) :
    (changed amount rest).runs = Run.unlessZero .changes amount ++ rest.runs := by
  by_cases h : amount = 0
  · simp [changed, h]
  · simp [changed, h, runs, Run.unlessZero]

/-- The lines of code do what the code does. -/
theorem runsOf_lines (code : Code) (step width : Int) (label : Nat) :
    Body.runsOf (code.lines step width label) = code.runs := by
  induction code generalizing width label with
  | done => rfl
  | move amount rest ih | change amount rest ih | output rest ih | input rest ih =>
    exact congrArg (List.cons _) (ih width label)
  | loop body rest ihbody ihrest =>
    simp only [lines, Body.runsOf_append, ihbody, ihrest, List.append_assoc]
    rfl

/-- Runs that are over: the next one, if any, is the end of a loop. -/
def Over (runs : List Run) : Prop :=
  ∀ run ∈ runs.head?, run = .loopEnd

/-- Code is found again from its runs, also where the end of a loop comes after them. -/
theorem runs_append_inj {first second : Code} {left right : List Run} (hleft : Over left)
    (hright : Over right) (h : first.runs ++ left = second.runs ++ right) :
    first = second ∧ left = right := by
  -- After both codes only the end of a loop can follow, so neither ends before the other does.
  have hends {run : Run} {runs rest : List Run} (hover : Over runs) (heq : runs = run :: rest) :
      run = .loopEnd := hover run (by simp [heq])
  induction first generalizing second left right with
  | done =>
    cases second with
    | done => exact ⟨rfl, h⟩
    | _ => cases hends hleft h
  | move amount rest ih =>
    cases second with
    | move other tail =>
      simp only [runs, List.cons_append, List.cons.injEq, Run.moves.injEq] at h
      obtain ⟨rfl, rfl⟩ := ih hleft hright h.2
      exact ⟨by rw [h.1], rfl⟩
    | done => cases hends hright h.symm
    | _ => cases h
  | change amount rest ih =>
    cases second with
    | change other tail =>
      simp only [runs, List.cons_append, List.cons.injEq, Run.changes.injEq] at h
      obtain ⟨rfl, rfl⟩ := ih hleft hright h.2
      exact ⟨by rw [h.1], rfl⟩
    | done => cases hends hright h.symm
    | _ => cases h
  | output rest ih =>
    cases second with
    | output tail =>
      obtain ⟨rfl, rfl⟩ := ih hleft hright (List.cons.inj h).2
      exact ⟨rfl, rfl⟩
    | done => cases hends hright h.symm
    | _ => cases h
  | input rest ih =>
    cases second with
    | input tail =>
      obtain ⟨rfl, rfl⟩ := ih hleft hright (List.cons.inj h).2
      exact ⟨rfl, rfl⟩
    | done => cases hends hright h.symm
    | _ => cases h
  | loop body rest ihbody ihrest =>
    cases second with
    | loop inner tail =>
      simp only [runs, List.cons_append, List.append_assoc, List.cons.injEq, true_and] at h
      obtain ⟨rfl, hafter⟩ := ihbody (by simp [Over]) (by simp [Over]) h
      obtain ⟨rfl, rfl⟩ := ihrest hleft hright (List.cons.inj hafter).2
      exact ⟨rfl, rfl⟩
    | done => cases hends hright h.symm
    | _ => cases h

/-- Different code has different runs. -/
theorem runs_injective : Function.Injective runs := by
  intro first second h
  have hnil : Over [] := by simp [Over]
  exact (runs_append_inj hnil hnil (by rw [h])).1

end Code

/-- Fusing a program after a stretch that is under way gives the run-length form of both. -/
theorem TapeProgram.runs_fuse (program : TapeProgram) {stretch : List Symbol}
    {moves changes : Int} (h : Run.Underway stretch moves changes) :
    (program.fuse moves changes).runs = Run.ofSymbols (stretch ++ program.symbols) := by
  induction program generalizing stretch moves changes with
  | done =>
    rw [fuse, Code.runs_moved, Code.runs_changed, symbols, List.append_nil, h.ofSymbols_eq]
    simp [Code.runs]
  | move forward rest ih =>
    obtain ⟨next, hnext, hsymbols⟩ := h.move forward rest.symbols
    rw [fuse, Code.runs_changed, ih hnext, symbols, hsymbols]
  | change up rest ih =>
    obtain ⟨next, hnext, hsymbols⟩ := h.change up rest.symbols
    rw [fuse, Code.runs_moved, ih hnext, symbols, hsymbols]
  | output rest ih =>
    rw [fuse, Code.runs_moved, Code.runs_changed, Code.runs, ih .nothing, symbols,
      h.single ⟨rfl, rfl⟩, List.append_assoc]
    rfl
  | input rest ih =>
    rw [fuse, Code.runs_moved, Code.runs_changed, Code.runs, ih .nothing, symbols,
      h.single ⟨rfl, rfl⟩, List.append_assoc]
    rfl
  | loop body rest ihbody ihrest =>
    have hbody : Run.ofSymbols (body.symbols ++ .loopClose :: rest.symbols) =
        Run.ofSymbols body.symbols ++ Run.ofSymbols (.loopClose :: rest.symbols) := by
      refine Run.ofSymbols_append _ _ fun last _ next hnext => ?_
      obtain rfl : .loopClose = next := Option.mem_some.mp hnext
      simp [Symbol.fusesWith, Symbol.isMove, Symbol.isChange]
    have hrest : Run.ofSymbols (.loopClose :: rest.symbols) =
        .loopEnd :: Run.ofSymbols rest.symbols :=
      Run.Underway.nothing.single ⟨rfl, rfl⟩ rest.symbols
    rw [fuse, Code.runs_moved, Code.runs_changed, Code.runs, ihbody .nothing, ihrest .nothing,
      symbols, h.single ⟨rfl, rfl⟩, hbody, hrest, List.append_assoc]
    rfl

namespace Body

/-- A source with a program has the runs of its fused code. -/
theorem runs_of_symbols {source : List Char} {program : TapeProgram}
    (h : Symbol.ofSource source = program.symbols) :
    (program.fuse 0 0).runs = Run.ofSource source := by
  rw [program.runs_fuse .nothing, Run.ofSource, h, List.nil_append]

end Body

end BrainfuckWasm
