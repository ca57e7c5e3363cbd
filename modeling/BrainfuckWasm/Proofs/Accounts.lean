import BrainfuckWasm.Proofs.Reached
import BrainfuckWasm.Proofs.RunLength

/-!
# The accounts of a pass

What a pass has written and what it holds back make up exactly what it has read: no move and no
change is lost or written twice. The sums are taken from the text of the output, as its lines are
read back, and compared with the characters of the source.

Beside the sums stand the two stacks of a pass, which are one list here, innermost loop first. Its
order, the depth and the labels stay right whatever stops a pass. The accounts, the width and the
number of blocks do so unless a margin cannot be made, since a sum is cleared, a loop forgotten and
a block written before the line that fails.
-/

namespace BrainfuckWasm

/-- The moves of a run. -/
def Run.move : Run → Int
  | .moves total => total
  | _ => 0

/-- The changes of a run. -/
def Run.change : Run → Int
  | .changes total => total
  | _ => 0

/-- The magnitude of a run, in moves or in changes. -/
def Run.magnitude (run : Run) : Nat :=
  run.move.natAbs + run.change.natAbs

/-- How much more often one character occurs than another. -/
def surplus (more less : Char) (text : List Char) : Int :=
  (text.count more : Int) - text.count less

/-- The number of moves and changes in a text. -/
def stepsIn (text : List Char) : Nat :=
  text.count '>' + text.count '<' + text.count '+' + text.count '-'

/-- A surplus is counted piece by piece. -/
theorem surplus_append (more less : Char) (left right : List Char) :
    surplus more less (left ++ right) = surplus more less left + surplus more less right := by
  simp only [surplus, List.count_append]
  push_cast
  ring

/-- Moves and changes are counted piece by piece. -/
theorem stepsIn_append (left right : List Char) :
    stepsIn (left ++ right) = stepsIn left + stepsIn right := by
  simp only [stepsIn, List.count_append]
  omega

/-- A longer text has no fewer moves and changes. -/
theorem stepsIn_le {text source : List Char} (h : text <+: source) :
    stepsIn text ≤ stepsIn source := by
  obtain ⟨rest, rfl⟩ := h
  rw [stepsIn_append]
  exact Nat.le_add_right _ _

/-- Between two positions of which the first holds a loop start the number of loop starts grows. -/
theorem opens_take_lt {text : List Char} {position later : Nat} (h : text[position]? = some '[')
    (hlater : position < later) : opens (text.take position) < opens (text.take later) := by
  have hnext : opens (text.take (position + 1)) = opens (text.take position) + 1 := by
    rw [List.take_add_one, h, opens_append]
    rfl
  have hle : opens (text.take (position + 1)) ≤ opens (text.take later) :=
    (List.take_sublist_take_left (by omega)).count_le '['
  omega

/-- Runs and two pending sums that account for a text. -/
structure Tallies (text : List Char) (runs : List Run) (moves changes : Int) : Prop where
  starts_eq : runs.count .loopStart = opens text
  moves_eq : (runs.map Run.move).sum + moves = surplus '>' '<' text
  changes_eq : (runs.map Run.change).sum + changes = surplus '+' '-' text
  magnitude_le : (runs.map Run.magnitude).sum + moves.natAbs + changes.natAbs ≤ stepsIn text

namespace Tallies

/-- Accounts add up over texts. -/
theorem append {text rest : List Char} {runs more : List Run} {moves changes m c : Int}
    (h : Tallies text runs moves changes) (hrest : Tallies rest more m c) :
    Tallies (text ++ rest) (runs ++ more) (moves + m) (changes + c) where
  starts_eq := by rw [List.count_append, opens_append, h.starts_eq, hrest.starts_eq]
  moves_eq := by
    rw [List.map_append, List.sum_append, surplus_append, ← h.moves_eq, ← hrest.moves_eq]
    ring
  changes_eq := by
    rw [List.map_append, List.sum_append, surplus_append, ← h.changes_eq, ← hrest.changes_eq]
    ring
  magnitude_le := by
    have hfirst := h.magnitude_le
    have hsecond := hrest.magnitude_le
    have hmoves := Int.natAbs_add_le moves m
    have hchanges := Int.natAbs_add_le changes c
    rw [List.map_append, List.sum_append, stepsIn_append]
    omega

/-- A comment accounts for nothing. -/
theorem comment {c : Char} (h : Symbol.ofChar? c = none) : Tallies [c] [] 0 0 := by
  have hne (symbol : Symbol) : c ≠ symbol.toChar := by
    rintro rfl
    rw [Symbol.ofChar?_toChar] at h
    cases h
  have hright := hne .right
  have hleft := hne .left
  have hincrement := hne .increment
  have hdecrement := hne .decrement
  have hopen := hne .loopOpen
  simp only [Symbol.toChar] at hright hleft hincrement hdecrement hopen
  constructor
  · simp [opens, hopen]
  · simp [surplus, hright, hleft]
  · simp [surplus, hincrement, hdecrement]
  · simp

/-- A run may be taken from what is pending if that is none the greater for it. -/
theorem write {text : List Char} {runs : List Run} {moves changes : Int}
    (h : Tallies text runs moves changes) (run : Run) (hrun : run ≠ .loopStart)
    (hsize : run.magnitude + (moves - run.move).natAbs + (changes - run.change).natAbs ≤
      moves.natAbs + changes.natAbs) :
    Tallies text (runs ++ [run]) (moves - run.move) (changes - run.change) where
  starts_eq := by
    rw [List.count_append, h.starts_eq, List.count_eq_zero.mpr (by simpa using hrun.symm),
      Nat.add_zero]
  moves_eq := by
    rw [← h.moves_eq, List.map_append, List.sum_append, List.map_singleton, List.sum_singleton]
    ring
  changes_eq := by
    rw [← h.changes_eq, List.map_append, List.sum_append, List.map_singleton, List.sum_singleton]
    ring
  magnitude_le := by
    have hmagnitude := h.magnitude_le
    rw [List.map_append, List.sum_append, List.map_singleton, List.sum_singleton]
    omega

/-- Pending moves may be written. -/
theorem settleMoves {text : List Char} {runs : List Run} {moves changes : Int}
    (h : Tallies text runs moves changes) :
    Tallies text (runs ++ Run.unlessZero .moves moves) 0 changes := by
  by_cases hzero : moves = 0
  · subst hzero
    rwa [Run.unlessZero_zero, List.append_nil]
  · have hwritten := h.write (.moves moves) (by simp)
      (by simp [Run.magnitude, Run.move, Run.change])
    simpa [Run.unlessZero, hzero, Run.move, Run.change] using hwritten

/-- Pending changes may be written. -/
theorem settleChanges {text : List Char} {runs : List Run} {moves changes : Int}
    (h : Tallies text runs moves changes) :
    Tallies text (runs ++ Run.unlessZero .changes changes) moves 0 := by
  by_cases hzero : changes = 0
  · subst hzero
    rwa [Run.unlessZero_zero, List.append_nil]
  · have hwritten := h.write (.changes changes) (by simp)
      (by simp [Run.magnitude, Run.move, Run.change, Nat.add_comm])
    simpa [Run.unlessZero, hzero, Run.move, Run.change] using hwritten

end Tallies

namespace Body

/-- The lines of a move do the move. -/
theorem runsOf_moveLines (width amount : Int) :
    runsOf (moveLines width amount) = Run.unlessZero .moves amount := by
  rw [moveLines, Run.unlessZero]
  split
  · rfl
  · rfl

/-- The lines of a change do the change. -/
theorem runsOf_changeLines (width amount : Int) :
    runsOf (changeLines width amount) = Run.unlessZero .changes amount := by
  rw [changeLines, Run.unlessZero]
  split
  · rfl
  · rfl

namespace Pass

/-- What is pending does the pending moves and changes. -/
theorem runsOf_pendingLines (pass : Pass) : runsOf pass.pendingLines =
    Run.unlessZero .moves pass.pendingMove ++ Run.unlessZero .changes pass.pendingDelta := by
  rw [pendingLines, runsOf_append, runsOf_moveLines, runsOf_changeLines]

/-- Further lines do something more. -/
theorem runsOf_extend (pass : Pass) (lines : List Line) :
    runsOf (pass.extend lines).lines.toList = runsOf pass.lines.toList ++ runsOf lines := by
  rw [extend, Array.toList_append, runsOf_append]

/-- What a pass holds back may be written. -/
theorem tallies_settled {pass : Pass} {text : List Char}
    (h : Tallies text (runsOf pass.lines.toList) pass.pendingMove pass.pendingDelta) :
    Tallies text (runsOf pass.lines.toList ++ runsOf pass.pendingLines) 0 0 := by
  rw [runsOf_pendingLines, ← List.append_assoc]
  exact h.settleMoves.settleChanges

/-- The lines of a pass and what is pending account for the text that it has read. -/
theorem Reached.tallies {settings : Settings} {text : List Char} {pass : Pass}
    (h : Reached settings text pass) :
    Tallies text (runsOf pass.lines.toList) pass.pendingMove pass.pendingDelta := by
  induction h with
  | start => exact ⟨rfl, rfl, rfl, Nat.le_refl _⟩
  | comment _ hc ih => simpa using ih.append (.comment hc)
  | @symbol text pass symbol _ hopen _ ih =>
    have hlines : runsOf ((pass.extend (pass.due symbol)).turn text.length symbol).lines.toList =
        runsOf pass.lines.toList ++ runsOf (pass.due symbol) := by
      rw [← runsOf_extend]
      cases symbol <;> rfl
    rw [hlines]
    -- A symbol that settles both sums is a run of its own after them.
    have hsingle {lines : List Line} {run : Run}
        (hdue : pass.due symbol = pass.pendingLines ++ lines)
        (hrun : runsOf lines = [run]) (hown : Tallies [symbol.toChar] [run] 0 0) :
        Tallies (text ++ [symbol.toChar]) (runsOf pass.lines.toList ++ runsOf (pass.due symbol))
          0 0 := by
      rw [hdue, runsOf_append, hrun, ← List.append_assoc]
      exact (tallies_settled ih).append hown
    cases symbol with
    | right =>
      have hown : Tallies ['>'] [] 1 0 := ⟨rfl, rfl, rfl, by decide⟩
      rw [due, runsOf_changeLines, ← List.append_nil (_ ++ Run.unlessZero _ _)]
      exact ih.settleChanges.append hown
    | left =>
      have hown : Tallies ['<'] [] (-1) 0 := ⟨rfl, rfl, rfl, by decide⟩
      rw [due, runsOf_changeLines, ← List.append_nil (_ ++ Run.unlessZero _ _)]
      exact ih.settleChanges.append hown
    | increment =>
      have hown : Tallies ['+'] [] 0 1 := ⟨rfl, rfl, rfl, by decide⟩
      rw [due, runsOf_moveLines, ← List.append_nil (_ ++ Run.unlessZero _ _)]
      exact ih.settleMoves.append hown
    | decrement =>
      have hown : Tallies ['-'] [] 0 (-1) := ⟨rfl, rfl, rfl, by decide⟩
      rw [due, runsOf_moveLines, ← List.append_nil (_ ++ Run.unlessZero _ _)]
      exact ih.settleMoves.append hown
    | output | input | loopOpen => exact hsingle rfl rfl ⟨rfl, rfl, rfl, by decide⟩
    | loopClose =>
      cases hloops : pass.openLoops with
      | nil => exact absurd hloops (hopen rfl)
      | cons loop rest =>
        exact hsingle (due_loopClose hloops) rfl ⟨rfl, rfl, rfl, by decide⟩

/-! ## The fields of a state -/

/-- What the output of a pass does, as its text shows it. -/
def shown (pass : Pass) : List Run :=
  (Listing.readLines pass.output).getD []

/-- The output of a pass is read back as what its lines do. -/
theorem readLines_output (pass : Pass) :
    Listing.readLines pass.output = some (runsOf pass.lines.toList) :=
  Listing.readLines_render _ _

/-- The output of a pass shows what its lines do. -/
theorem shown_eq (pass : Pass) : pass.shown = runsOf pass.lines.toList := by
  rw [shown, readLines_output, Option.getD_some]

/-- What holds in every state, whatever has stopped the pass. -/
structure Orderly (pass : Pass) (text : List Char) : Prop where
  readable : Listing.readLines pass.output = some pass.shown
  /-- Both stacks are as high as the depth. -/
  depth_eq : pass.depth = pass.loopLabels.length ∧ pass.depth = pass.openPositions.length
  /-- Open loops are loop starts of the text, the innermost first. -/
  starts : ∀ position ∈ pass.openPositions, text[position]? = some '['
  positions : pass.openPositions.Pairwise fun inner outer => outer < inner
  labels : pass.loopLabels.Pairwise fun inner outer => outer < inner
  labels_odd : ∀ label ∈ pass.loopLabels, label % 2 = 1
  labels_lt : ∀ label ∈ pass.loopLabels, label < pass.nextLabel
  pending : pass.pendingMove = 0 ∨ pass.pendingDelta = 0
  /-- No more is written and pending than was read. -/
  magnitude_le : (pass.shown.map Run.magnitude).sum + pass.pendingMove.natAbs +
    pass.pendingDelta.natAbs ≤ stepsIn text

/-- What holds in every state that no margin error has led to: the width is that of the depth, there
are two labels for each block, and what is written and pending is what was read. -/
structure Accounts (pass : Pass) (settings : Settings) (text : List Char) : Prop
    extends pass.Orderly text where
  indent_eq : pass.indent = settings.baseIndent + settings.indentStep * pass.depth
  nextLabel_eq : pass.nextLabel = 2 * pass.shown.count .loopStart
  moves_eq : (pass.shown.map Run.move).sum + pass.pendingMove = surplus '>' '<' text
  changes_eq : (pass.shown.map Run.change).sum + pass.pendingDelta = surplus '+' '-' text

/-- The labels of open loops are odd, in order, and drawn before the next one. -/
theorem Reached.labels {settings : Settings} {text : List Char} {pass : Pass}
    (h : Reached settings text pass) :
    pass.loopLabels.Pairwise (fun inner outer => outer < inner) ∧
      ∀ label ∈ pass.loopLabels, label % 2 = 1 ∧ label < pass.nextLabel := by
  obtain ⟨hpositions, hstarts⟩ := h.follows.starts.positions_lt
  rw [List.pairwise_map] at hpositions
  rw [List.forall_mem_map] at hstarts
  rw [loopLabels, List.pairwise_map, List.forall_mem_map]
  constructor
  · refine hpositions.imp_of_mem fun {inner outer} hinner houter hlt => ?_
    have hopens := opens_take_lt (hstarts outer houter) hlt
    rw [h.label_eq inner hinner, h.label_eq outer houter]
    omega
  · intro loop hloop
    have hlt := (List.getElem?_eq_some_iff.mp (hstarts loop hloop)).1
    have hopens := opens_take_lt (hstarts loop hloop) hlt
    rw [List.take_length] at hopens
    rw [h.label_eq loop hloop, h.nextLabel_eq]
    omega

/-- A state with the fields of one that is reached, and with sums that account for the text, has its
accounts in order. -/
theorem Reached.accounts_of {settings : Settings} {text : List Char} {pass next : Pass}
    (h : Reached settings text pass) (hloops : next.openLoops = pass.openLoops)
    (hdepth : next.depth = pass.depth) (hindent : next.indent = pass.indent)
    (hlabel : next.nextLabel = pass.nextLabel)
    (hpending : next.pendingMove = 0 ∨ next.pendingDelta = 0)
    (htallies : Tallies text (runsOf next.lines.toList) next.pendingMove next.pendingDelta) :
    next.Accounts settings text := by
  obtain ⟨hpositions, hstarts⟩ := h.follows.starts.positions_lt
  obtain ⟨hlabels, hdrawn⟩ := h.labels
  have hlabelsSame : next.loopLabels = pass.loopLabels := congrArg (List.map OpenLoop.label) hloops
  have hpositionsSame : next.openPositions = pass.openPositions :=
    congrArg (List.map OpenLoop.position) hloops
  rw [← shown_eq] at htallies
  exact {
    readable := by rw [shown_eq, readLines_output]
    depth_eq := by simp [hdepth, hloops, h.depth_eq]
    starts := by
      rw [hpositionsSame]
      exact hstarts
    positions := by
      rw [hpositionsSame]
      exact hpositions
    labels := by rwa [hlabelsSame]
    labels_odd := fun label hmem => (hdrawn label (hlabelsSame ▸ hmem)).1
    labels_lt := fun label hmem => hlabel ▸ (hdrawn label (hlabelsSame ▸ hmem)).2
    pending := hpending
    magnitude_le := htallies.magnitude_le
    indent_eq := by rw [hindent, hdepth, h.indent_eq]
    nextLabel_eq := by rw [hlabel, h.nextLabel_eq, htallies.starts_eq]
    moves_eq := htallies.moves_eq
    changes_eq := htallies.changes_eq }

/-- The accounts are in order after every character. -/
theorem Reached.accounts {settings : Settings} {text : List Char} {pass : Pass}
    (h : Reached settings text pass) : pass.Accounts settings text :=
  h.accounts_of rfl rfl rfl rfl h.pending h.tallies

/-- The accounts are in order after a flush. -/
theorem Reached.accounts_settled {settings : Settings} {text : List Char} {pass : Pass}
    (h : Reached settings text pass) :
    (pass.extend pass.pendingLines).settled.Accounts settings text := by
  refine h.accounts_of rfl rfl rfl rfl (Or.inl rfl) ?_
  have hlines := pass.runsOf_extend pass.pendingLines
  rw [show (pass.extend pass.pendingLines).settled.lines = (pass.extend pass.pendingLines).lines
    from rfl, hlines]
  exact tallies_settled h.tallies

/-- What is orderly after a text stays so with a longer one. -/
theorem Orderly.mono {pass : Pass} {text source : List Char} (h : pass.Orderly text)
    (hsource : text <+: source) : pass.Orderly source := by
  refine { h with starts := ?_, magnitude_le := h.magnitude_le.trans (stepsIn_le hsource) }
  intro position hposition
  have hstart := h.starts position hposition
  obtain ⟨rest, rfl⟩ := hsource
  rw [List.getElem?_append_left (List.getElem?_eq_some_iff.mp hstart).1, hstart]

end Pass

end Body

end BrainfuckWasm
