import BrainfuckWasm.Proofs.Accounts

/-!
# The state after an interruption

A line that has no margin stops a pass in the middle of an operation. What was pending may be
cleared by then and the innermost loop forgotten, but loops and labels are still those of the state
before, and nothing has been added to the sums. So a state that was orderly is orderly, and every
run leaves such a state behind; a run that no margin error stops also leaves its accounts in order.
-/

namespace BrainfuckWasm.Body.Pass

/-- The magnitude of all that a pass has written and holds back. -/
def size (pass : Pass) : Nat :=
  ((runsOf pass.lines.toList).map Run.magnitude).sum + pass.pendingMove.natAbs +
    pass.pendingDelta.natAbs

/-- A state with the loops and the labels of another, in which what was pending may be written or
lost. -/
structure Keeps (pass next : Pass) : Prop where
  openLoops_eq : next.openLoops = pass.openLoops
  depth_eq : next.depth = pass.depth
  nextLabel_eq : next.nextLabel = pass.nextLabel
  pendingMove_eq : pass.pendingMove = 0 → next.pendingMove = 0
  pendingDelta_eq : pass.pendingDelta = 0 → next.pendingDelta = 0
  size_le : next.size ≤ pass.size

namespace Keeps

/-- The labels of the open loops are kept. -/
theorem loopLabels_eq {pass next : Pass} (h : Keeps pass next) :
    next.loopLabels = pass.loopLabels :=
  congrArg (List.map OpenLoop.label) h.openLoops_eq

/-- The positions of the open loops are kept. -/
theorem openPositions_eq {pass next : Pass} (h : Keeps pass next) :
    next.openPositions = pass.openPositions :=
  congrArg (List.map OpenLoop.position) h.openLoops_eq

/-- A state keeps its own. -/
theorem refl (pass : Pass) : Keeps pass pass :=
  ⟨rfl, rfl, rfl, id, id, Nat.le_refl _⟩

/-- What is kept of what is kept is kept. -/
theorem trans {first second third : Pass} (h : Keeps first second) (hnext : Keeps second third) :
    Keeps first third where
  openLoops_eq := hnext.openLoops_eq.trans h.openLoops_eq
  depth_eq := hnext.depth_eq.trans h.depth_eq
  nextLabel_eq := hnext.nextLabel_eq.trans h.nextLabel_eq
  pendingMove_eq := hnext.pendingMove_eq ∘ h.pendingMove_eq
  pendingDelta_eq := hnext.pendingDelta_eq ∘ h.pendingDelta_eq
  size_le := hnext.size_le.trans h.size_le

/-- A further step keeps what every step of its kind keeps. -/
theorem andThen {pass : Pass} {progress : Progress} (h : Keeps pass progress.pass)
    {next : Pass → Progress} (hnext : ∀ middle, Keeps middle (next middle).pass) :
    Keeps pass (progress.andThen next).pass := by
  obtain ⟨reached, stop⟩ := progress
  cases stop with
  | none => exact h.trans (hnext reached)
  | some stop => exact h

/-- A write keeps the state if there is room for what the line does. -/
theorem write {before pass : Pass} (h : Keeps before pass) (instruction : Instruction) (extra : Int)
    (hsize : pass.size + (instruction.run?.toList.map Run.magnitude).sum ≤ before.size) :
    Keeps before (pass.write instruction extra).pass := by
  rw [Pass.write]
  split
  · exact h
  · refine { h with size_le := ?_ }
    have hruns : runsOf (pass.lines.push ⟨pass.indent + extra, instruction⟩).toList =
        runsOf pass.lines.toList ++ instruction.run?.toList := by
      rw [Array.toList_push, runsOf_append]
      cases hrun : instruction.run? <;> simp [runsOf, hrun]
    simp only [size, hruns, List.map_append, List.sum_append] at hsize ⊢
    omega

end Keeps

/-- Writing a line that does nothing countable keeps the state. -/
theorem keeps_write (instruction : Instruction) (extra : Int) (pass : Pass)
    (h : (instruction.run?.toList.map Run.magnitude).sum = 0) :
    Keeps pass (pass.write instruction extra).pass :=
  (Keeps.refl pass).write instruction extra (by rw [h, Nat.add_zero])

/-- Flushing moves keeps the state, or loses them. -/
theorem keeps_flushMove (pass : Pass) : Keeps pass pass.flushMove.pass := by
  rw [flushMove]
  split
  · exact .refl pass
  · have hcleared : Keeps pass { pass with pendingMove := 0 } :=
      ⟨rfl, rfl, rfl, fun _ => rfl, id, by simp only [size, Int.natAbs_zero]; omega⟩
    refine (hcleared.write _ 0 ?_).andThen fun middle => keeps_write .setPointer 0 middle rfl
    simp [size, Instruction.run?, Run.magnitude, Run.move, Run.change]
    omega

/-- Flushing changes keeps the state, or loses them. -/
theorem keeps_flushDelta (pass : Pass) : Keeps pass pass.flushDelta.pass := by
  rw [flushDelta]
  split
  · exact .refl pass
  · have hcleared : Keeps pass { pass with pendingDelta := 0 } :=
      ⟨rfl, rfl, rfl, id, fun _ => rfl, by simp only [size, Int.natAbs_zero]; omega⟩
    have hsize : ({ pass with pendingDelta := 0 } : Pass).size + pass.pendingDelta.natAbs =
        pass.size := by simp [size]
    -- The first line leaves the room that the second one takes.
    have hfirst := keeps_write .pointer 0 { pass with pendingDelta := 0 } rfl
    generalize { pass with pendingDelta := 0 }.write .pointer 0 = progress at hfirst
    obtain ⟨reached, stop⟩ := progress
    cases stop with
    | some stop => exact hcleared.trans hfirst
    | none =>
      refine (hcleared.trans hfirst).write _ 0 ?_
      have hreached : reached.size ≤ _ := hfirst.size_le
      simp only [Instruction.run?, Run.magnitude, Run.move, Run.change, Option.toList_some,
        List.map_cons, List.map_nil, List.sum_cons, List.sum_nil, Int.natAbs_zero]
      omega

/-- Flushing keeps the state, or loses what is pending. -/
theorem keeps_flush (pass : Pass) : Keeps pass pass.flush.pass :=
  (keeps_flushMove pass).andThen keeps_flushDelta

/-- Closing a loop keeps the state without that loop. -/
theorem keeps_closeLoop (loop : OpenLoop) (rest : List OpenLoop) (pass : Pass) :
    Keeps { pass with depth := pass.depth - 1, openLoops := rest }
      (pass.closeLoop loop rest).pass := by
  rw [closeLoop]
  refine ((keeps_write (.againUnlessZero loop.label) 0 _ rfl).andThen fun repeated => ?_).andThen
    fun middle => keeps_write .close 0 middle rfl
  have hlowered : Keeps repeated
      { repeated with indent := repeated.indent - repeated.settings.indentStep } :=
    ⟨rfl, rfl, rfl, id, id, Nat.le_refl _⟩
  exact hlowered.trans (keeps_write .close 1 _ rfl)

/-- Of two steps in a row that stop, the first stops or else the second. -/
theorem andThen_stopped_cases {progress : Progress} {next : Pass → Progress} {last : Pass}
    {stop : Stop} (h : progress.andThen next = ⟨last, some stop⟩) :
    progress = ⟨last, some stop⟩ ∨
      ∃ middle, progress = ⟨middle, none⟩ ∧ next middle = ⟨last, some stop⟩ := by
  obtain ⟨pass, reason⟩ := progress
  cases reason with
  | none => exact Or.inr ⟨pass, rfl, h⟩
  | some reason => exact Or.inl h

/-- A loop that cannot be opened leaves the state as it is. -/
theorem keeps_of_openLoop_stopped {pass next : Pass} {position : Nat} {stop : Stop}
    (h : pass.openLoop position = ⟨next, some stop⟩) : Keeps pass next := by
  rw [openLoop] at h
  have hwrites := ((keeps_write (.block pass.nextLabel) 0 pass rfl).andThen fun middle =>
    keeps_write (.leaveIfZero pass.nextLabel) 1 middle rfl).andThen fun middle =>
      keeps_write (.loop (pass.nextLabel + 1)) 1 middle rfl
  rcases andThen_stopped_cases h with hstopped | ⟨middle, -, hentered⟩
  · rwa [hstopped] at hwrites
  · cases hentered

/-- A symbol that a margin error stops keeps the state, or the state without the loop that it was to
close. -/
theorem keeps_of_readSymbol_stopped {pass next : Pass} {position : Nat} {symbol : Symbol}
    {cause : MarginError} (h : pass.readSymbol position symbol = ⟨next, some (.margin cause)⟩) :
    Keeps pass next ∨ ∃ loop rest, pass.openLoops = loop :: rest ∧
      Keeps { pass with depth := pass.depth - 1, openLoops := rest } next := by
  have hkeeps {progress : Progress} (hprogress : Keeps pass progress.pass)
      (heq : progress = ⟨next, some (.margin cause)⟩) : Keeps pass next := by
    rwa [heq] at hprogress
  cases symbol with
  | right | left =>
    rcases andThen_stopped_cases h with hstopped | ⟨middle, -, hmoved⟩
    · exact Or.inl (hkeeps (keeps_flushDelta pass) hstopped)
    · cases hmoved
  | increment | decrement =>
    rcases andThen_stopped_cases h with hstopped | ⟨middle, -, hchanged⟩
    · exact Or.inl (hkeeps (keeps_flushMove pass) hstopped)
    · cases hchanged
  | output =>
    have hcell := (keeps_flush pass).andThen fun middle => keeps_write .cell 0 middle rfl
    exact Or.inl (hkeeps (hcell.andThen fun middle => keeps_write .put 0 middle rfl) h)
  | input =>
    exact Or.inl (hkeeps ((keeps_flush pass).andThen fun middle => keeps_write .get 0 middle rfl) h)
  | loopOpen =>
    rcases andThen_stopped_cases h with hstopped | ⟨flushed, hflush, hopen⟩
    · exact Or.inl (hkeeps (keeps_flush pass) hstopped)
    · have hflushed := keeps_flush pass
      rw [hflush] at hflushed
      exact Or.inl (hflushed.trans (keeps_of_openLoop_stopped hopen))
  | loopClose =>
    rcases andThen_stopped_cases h with hstopped | ⟨flushed, hflush, hclose⟩
    · exact Or.inl (hkeeps (keeps_flush pass) hstopped)
    · have hflushed := keeps_flush pass
      rw [hflush] at hflushed
      rw [closeInnermost, hflushed.openLoops_eq] at hclose
      cases hloops : pass.openLoops with
      | nil =>
        rw [hloops] at hclose
        cases hclose
      | cons loop rest =>
        simp only [hloops] at hclose
        have hclosed := keeps_closeLoop loop rest flushed
        rw [hclose] at hclosed
        have hpopped : Keeps { pass with depth := pass.depth - 1, openLoops := rest }
            { flushed with depth := flushed.depth - 1, openLoops := rest } :=
          ⟨rfl, congrArg (· - 1) hflushed.depth_eq, hflushed.nextLabel_eq, hflushed.pendingMove_eq,
            hflushed.pendingDelta_eq, hflushed.size_le⟩
        exact Or.inr ⟨loop, rest, rfl, hpopped.trans hclosed⟩

/-- What is kept of an orderly state is orderly. -/
theorem Orderly.of_keeps {pass next : Pass} {text : List Char} (h : pass.Orderly text)
    (hkeeps : Keeps pass next) : next.Orderly text where
  readable := by rw [shown_eq, readLines_output]
  depth_eq := by
    rw [hkeeps.depth_eq, hkeeps.loopLabels_eq, hkeeps.openPositions_eq]
    exact h.depth_eq
  starts := by
    rw [hkeeps.openPositions_eq]
    exact h.starts
  positions := by
    rw [hkeeps.openPositions_eq]
    exact h.positions
  labels := by
    rw [hkeeps.loopLabels_eq]
    exact h.labels
  labels_odd := by
    rw [hkeeps.loopLabels_eq]
    exact h.labels_odd
  labels_lt := by
    rw [hkeeps.loopLabels_eq, hkeeps.nextLabel_eq]
    exact h.labels_lt
  pending := h.pending.imp hkeeps.pendingMove_eq hkeeps.pendingDelta_eq
  magnitude_le := by
    have hsize := hkeeps.size_le
    have hmagnitude := h.magnitude_le
    rw [shown_eq] at hmagnitude ⊢
    exact hsize.trans hmagnitude

/-- An orderly state is orderly without its innermost loop. -/
theorem Orderly.pop {pass : Pass} {text : List Char} (h : pass.Orderly text) {loop : OpenLoop}
    {rest : List OpenLoop} (hloops : pass.openLoops = loop :: rest) :
    ({ pass with depth := pass.depth - 1, openLoops := rest } : Pass).Orderly text := by
  obtain ⟨hdepthLabels, hdepthPositions⟩ := h.depth_eq
  have hstarts := h.starts
  have hpositions := h.positions
  have hlabels := h.labels
  have hodd := h.labels_odd
  have hlt := h.labels_lt
  simp only [loopLabels, openPositions, hloops, List.map_cons, List.length_cons,
    List.forall_mem_cons, List.pairwise_cons] at *
  exact { h with
    depth_eq := ⟨Nat.sub_eq_of_eq_add hdepthLabels, Nat.sub_eq_of_eq_add hdepthPositions⟩
    starts := hstarts.2
    positions := hpositions.2
    labels := hlabels.2
    labels_odd := hodd.2
    labels_lt := hlt.2 }

/-! ## After a whole run -/

/-- The characters that a run has dealt with: all before an unmatched loop end, and otherwise the
whole source. -/
def consumed (source : List Char) : Option Stop → List Char
  | some (.unbalanced (.unmatchedClose position)) => source.take position
  | _ => source

/-- A run leaves an orderly state, whatever stops it. -/
theorem run_orderly (settings : Settings) (source : List Char) :
    (run settings source).pass.Orderly source := by
  have hending := run_ending settings source
  generalize run settings source = progress at hending
  cases hending with
  | complete h => exact h.accounts_settled.toOrderly
  | unmatchedClose hsource h => exact h.accounts_settled.toOrderly.mono ⟨_, hsource.symm⟩
  | unmatchedOpen h => exact h.accounts.toOrderly
  | @unflushed pass _ _ h hflush =>
    have hkeeps := keeps_flush pass
    rw [hflush] at hkeeps
    exact h.accounts.toOrderly.of_keeps hkeeps
  | @unwritten text _ c pass next _ hsource h hread =>
    have horderly := h.accounts.toOrderly.mono ⟨_, hsource.symm⟩
    rw [readChar] at hread
    split at hread
    · rcases keeps_of_readSymbol_stopped hread with hkeeps | ⟨loop, rest, hloops, hkeeps⟩
      · exact horderly.of_keeps hkeeps
      · exact (horderly.pop hloops).of_keeps hkeeps
    · cases hread

/-- A run that no margin error stops leaves its accounts in order. -/
theorem run_accounts (settings : Settings) (source : List Char)
    (h : ∀ cause, (run settings source).stop ≠ some (.margin cause)) :
    (run settings source).pass.Accounts settings
      (consumed source (run settings source).stop) := by
  have hending := run_ending settings source
  generalize run settings source = progress at h hending
  cases hending with
  | complete hreached => exact hreached.accounts_settled
  | unmatchedClose hsource hreached =>
    rw [consumed, hsource, List.take_left]
    exact hreached.accounts_settled
  | unmatchedOpen hreached => exact hreached.accounts
  | unwritten => exact absurd rfl (h _)
  | unflushed => exact absurd rfl (h _)

end BrainfuckWasm.Body.Pass
