import BrainfuckWasm.Body.Emitter
import BrainfuckWasm.Proofs.Listing.BodyLines
import BrainfuckWasm.Proofs.Reached

/-!
# What a fault in the loops leaves behind

An emitter that has stopped at an unbalanced source shows a part of a body, and each of the two
faults leaves its own kind of part. A loop end without a start is found after everything pending is
written, so the part is the complete body of what comes before it. A loop start without an end is
found before the last flush, so the part still lacks what is pending and the ends of its loops: with
as many loop ends appended to the source, exactly these lines follow.

The one thing that appended loop ends can run into is the width of the innermost loop, at which
nothing need have been written yet. All other widths of the missing lines were those of lines at the
loop starts.
-/

namespace BrainfuckWasm.Body

/-- The lines that end open loops, from the innermost outwards. -/
def closings (step width : Int) : List OpenLoop → List Line
  | [] => []
  | loop :: outer =>
    closingLines (width - step) step loop.label ++ closings step (width - step) outer

/-- Each loop is ended by three lines. -/
theorem length_closings (step width : Int) (loops : List OpenLoop) :
    (closings step width loops).length = 3 * loops.length := by
  induction loops generalizing width with
  | nil => rfl
  | cons loop outer ih =>
    rw [closings, List.length_append, ih, List.length_cons, Nat.mul_succ, Nat.add_comm]
    rfl

/-- Loops can be ended if their widths, and those one more than the width outside, have margins. -/
theorem firstMarginError_closings {base step : Int} (loops : List OpenLoop)
    (hwidth : marginError? (base + step * loops.length) = none)
    (houter : ∀ level < loops.length, marginError? (base + step * level) = none ∧
      marginError? (base + step * level + 1) = none) :
    firstMarginError (closings step (base + step * loops.length) loops) = none := by
  induction loops with
  | nil => rfl
  | cons loop outer ih =>
    have hlower : base + step * ((outer.length + 1 : Nat) : Int) - step =
        base + step * outer.length := by
      push_cast
      ring
    obtain ⟨hplain, hnext⟩ := houter outer.length (Nat.lt_succ_self _)
    rw [List.length_cons] at hwidth
    rw [closings, List.length_cons, firstMarginError_append, Option.or_eq_none_iff]
    constructor
    · rw [closingLines, Int.sub_add_cancel, hlower]
      simp only [firstMarginError, List.findSome?_cons, List.findSome?_nil, hwidth, hplain, hnext]
    · rw [hlower]
      exact ih hplain fun level hlevel => houter level (Nat.lt_succ_of_lt hlevel)

namespace Pass

/-- What is read without a stop has a beginning that is read without a stop. -/
theorem Reached.of_append {settings : Settings} {text rest : List Char} {pass : Pass}
    (h : Reached settings (text ++ rest) pass) : ∃ before, Reached settings text before := by
  rw [reached_iff, readFrom_append] at h
  generalize hread : (Pass.start settings).readFrom 0 text = progress at h
  obtain ⟨before, stop⟩ := progress
  cases stop with
  | none => exact ⟨before, reached_iff.mpr hread⟩
  | some stop => cases h

/-- The lines at the start of an open loop had their margins. -/
theorem Reached.margins {settings : Settings} {text : List Char} {pass : Pass}
    (h : Reached settings text pass) :
    ∀ level < pass.depth, marginError? (settings.baseIndent + settings.indentStep * level) = none ∧
      marginError? (settings.baseIndent + settings.indentStep * level + 1) = none := by
  induction h with
  | start => simp [Pass.start]
  | comment _ _ ih => exact ih
  | @symbol text pass symbol h _ hmargin ih =>
    cases symbol with
    | loopOpen =>
      intro level hlevel
      rcases Nat.lt_succ_iff_lt_or_eq.mp hlevel with hlower | rfl
      · exact ih level hlower
      · rw [due, firstMarginError_append, Option.or_eq_none_iff] at hmargin
        have hopening := hmargin.2
        rw [h.indent_eq] at hopening
        simp only [openingLines, firstMarginError, List.findSome?_eq_none_iff, List.mem_cons,
          List.not_mem_nil, or_false, forall_eq_or_imp, forall_eq] at hopening
        exact ⟨hopening.1, hopening.2.1⟩
    | loopClose => exact fun level hlevel => ih level (Nat.lt_of_lt_of_le hlevel (Nat.sub_le _ _))
    | _ => exact ih

/-- A pass that has written all that is pending and ended its open loops. -/
def unwound (pass : Pass) : Pass :=
  { (pass.extend (pass.pendingLines ++
      closings pass.settings.indentStep pass.indent pass.openLoops)).settled with
    depth := pass.depth - pass.openLoops.length
    indent := pass.indent - pass.settings.indentStep * pass.openLoops.length
    openLoops := [] }

/-- A pass that has read one loop end unwinds to the same state. -/
theorem unwound_turn {pass : Pass} {loop : OpenLoop} {outer : List OpenLoop}
    (hloops : pass.openLoops = loop :: outer) (position : Nat) :
    ((pass.extend (pass.due .loopClose)).turn position .loopClose).unwound = pass.unwound := by
  have hdepth : pass.depth - 1 - outer.length = pass.depth - (outer.length + 1) := by omega
  have hindent : pass.indent - pass.settings.indentStep -
      pass.settings.indentStep * (outer.length : Int) =
      pass.indent - pass.settings.indentStep * ((outer.length + 1 : Nat) : Int) := by
    push_cast
    ring
  have hlines : (pass.extend (pass.due .loopClose)).extend
      (closings pass.settings.indentStep (pass.indent - pass.settings.indentStep) outer) =
      pass.extend (pass.pendingLines ++
        closings pass.settings.indentStep pass.indent (loop :: outer)) := by
    rw [extend_extend, due_loopClose hloops, List.append_assoc]
    rfl
  have htail : pass.openLoops.tail = outer := by rw [hloops, List.tail_cons]
  simp only [unwound, hloops, ← hlines, List.length_cons, ← hdepth, ← hindent]
  rw [← htail]
  rfl

/-- As many loop ends as there are open loops write what is pending and end the loops. -/
theorem readFrom_closers_writes (pass : Pass) (position : Nat) :
    ((pass.readFrom position (List.replicate pass.openLoops.length ']')).andThen flush).Writes
      (pass.pendingLines ++ closings pass.settings.indentStep pass.indent pass.openLoops)
      pass.unwound := by
  generalize hloops : pass.openLoops = loops
  induction loops generalizing pass position with
  | nil =>
    have hunwound : pass.unwound = (pass.extend pass.pendingLines).settled := by
      simp [unwound, hloops, closings, extend, settled]
    rw [hunwound, closings, List.append_nil]
    exact flush_writes pass
  | cons loop outer ih =>
    -- The first loop end flushes, so nothing is pending before the others.
    have hopen : Symbol.loopClose = .loopClose → pass.openLoops ≠ [] := by simp [hloops]
    let next := (pass.extend (pass.due .loopClose)).turn position .loopClose
    have hnext : next.openLoops = outer := by
      change pass.openLoops.tail = outer
      rw [hloops, List.tail_cons]
    have hwrites := (readSymbol_writes pass position .loopClose hopen).andThen
      (fun reached => (reached.readFrom (position + 1) (List.replicate outer.length ']')).andThen
        flush) (ih next (position + 1) hnext)
    have hread : (pass.readFrom position (List.replicate (outer.length + 1) ']')).andThen flush =
        (pass.readSymbol position .loopClose).andThen fun reached =>
          (reached.readFrom (position + 1) (List.replicate outer.length ']')).andThen flush := by
      rw [List.replicate_succ, readFrom_cons, Progress.andThen_assoc]
      rfl
    have hlines : pass.due .loopClose ++ (next.pendingLines ++
        closings next.settings.indentStep next.indent outer) =
        pass.pendingLines ++ closings pass.settings.indentStep pass.indent (loop :: outer) := by
      rw [due_loopClose hloops, List.append_assoc]
      rfl
    rw [List.length_cons, hread, ← hlines, ← unwound_turn hloops position]
    exact hwrites

/-- A first loop end finds no margin if the current width has none. -/
theorem firstMarginError_due_loopClose {pass : Pass} {cause : MarginError}
    (hopen : pass.openLoops ≠ []) (hmargin : marginError? pass.indent = some cause) :
    firstMarginError (pass.due .loopClose) = some cause := by
  obtain ⟨loop, outer, hloops⟩ := List.exists_cons_of_ne_nil hopen
  rw [due_loopClose hloops, firstMarginError_append]
  cases hpending : firstMarginError pass.pendingLines with
  | some earlier =>
    obtain ⟨line, hline, hwidth⟩ := exists_line_of_firstMarginError hpending
    rw [width_of_mem_pendingLines hline, hmargin] at hwidth
    rw [Option.some_or, hwidth]
  | none =>
    rw [Option.none_or, closingLines, Int.sub_add_cancel]
    simp only [firstMarginError, List.findSome?_cons, hmargin]

/-- What is pending is two lines, or nothing. -/
theorem length_pendingLines {pass : Pass} (h : pass.pendingMove = 0 ∨ pass.pendingDelta = 0) :
    pass.pendingLines.length =
      if pass.pendingMove = 0 ∧ pass.pendingDelta = 0 then 0 else 2 := by
  rw [pendingLines, moveLines, changeLines]
  rcases h with hmove | hdelta
  · by_cases hdelta : pass.pendingDelta = 0
    · simp [hmove, hdelta]
    · simp [hmove, hdelta]
  · by_cases hmove : pass.pendingMove = 0
    · simp [hmove, hdelta]
    · simp [hmove, hdelta]

end Pass

/-- A source with loop ends appended to it. -/
def closedBy (source : String) (count : Nat) : String :=
  source ++ String.ofList (List.replicate count ']')

/-- The characters of a source come before the loop ends. -/
theorem toList_closedBy (source : String) (count : Nat) :
    (closedBy source count).toList = source.toList ++ List.replicate count ']' := by
  rw [closedBy, String.toList_append, String.toList_ofList]

/-- A pass that shows the complete body of a source. -/
structure ShowsWhole (settings : Settings) (source : String) (pass : Pass) : Prop where
  compile_eq : compile settings source = .ok ⟨pass.body, pass.nextLabel⟩
  pendingMove_eq : pass.pendingMove = 0
  pendingDelta_eq : pass.pendingDelta = 0
  depth_eq : pass.depth = 0
  openLoops_eq : pass.openLoops = []
  indent_eq : pass.indent = settings.baseIndent

/-- A pass that shows the body of a source with open loops as far as it goes. -/
structure ShowsPart (settings : Settings) (source : String) (pass : Pass) : Prop where
  depth_pos : 0 < pass.depth
  pending_length : pass.pendingLines.length =
    if pass.pendingMove = 0 ∧ pass.pendingDelta = 0 then 0 else 2
  closing_length : (closings pass.settings.indentStep pass.indent pass.openLoops).length =
    3 * pass.depth
  /-- With a loop end for each open loop, the lines go on with what is pending and the ends. -/
  completed : marginError? pass.indent = none →
    ∃ text, compile settings (closedBy source pass.depth) = .ok ⟨text, pass.nextLabel⟩ ∧
      Listing.textLines text = pass.output ++ (pass.pendingLines ++
        closings pass.settings.indentStep pass.indent pass.openLoops).map
          (Line.render pass.settings.addressing)
  /-- With fewer loop ends, a loop is still open. -/
  unfinished : marginError? pass.indent = none → ∀ count < pass.depth, ∃ position,
    compile settings (closedBy source count) = .error (.unbalanced (.unmatchedOpen position))
  /-- If the current width has no margin, no loop end can be read. -/
  unwritable : ∀ cause, marginError? pass.indent = some cause → ∀ count, 0 < count →
    compile settings (closedBy source count) = .error (.margin cause)

namespace Pass

/-- A text after which nothing is open compiles to the lines read so far and what is pending. -/
theorem Reached.showsWhole {settings : Settings} {text : List Char} {pass : Pass}
    (h : Reached settings text pass) (hopen : pass.openLoops = [])
    (hmargin : firstMarginError pass.pendingLines = none) :
    ShowsWhole settings (String.ofList text) (pass.extend pass.pendingLines).settled where
  compile_eq := by
    have hrun : run settings text = ⟨(pass.extend pass.pendingLines).settled, none⟩ := by
      rw [run, reached_iff.mp h, Progress.andThen_none, Pass.finish, hopen]
      exact (flush_writes pass).finished hmargin
    rw [compile, String.toList_ofList, hrun]
  pendingMove_eq := rfl
  pendingDelta_eq := rfl
  depth_eq := by
    change pass.depth = 0
    rw [h.depth_eq, hopen, List.length_nil]
  openLoops_eq := hopen
  indent_eq := by
    change pass.indent = settings.baseIndent
    rw [h.indent_eq, h.depth_eq, hopen, List.length_nil, Nat.cast_zero, Int.mul_zero, Int.add_zero]

/-- With a loop end for each open loop, the run ends the loops. -/
theorem Reached.run_closers {settings : Settings} {text : List Char} {pass : Pass}
    (h : Reached settings text pass) (hmargin : marginError? pass.indent = none) :
    run settings (text ++ List.replicate pass.depth ']') = ⟨pass.unwound, none⟩ := by
  have hlines : firstMarginError (pass.pendingLines ++
      closings pass.settings.indentStep pass.indent pass.openLoops) = none := by
    rw [firstMarginError_append, Option.or_eq_none_iff]
    constructor
    · cases hpending : firstMarginError pass.pendingLines with
      | none => rfl
      | some cause =>
        obtain ⟨line, hline, hwidth⟩ := exists_line_of_firstMarginError hpending
        rw [width_of_mem_pendingLines hline, hmargin] at hwidth
        cases hwidth
    · have hlevels := h.margins
      rw [h.indent_eq, h.depth_eq] at hmargin
      rw [h.depth_eq] at hlevels
      rw [h.indent_eq, h.depth_eq, h.follows.settings_eq]
      exact firstMarginError_closings pass.openLoops hmargin hlevels
  have hclosed := (readFrom_closers_writes pass text.length).finished hlines
  rw [← h.depth_eq] at hclosed
  have hbalanced := h.follows.starts.append_closers
  rw [List.length_map, ← h.depth_eq] at hbalanced
  rw [run_eq_of_balanced settings hbalanced, readFrom_append, reached_iff.mp h,
    Progress.andThen_none, Nat.zero_add, hclosed]

/-- With fewer loop ends, the run finds a loop that is still open. -/
theorem Reached.run_fewer {settings : Settings} {text : List Char} {pass : Pass}
    (h : Reached settings text pass) (hmargin : marginError? pass.indent = none) {count : Nat}
    (hcount : count < pass.depth) : ∃ position,
      (run settings (text ++ List.replicate count ']')).stop =
        some (.unbalanced (.unmatchedOpen position)) := by
  -- All the loop ends can be read, so the first of them can.
  obtain ⟨last, hlast⟩ : ∃ last, Reached settings (text ++ List.replicate pass.depth ']') last := by
    have hend := run_ending settings (text ++ List.replicate pass.depth ']')
    rw [h.run_closers hmargin] at hend
    generalize pass.unwound = last at hend
    cases hend with
    | complete hreached => exact ⟨_, hreached⟩
  have hsplit : List.replicate pass.depth ']' =
      List.replicate count ']' ++ List.replicate (pass.depth - count) ']' := by
    rw [List.replicate_append_replicate, Nat.add_sub_cancel' hcount.le]
  rw [hsplit, ← List.append_assoc] at hlast
  obtain ⟨before, hbefore⟩ := hlast.of_append
  have hopens := h.follows.starts.opens_eq
  have hopensBefore := hbefore.follows.starts.opens_eq
  rw [List.length_map, ← h.depth_eq] at hopens
  have hnoOpens : opens (List.replicate count ']') = 0 := List.count_eq_zero.mpr (by simp)
  have hcloses : closes (List.replicate count ']') = count := List.count_replicate_self
  rw [List.length_map, opens_append, closes_append, hnoOpens, hcloses] at hopensBefore
  cases hloops : before.openLoops with
  | nil =>
    rw [hloops, List.length_nil] at hopensBefore
    omega
  | cons loop outer =>
    refine ⟨loop.position, ?_⟩
    rw [run, reached_iff.mp hbefore, Progress.andThen_none, Pass.finish, hloops]

/-- With the current width unwritable, the run stops at the first loop end. -/
theorem Reached.run_stopped {settings : Settings} {text : List Char} {pass : Pass}
    (h : Reached settings text pass) (hopen : pass.openLoops ≠ []) {cause : MarginError}
    (hmargin : marginError? pass.indent = some cause) {count : Nat} (hcount : 0 < count) :
    (run settings (text ++ List.replicate count ']')).stop = some (.margin cause) := by
  obtain ⟨fewer, rfl⟩ : ∃ fewer, count = fewer + 1 := ⟨count - 1, by omega⟩
  have hread := (readSymbol_writes pass text.length .loopClose fun _ => hopen).stopped cause
    (firstMarginError_due_loopClose hopen hmargin)
  rw [run, readFrom_append, reached_iff.mp h, Progress.andThen_none, Nat.zero_add,
    List.replicate_succ, readFrom_cons]
  exact Progress.stop_andThen (Progress.stop_andThen hread _) Pass.finish

/-- A text after which loops are open is shown as far as it goes. -/
theorem Reached.showsPart {settings : Settings} {source : String} {pass : Pass}
    (h : Reached settings source.toList pass) (hopen : pass.openLoops ≠ []) :
    ShowsPart settings source pass where
  depth_pos := by
    rw [h.depth_eq]
    exact List.length_pos_iff.mpr hopen
  pending_length := length_pendingLines h.pending
  closing_length := by rw [length_closings, h.depth_eq]
  completed := by
    intro hmargin
    refine ⟨pass.unwound.body, ?_, ?_⟩
    · rw [compile, toList_closedBy, h.run_closers hmargin]
      rfl
    · rw [body, output, Listing.textLines_join]
      simp [unwound, extend, settled, output]
  unfinished := by
    intro hmargin count hcount
    obtain ⟨position, hstop⟩ := h.run_fewer hmargin hcount
    rw [← toList_closedBy] at hstop
    exact ⟨position, compile_eq_error hstop⟩
  unwritable := by
    intro cause hmargin count hcount
    have hstop := h.run_stopped hopen hmargin hcount
    rw [← toList_closedBy] at hstop
    exact compile_eq_error hstop

end Pass

/-- A compile request leaves an emitter with the state that the run reaches. -/
theorem Emitter.run_of_handle_stopped {emitter after : Emitter} {source : String} {stop : Stop}
    (h : emitter.handle (.compile source) = (after, .stopped stop)) :
    Pass.run emitter.settings source.toList = ⟨after.pass, some stop⟩ := by
  rw [handle] at h
  split at h
  · cases h
  · next hrun =>
    cases h
    exact hrun

/-- A fault in the loops leaves a faithful part of a body. Where a loop end is unmatched, that is
the body of all before it. Where a loop start is unmatched, loop ends appended to the source
complete the part by what is pending and by three lines for each loop, unless the width inside the
innermost loop has no margin. -/
theorem handle_fault_shows (emitter after : Emitter) (source : String) (position : Nat) :
    (emitter.handle (.compile source) =
        (after, .stopped (.unbalanced (.unmatchedClose position))) →
      ShowsWhole emitter.settings (String.ofList (source.toList.take position)) after.pass) ∧
    (emitter.handle (.compile source) =
        (after, .stopped (.unbalanced (.unmatchedOpen position))) →
      ShowsPart emitter.settings source after.pass) := by
  have hending := Pass.run_ending emitter.settings source.toList
  constructor
  · intro h
    rw [Emitter.run_of_handle_stopped h] at hending
    generalize hpass : after.pass = pass at hending
    cases hending with
    | unmatchedClose hsource hreached hopen hmargin =>
      rw [hsource, List.take_left]
      exact hreached.showsWhole hopen hmargin
  · intro h
    rw [Emitter.run_of_handle_stopped h] at hending
    generalize after.pass = pass at hending
    cases hending with
    | unmatchedOpen hreached hopen =>
      exact hreached.showsPart (by simp [hopen])

/-- An unmatched loop end leaves the body of the change before it; an unmatched loop start leaves an
opening to which the change inside and the end of the loop can be added. -/
theorem handle_fault_shows_change :
    (∃ after, (Emitter.new {}).handle (.compile "+]-") =
        (after, .stopped (.unbalanced (.unmatchedClose 1))) ∧
      ShowsWhole {} (String.ofList ("+]-".toList.take 1)) after.pass) ∧
    ∃ after, (Emitter.new {}).handle (.compile "[+") =
        (after, .stopped (.unbalanced (.unmatchedOpen 0))) ∧
      ShowsPart {} "[+" after.pass ∧ marginError? after.pass.indent = none :=
  ⟨⟨_, rfl, (handle_fault_shows (Emitter.new {}) _ "+]-" 1).1 rfl⟩,
    ⟨_, rfl, (handle_fault_shows (Emitter.new {}) _ "[+" 0).2 rfl, by decide⟩⟩

/-- At the least 64-bit width, a step outwards leaves an open loop that no loop end can close. -/
theorem not_closable_below_words :
    ¬ ∀ (emitter after : Emitter) (source : String) (position : Nat),
      emitter.handle (.compile source) =
        (after, .stopped (.unbalanced (.unmatchedOpen position))) →
      ∃ compiled, compile emitter.settings (closedBy source after.pass.depth) = .ok compiled := by
  intro h
  obtain ⟨compiled, hcompile⟩ :=
    h (Emitter.new { baseIndent := -0x8000000000000000, indentStep := -1 }) _ "[" 0 rfl
  have hrefused : compile { baseIndent := -0x8000000000000000, indentStep := -1 } "[]" =
      .error (.margin .outOfRange) := by rfl
  cases hrefused.symm.trans hcompile

end BrainfuckWasm.Body
