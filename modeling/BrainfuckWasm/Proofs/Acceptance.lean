import BrainfuckWasm.Proofs.Layout
import BrainfuckWasm.Proofs.Reached
import BrainfuckWasm.Proofs.Settled

/-!
# Which sources compile, and what is wrong with the others

A pass over a source comes to write certain lines, whether or not they have margins: those of the
whole source if it is balanced, and those of the part before a first loop end that nothing matches.
Where a loop start is never closed, the moves or changes at the very end are still pending, and
their lines are not asked for any more. The first of these lines without a margin gives the error;
if there is none, the source compiles exactly if it is balanced, and otherwise the bracket that is
wrong is reported.
-/

namespace BrainfuckWasm

/-- The first loop end that nothing matches. -/
def firstUnmatchedClose? (source : List Char) : Option Nat :=
  (List.range source.length).find? fun position => decide (UnmatchedClose source position)

/-- The runs of a source whose lines are asked for: all of a balanced source, those before the first
loop end that nothing matches, and all but what is pending where a loop start is never closed. -/
def Run.asked (source : List Char) : List Run :=
  match firstUnmatchedClose? source with
  | some position => ofSource (source.take position)
  | none =>
    if Balanced source then ofSource source else ofSymbols (Symbol.settled (Symbol.ofSource source))

/-- The loop end after a balanced text is the first that nothing matches. -/
theorem firstUnmatchedClose?_of_close {inner : List Char} (h : Balanced inner) (rest : List Char) :
    firstUnmatchedClose? (inner ++ ']' :: rest) = some inner.length := by
  have hstarts : OpenStarts inner [] := .none h
  rw [firstUnmatchedClose?, List.find?_range_eq_some]
  refine ⟨decide_eq_true (hstarts.unmatchedClose rest), by simp, fun earlier hlt => ?_⟩
  rw [Bool.not_eq_true', decide_eq_false_iff_not]
  exact fun hearlier => Nat.not_le.mpr hlt (hstarts.le_unmatchedClose hearlier)

/-- A covered text has no loop end that nothing matches. -/
theorem firstUnmatchedClose?_of_covered {source : List Char} (h : Covered source) :
    firstUnmatchedClose? source = none :=
  List.find?_eq_none.mpr fun _ _ => by simpa using h.not_unmatchedClose

namespace Body

/-- The lines of a move stand in the slots of its run. -/
theorem fits_moveLines {base step width : Int} {before : List Run}
    (hwidth : width = base + step * Run.openAfter before) (amount : Int) :
    List.Forall₂ (Line.Fits base step) (moveLines width amount)
      (Run.layout before (Run.unlessZero .moves amount)) := by
  rw [moveLines, Run.unlessZero]
  split
  · exact .nil
  · exact .cons (.plain hwidth _) (.cons (.plain hwidth _) .nil)

/-- The lines of a change stand in the slots of its run. -/
theorem fits_changeLines {base step width : Int} {before : List Run}
    (hwidth : width = base + step * Run.openAfter before) (amount : Int) :
    List.Forall₂ (Line.Fits base step) (changeLines width amount)
      (Run.layout before (Run.unlessZero .changes amount)) := by
  rw [changeLines, Run.unlessZero]
  split
  · exact .nil
  · exact .cons (.plain hwidth _) (.cons (.plain hwidth _) .nil)

/-- A total of a kind that opens nothing leaves no loop open. -/
theorem openAfter_unlessZero {run : Int → Run} (h : ∀ total, (run total).opened = 0) (total : Int) :
    Run.openAfter (Run.unlessZero run total) = 0 := by
  rw [Run.unlessZero]
  split
  · rfl
  · rw [Run.openAfter, List.map_singleton, List.sum_singleton, h]

/-- Moves and changes leave no loop open. -/
theorem openAfter_pending (moves changes : Int) :
    Run.openAfter (Run.unlessZero .moves moves ++ Run.unlessZero .changes changes) = 0 := by
  rw [Run.openAfter_append, openAfter_unlessZero fun _ => rfl, openAfter_unlessZero fun _ => rfl,
    Int.add_zero]

namespace Pass

/-- The lines of what is pending stand in the slots of its runs. -/
theorem fits_pendingLines {base step : Int} {pass : Pass} {before : List Run}
    (hwidth : pass.indent = base + step * Run.openAfter before) :
    List.Forall₂ (Line.Fits base step) pass.pendingLines (Run.layout before
      (Run.unlessZero .moves pass.pendingMove ++ Run.unlessZero .changes pass.pendingDelta)) :=
  fits_append (fits_moveLines hwidth _)
    (fits_changeLines (width_append_of_closed hwidth (openAfter_unlessZero (fun _ => rfl) _)) _)

/-- The lines that a symbol writes stand in the slots of the runs that it settles. -/
theorem fits_due {base : Int} {pass : Pass} {before : List Run}
    (hwidth : pass.indent = base + pass.settings.indentStep * Run.openAfter before)
    (symbol : Symbol) (hopen : symbol = .loopClose → pass.openLoops ≠ []) :
    List.Forall₂ (Line.Fits base pass.settings.indentStep) (pass.due symbol) (Run.layout before
      (Run.settledBy pass.pendingMove pass.pendingDelta symbol)) := by
  have hafter := width_append_of_closed hwidth
    (openAfter_pending pass.pendingMove pass.pendingDelta)
  cases symbol with
  | right | left => exact fits_changeLines hwidth _
  | increment | decrement => exact fits_moveLines hwidth _
  | output =>
    exact fits_append (fits_pendingLines hwidth)
      (.cons (.plain hafter _) (.cons (.plain hafter _) .nil))
  | input => exact fits_append (fits_pendingLines hwidth) (.cons (.plain hafter _) .nil)
  | loopOpen => exact fits_append (fits_pendingLines hwidth) (fits_openingLines hafter _)
  | loopClose =>
    obtain ⟨loop, outer, hloops⟩ := List.exists_cons_of_ne_nil (hopen rfl)
    rw [due_loopClose hloops]
    exact fits_append (fits_pendingLines hwidth)
      (fits_closingLines (by rw [Int.sub_add_cancel]; exact hafter) _)

/-- Reading a symbol moves the cut. -/
theorem cut_turn {pass : Pass} {front stretch : List Symbol}
    (h : Run.Cut front stretch pass.pendingMove pass.pendingDelta) (lines : List Line)
    (position : Nat) (symbol : Symbol) :
    ∃ before rest, front ++ stretch ++ [symbol] = before ++ rest ∧
      Run.Cut before rest ((pass.extend lines).turn position symbol).pendingMove
        ((pass.extend lines).turn position symbol).pendingDelta ∧
      Run.ofSymbols before =
        Run.ofSymbols front ++ Run.settledBy pass.pendingMove pass.pendingDelta symbol := by
  cases symbol with
  | right => exact h.move true
  | left => exact h.move false
  | increment => exact h.change true
  | decrement => exact h.change false
  | output | input | loopOpen | loopClose =>
    exact ⟨_, [], (List.append_nil _).symm, h.single ⟨rfl, rfl⟩⟩

/-- Reading a symbol changes the width by a step for each loop that it opens or closes. -/
theorem indent_turn (pass : Pass) (lines : List Line) (position : Nat) (symbol : Symbol) :
    ((pass.extend lines).turn position symbol).indent = pass.indent + pass.settings.indentStep *
      Run.openAfter (Run.settledBy pass.pendingMove pass.pendingDelta symbol) := by
  have hsingle (run : Run) : Run.openAfter (Run.unlessZero .moves pass.pendingMove ++
      Run.unlessZero .changes pass.pendingDelta ++ [run]) = run.opened := by
    rw [Run.openAfter_append, openAfter_pending, Int.zero_add, Run.openAfter, List.map_singleton,
      List.sum_singleton]
  cases symbol with
  | right | left =>
    rw [Run.settledBy, openAfter_unlessZero fun _ => rfl, Int.mul_zero, Int.add_zero]
    rfl
  | increment | decrement =>
    rw [Run.settledBy, openAfter_unlessZero fun _ => rfl, Int.mul_zero, Int.add_zero]
    rfl
  | output =>
    change pass.indent = _ + _ * Run.openAfter (_ ++ [.output])
    rw [hsingle, show Run.opened .output = 0 from rfl, Int.mul_zero, Int.add_zero]
  | input =>
    change pass.indent = _ + _ * Run.openAfter (_ ++ [.input])
    rw [hsingle, show Run.opened .input = 0 from rfl, Int.mul_zero, Int.add_zero]
  | loopOpen =>
    change pass.indent + pass.settings.indentStep = _ + _ * Run.openAfter (_ ++ [.loopStart])
    rw [hsingle, Run.opened, Int.mul_one]
  | loopClose =>
    change pass.indent - pass.settings.indentStep = _ + _ * Run.openAfter (_ ++ [.loopEnd])
    rw [hsingle, Run.opened]
    omega

/-- What reading a text comes to: lines to write, whether or not they have margins, which stand in
the slots of the runs that are settled, and a state that holds back the sums of the rest. -/
structure Drafts (settings : Settings) (text : List Char) (front stretch : List Symbol)
    (lines : List Line) (pass : Pass) : Prop where
  writes : ((start settings).readFrom 0 text).Writes lines pass
  follows : pass.Follows settings text
  symbols_eq : Symbol.ofSource text = front ++ stretch
  cut : Run.Cut front stretch pass.pendingMove pass.pendingDelta
  indent_eq : pass.indent =
    settings.baseIndent + settings.indentStep * Run.openAfter (Run.ofSymbols front)
  fits : List.Forall₂ (Line.Fits settings.baseIndent settings.indentStep) lines
    (Run.layout [] (Run.ofSymbols front))

namespace Drafts

/-- A comment asks for no line. -/
theorem comment {settings : Settings} {text : List Char} {front stretch : List Symbol}
    {lines : List Line} {pass : Pass} (h : Drafts settings text front stretch lines pass) {c : Char}
    (hc : Symbol.ofChar? c = none) : Drafts settings (text ++ [c]) front stretch lines pass := by
  have hbalanced := balanced_of_comment hc
  have hwrites : ((start settings).readFrom 0 (text ++ [c])).Writes (lines ++ []) pass := by
    rw [readFrom_concat]
    refine h.writes.andThen _ ?_
    rw [readChar, hc]
    exact .nothing pass
  rw [List.append_nil] at hwrites
  refine { h with writes := hwrites, follows := ?_, symbols_eq := ?_ }
  · exact ⟨h.follows.settings_eq,
      h.follows.indent_eq.trans (settings.widthAfter_append_balanced hbalanced).symm,
      h.follows.starts.append_balanced hbalanced⟩
  · rw [Symbol.ofSource, List.filterMap_append, List.filterMap_cons, hc, List.filterMap_nil,
      List.append_nil]
    exact h.symbols_eq

/-- A symbol asks for the lines that are due. -/
theorem symbol {settings : Settings} {text : List Char} {front stretch : List Symbol}
    {lines : List Line} {pass : Pass} (h : Drafts settings text front stretch lines pass)
    (symbol : Symbol) (hopen : symbol = .loopClose → pass.openLoops ≠ []) :
    ∃ before rest, Drafts settings (text ++ [symbol.toChar]) before rest
      (lines ++ pass.due symbol) ((pass.extend (pass.due symbol)).turn text.length symbol) := by
  have hsettings := h.follows.settings_eq
  obtain ⟨before, rest, hsymbols, hcut, hruns⟩ :=
    cut_turn h.cut (pass.due symbol) text.length symbol
  refine ⟨before, rest, ?_, h.follows.turn _ symbol hopen, ?_, hcut, ?_, ?_⟩
  · rw [readFrom_concat]
    refine h.writes.andThen _ ?_
    rw [readChar, Symbol.ofChar?_toChar, Nat.zero_add]
    exact readSymbol_writes pass text.length symbol hopen
  · rw [← hsymbols, ← h.symbols_eq, Symbol.ofSource, List.filterMap_append]
    simp [Symbol.ofSource]
  · rw [hruns, ← width_append h.indent_eq, ← hsettings]
    exact indent_turn pass (pass.due symbol) text.length symbol
  · rw [hruns]
    refine fits_append h.fits ?_
    rw [← hsettings]
    exact fits_due (by rw [hsettings]; exact h.indent_eq) symbol hopen

end Drafts

/-- Every covered text comes to some lines. -/
theorem exists_drafts (settings : Settings) {text : List Char} (h : Covered text) :
    ∃ front stretch lines pass, Drafts settings text front stretch lines pass := by
  induction text using List.reverseRecOn with
  | nil =>
    exact ⟨[], [], [], start settings, .nothing _, start_follows settings, rfl, .nothing,
      by simp [start, Run.openAfter, Run.ofSymbols], .nil⟩
  | append_singleton text c ih =>
    obtain ⟨front, stretch, lines, pass, hdrafts⟩ :=
      ih fun before hbefore => h before (hbefore.trans (List.prefix_append _ _))
    cases hc : Symbol.ofChar? c with
    | none => exact ⟨front, stretch, lines, pass, hdrafts.comment hc⟩
    | some symbol =>
      obtain rfl := Symbol.eq_toChar hc
      have hopen : symbol = .loopClose → pass.openLoops ≠ [] := by
        rintro rfl hnil
        have hstarts := hdrafts.follows.starts
        rw [hnil, List.map_nil] at hstarts
        exact not_covered_of_balanced_before_close hstarts.balanced h
      obtain ⟨before, rest, hnext⟩ := hdrafts.symbol symbol hopen
      exact ⟨before, rest, _, _, hnext⟩

/-- The lines that a text comes to are those of its settled runs. -/
theorem Drafts.refusal?_eq {settings : Settings} {text : List Char} {front stretch : List Symbol}
    {lines : List Line} {pass : Pass} (h : Drafts settings text front stretch lines pass) :
    settings.refusal? (Run.ofSymbols (Symbol.settled (Symbol.ofSource text))) =
      firstMarginError lines := by
  rw [h.symbols_eq, h.cut.settled_eq, firstMarginError_eq_of_fits h.fits]
  rfl

/-- With what is pending they are those of all its runs. -/
theorem Drafts.refusal?_eq_pending {settings : Settings} {text : List Char}
    {front stretch : List Symbol} {lines : List Line} {pass : Pass}
    (h : Drafts settings text front stretch lines pass) :
    settings.refusal? (Run.ofSource text) = firstMarginError (lines ++ pass.pendingLines) := by
  have hfits := fits_append h.fits (fits_pendingLines h.indent_eq)
  rw [Run.ofSource, h.symbols_eq, h.cut.ofSymbols_eq, firstMarginError_eq_of_fits hfits]
  rfl

/-- A loop end after a balanced text is reported, if the lines of the text have margins. -/
theorem run_of_close (settings : Settings) {inner : List Char} (h : Balanced inner)
    (rest : List Char) :
    (run settings (inner ++ ']' :: rest)).stop =
      some (((settings.refusal? (Run.ofSource inner)).map Stop.margin).getD
        (.unbalanced (.unmatchedClose inner.length))) := by
  obtain ⟨front, stretch, lines, pass, hdrafts⟩ := exists_drafts settings h.1
  have hloops : pass.openLoops = [] := by
    have hopens := hdrafts.follows.starts.opens_eq
    rw [h.2, List.length_map] at hopens
    exact List.length_eq_zero_iff.mp (by omega)
  have hrun : run settings (inner ++ ']' :: rest) =
      ((start settings).readFrom 0 inner).andThen fun next =>
        ((next.readSymbol inner.length .loopClose).andThen fun closed =>
          closed.readFrom (inner.length + 1) rest).andThen finish := by
    rw [run, readFrom_append, Nat.zero_add, Progress.andThen_assoc]
    simp only [readFrom_cons]
    rfl
  rw [hrun, hdrafts.refusal?_eq_pending, firstMarginError_append]
  cases hlines : firstMarginError lines with
  | some cause => exact Progress.stop_andThen (hdrafts.writes.stopped cause hlines) _
  | none =>
    rw [hdrafts.writes.finished hlines, Progress.andThen_none, Option.none_or]
    refine Progress.stop_andThen (Progress.stop_andThen ?_ _) _
    cases hpending : firstMarginError pass.pendingLines with
    | some cause => exact readSymbol_loopClose_stopped pass inner.length hpending
    | none => rw [readSymbol_loopClose_of_nil pass inner.length hloops hpending]; rfl

/-- A loop start that is never closed is reported, if the lines of what is settled have margins. -/
theorem run_of_open (settings : Settings) {source : List Char} (h : Covered source)
    (hbalanced : ¬ Balanced source) :
    ∃ position, IsGreatest {index | UnmatchedOpen source index} position ∧
      (run settings source).stop =
        some (((settings.refusal? (Run.ofSymbols (Symbol.settled (Symbol.ofSource source)))).map
          Stop.margin).getD (.unbalanced (.unmatchedOpen position))) := by
  obtain ⟨front, stretch, lines, pass, hdrafts⟩ := exists_drafts settings h
  have hstarts := hdrafts.follows.starts
  cases hloops : pass.openLoops with
  | nil =>
    rw [hloops, List.map_nil] at hstarts
    exact absurd hstarts.balanced hbalanced
  | cons loop outer =>
    rw [hloops, List.map_cons] at hstarts
    refine ⟨loop.position,
      ⟨hstarts.unmatchedOpen, fun later hlater => hstarts.unmatchedOpen_le hlater⟩, ?_⟩
    rw [run, hdrafts.refusal?_eq]
    cases hlines : firstMarginError lines with
    | some cause => exact Progress.stop_andThen (hdrafts.writes.stopped cause hlines) finish
    | none =>
      rw [hdrafts.writes.finished hlines, Progress.andThen_none, finish, hloops]
      rfl

end Pass

/-- What a source comes to, if a line that it asks for has no margin and if there is none. -/
theorem compile_of_asked (settings : Settings) (source : String) :
    (∃ cause, settings.refusal? (Run.asked source.toList) = some cause ∧
      compile settings source = .error (.margin cause)) ∨
    settings.refusal? (Run.asked source.toList) = none ∧
      ((∃ compiled, compile settings source = .ok compiled ∧ Balanced source.toList) ∨
      (∃ position, compile settings source = .error (.unbalanced (.unmatchedClose position)) ∧
        IsLeast {index | UnmatchedClose source.toList index} position ∧ ¬ Covered source.toList) ∨
      ∃ position, compile settings source = .error (.unbalanced (.unmatchedOpen position)) ∧
        IsGreatest {index | UnmatchedOpen source.toList index} position ∧ Covered source.toList ∧
        ¬ Balanced source.toList) := by
  by_cases hcovered : Covered source.toList
  · rw [Run.asked, firstUnmatchedClose?_of_covered hcovered]
    by_cases hbalanced : Balanced source.toList
    · simp only [if_pos hbalanced]
      exact (compile_of_refusal? settings hbalanced).imp id fun ⟨hnone, compiled, hcompile⟩ =>
        ⟨hnone, Or.inl ⟨compiled, hcompile, hbalanced⟩⟩
    · obtain ⟨position, hgreatest, hstop⟩ := Pass.run_of_open settings hcovered hbalanced
      have hcompile := compile_eq_error hstop
      simp only [if_neg hbalanced]
      cases hrefusal : settings.refusal? (Run.ofSymbols (Symbol.settled
          (Symbol.ofSource source.toList))) with
      | some cause =>
        rw [hrefusal] at hcompile
        exact Or.inl ⟨cause, rfl, hcompile⟩
      | none =>
        rw [hrefusal] at hcompile
        exact Or.inr ⟨rfl, Or.inr (Or.inr ⟨position, hcompile, hgreatest, hcovered, hbalanced⟩)⟩
  · obtain ⟨inner, rest, hsource, hinner⟩ := exists_balanced_before_close hcovered
    have hstarts : OpenStarts inner [] := .none hinner
    have hstop := Pass.run_of_close settings hinner rest
    rw [← hsource] at hstop
    have hcompile := compile_eq_error hstop
    have hasked : Run.asked source.toList = Run.ofSource inner := by
      rw [Run.asked, hsource, firstUnmatchedClose?_of_close hinner]
      exact congrArg Run.ofSource List.take_left
    rw [hasked]
    cases hrefusal : settings.refusal? (Run.ofSource inner) with
    | some cause =>
      rw [hrefusal] at hcompile
      exact Or.inl ⟨cause, rfl, hcompile⟩
    | none =>
      rw [hrefusal] at hcompile
      refine Or.inr ⟨rfl, Or.inr (Or.inl ⟨inner.length, hcompile, ?_, hcovered⟩)⟩
      rw [hsource]
      exact ⟨hstarts.unmatchedClose rest,
        fun earlier hearlier => hstarts.le_unmatchedClose hearlier⟩

/-- Compiling returns a body exactly for the balanced sources. Of the others it reports the first
loop end that nothing matches, or if there is none, the innermost loop start that is never closed.
The one exception is a line that is asked for and has no margin: the error is then that of the first
such line, and it is a margin error only then. -/
theorem compile_diagnosis (settings : Settings) (source : String) :
    (∀ cause, compile settings source = .error (.margin cause) ↔
      settings.refusal? (Run.asked source.toList) = some cause) ∧
    (settings.refusal? (Run.asked source.toList) = none →
      ((∃ compiled, compile settings source = .ok compiled) ↔ Balanced source.toList) ∧
      (¬ Covered source.toList → ∃ fault, compile settings source = .error (.unbalanced fault) ∧
        fault.message = "Unmatched ']' at position " ++ toString fault.position ∧
        IsLeast {index | UnmatchedClose source.toList index} fault.position) ∧
      (Covered source.toList → ¬ Balanced source.toList →
        ∃ fault, compile settings source = .error (.unbalanced fault) ∧
          fault.message = "Unmatched '[' at position " ++ toString fault.position ∧
          IsGreatest {index | UnmatchedOpen source.toList index} fault.position)) := by
  rcases compile_of_asked settings source with ⟨cause, hrefusal, hcompile⟩ | ⟨hrefusal, houtcome⟩
  · simp [hrefusal, hcompile]
  · rw [hrefusal]
    rcases houtcome with ⟨compiled, hcompile, hbalanced⟩ |
      ⟨position, hcompile, hleast, hcovered⟩ | ⟨position, hcompile, hgreatest, hcovered, hbalanced⟩
    · simp [hcompile, hbalanced, hbalanced.1]
    · have hbalanced : ¬ Balanced source.toList := fun h => hcovered h.1
      simp only [hcompile]
      refine ⟨by simp, fun _ => ⟨by simp [hbalanced], fun _ => ?_, fun h => absurd h hcovered⟩⟩
      exact ⟨_, rfl, rfl, hleast⟩
    · simp only [hcompile]
      refine ⟨by simp, fun _ => ⟨by simp [hbalanced], fun h => absurd hcovered h, fun _ _ => ?_⟩⟩
      exact ⟨_, rfl, rfl, hgreatest⟩

/-- The width inside a loop that is never closed is not asked for. -/
example : ({ baseIndent := -0x8000000000000000, indentStep := -1 } : Settings).refusal?
    (Run.asked "[+".toList) = none := by decide

/-- A balanced source does not compile at a width below the 64-bit integers, though the margin there
would be empty. -/
theorem compile_refuses_balanced :
    ¬ ((∃ compiled, compile { baseIndent := -0x8000000000000001 } "+" = .ok compiled) ↔
      Balanced "+".toList) := by
  have hcompile : compile { baseIndent := -0x8000000000000001 } "+" =
      .error (.margin .outOfRange) := by rfl
  have hbalanced : Balanced "+".toList := balanced_singleton (by decide) (by decide)
  rintro ⟨-, hreturns⟩
  obtain ⟨compiled, hok⟩ := hreturns hbalanced
  rw [hcompile] at hok
  cases hok

end BrainfuckWasm.Body
