import Mathlib.Order.Bounds.Defs
import Mathlib.Tactic.Ring
import BrainfuckWasm.Proofs.Balance
import BrainfuckWasm.Proofs.Writing

/-!
# What stops a pass

A pass remembers the loops that stand open, and its width follows their number. Both are determined
by the characters read so far, so a pass that no margin stops is stopped by what can be said of the
source alone: the first loop end that nothing matches, or the innermost loop start that is never
closed.
-/

namespace BrainfuckWasm.Body

/-- The width of a plain line after a text: one step inwards for each loop that it leaves open. -/
def Settings.widthAfter (settings : Settings) (text : List Char) : Int :=
  settings.baseIndent + settings.indentStep * ((opens text : Int) - closes text)

/-- A balanced text leaves the width as it is. -/
theorem Settings.widthAfter_append_balanced (settings : Settings) {text inner : List Char}
    (h : Balanced inner) : settings.widthAfter (text ++ inner) = settings.widthAfter text := by
  rw [widthAfter, widthAfter, opens_append, closes_append, h.2]
  congr 2
  omega

/-- A loop start raises the width by a step. -/
theorem Settings.widthAfter_append_open (settings : Settings) (text : List Char) :
    settings.widthAfter (text ++ ['[']) = settings.widthAfter text + settings.indentStep := by
  rw [widthAfter, widthAfter, opens_append, closes_append]
  change _ + _ * (((opens text + 1 : Nat) : Int) - ((closes text + 0 : Nat) : Int)) = _
  push_cast
  ring

/-- A loop end lowers the width by a step. -/
theorem Settings.widthAfter_append_close (settings : Settings) (text : List Char) :
    settings.widthAfter (text ++ [']']) = settings.widthAfter text - settings.indentStep := by
  rw [widthAfter, widthAfter, opens_append, closes_append]
  change _ + _ * (((opens text + 0 : Nat) : Int) - ((closes text + 1 : Nat) : Int)) = _
  push_cast
  ring

namespace Pass

/-- A pass that has read a text without being stopped. -/
structure Follows (pass : Pass) (settings : Settings) (before : List Char) : Prop where
  settings_eq : pass.settings = settings
  indent_eq : pass.indent = settings.widthAfter before
  starts : OpenStarts before (pass.openLoops.map OpenLoop.position)

/-- A fresh pass has read nothing. -/
theorem start_follows (settings : Settings) : (start settings).Follows settings [] where
  settings_eq := rfl
  indent_eq := by simp [start, Settings.widthAfter, opens, closes]
  starts := .none balanced_nil

/-- The lines of a move have the given width. -/
theorem width_of_mem_moveLines {width amount : Int} {line : Line}
    (h : line ∈ moveLines width amount) : line.width = width := by
  rw [moveLines] at h
  split at h
  · cases h
  · simp only [List.mem_cons, List.not_mem_nil, or_false] at h
    rcases h with rfl | rfl <;> rfl

/-- The lines of a change have the given width. -/
theorem width_of_mem_changeLines {width amount : Int} {line : Line}
    (h : line ∈ changeLines width amount) : line.width = width := by
  rw [changeLines] at h
  split at h
  · cases h
  · simp only [List.mem_cons, List.not_mem_nil, or_false] at h
    rcases h with rfl | rfl <;> rfl

/-- Lines for what is pending have the current width. -/
theorem width_of_mem_pendingLines {pass : Pass} {line : Line} (h : line ∈ pass.pendingLines) :
    line.width = pass.indent := by
  rcases List.mem_append.mp h with hmove | hchange
  · exact width_of_mem_moveLines hmove
  · exact width_of_mem_changeLines hchange

/-- Turning a pass at a symbol keeps it in step with the text, whatever lines are written. -/
theorem Follows.turn {pass : Pass} {settings : Settings} {before : List Char}
    (h : pass.Follows settings before) (lines : List Line) (symbol : Symbol)
    (hopen : symbol = .loopClose → pass.openLoops ≠ []) :
    ((pass.extend lines).turn before.length symbol).Follows settings
      (before ++ [symbol.toChar]) := by
  have hplain (hplain : Balanced [symbol.toChar]) :
      OpenStarts (before ++ [symbol.toChar]) (pass.openLoops.map OpenLoop.position) ∧
        settings.widthAfter (before ++ [symbol.toChar]) = settings.widthAfter before :=
    ⟨h.starts.append_balanced hplain, settings.widthAfter_append_balanced hplain⟩
  cases symbol with
  | right | left | increment | decrement | output | input =>
    obtain ⟨hstarts, hwidth⟩ := hplain (balanced_singleton (by decide) (by decide))
    exact ⟨h.settings_eq, h.indent_eq.trans hwidth.symm, hstarts⟩
  | loopOpen =>
    refine ⟨h.settings_eq, ?_, h.starts.append_open⟩
    change pass.indent + pass.settings.indentStep = settings.widthAfter (before ++ ['['])
    rw [h.indent_eq, h.settings_eq, settings.widthAfter_append_open]
  | loopClose =>
    cases hloops : pass.openLoops with
    | nil => exact absurd hloops (hopen rfl)
    | cons loop rest =>
      have hstarts := h.starts
      rw [hloops, List.map_cons] at hstarts
      refine ⟨h.settings_eq, ?_, ?_⟩
      · change pass.indent - pass.settings.indentStep = settings.widthAfter (before ++ [']'])
        rw [h.indent_eq, h.settings_eq, settings.widthAfter_append_close]
      · change OpenStarts (before ++ [']']) (pass.openLoops.tail.map OpenLoop.position)
        rw [hloops, List.tail_cons]
        exact hstarts.append_close

/-- One character more: the pass keeps in step, or it is a loop end with nothing open, or a margin
cannot be made. -/
theorem Follows.readChar {pass : Pass} {settings : Settings} {before : List Char}
    (h : pass.Follows settings before) (c : Char) :
    (∃ next, pass.readChar before.length c = ⟨next, none⟩ ∧ next.Follows settings (before ++ [c])) ∨
      (c = ']' ∧ pass.openLoops = [] ∧ (pass.readChar before.length c).stop =
        some (.unbalanced (.unmatchedClose before.length))) ∨
      ∃ cause, (pass.readChar before.length c).stop = some (.margin cause) := by
  cases hsymbol : Symbol.ofChar? c with
  | none =>
    have hbalanced := balanced_of_comment hsymbol
    have hread : pass.readChar before.length c = ⟨pass, none⟩ := by rw [Pass.readChar, hsymbol]
    exact Or.inl ⟨pass, hread, h.settings_eq,
      h.indent_eq.trans (settings.widthAfter_append_balanced hbalanced).symm,
      h.starts.append_balanced hbalanced⟩
  | some symbol =>
    have hread : pass.readChar before.length c = pass.readSymbol before.length symbol := by
      rw [Pass.readChar, hsymbol]
    obtain rfl := Symbol.eq_toChar hsymbol
    rw [hread]
    by_cases hopen : symbol = .loopClose → pass.openLoops ≠ []
    · have hwrites := readSymbol_writes pass before.length symbol hopen
      cases hmargin : firstMarginError (pass.due symbol) with
      | none => exact Or.inl ⟨_, hwrites.finished hmargin, h.turn _ symbol hopen⟩
      | some cause =>
        exact Or.inr (Or.inr ⟨cause, hwrites.stopped cause hmargin⟩)
    · push Not at hopen
      obtain ⟨rfl, hnil⟩ := hopen
      cases hmargin : firstMarginError pass.pendingLines with
      | none =>
        refine Or.inr (Or.inl ⟨rfl, hnil, ?_⟩)
        rw [readSymbol_loopClose_of_nil pass before.length hnil hmargin]
      | some cause =>
        exact Or.inr (Or.inr ⟨cause, readSymbol_loopClose_stopped pass before.length hmargin⟩)

/-- All further characters: the pass keeps in step to the end, or it stops at the first loop end
that nothing matches, or a margin cannot be made. -/
theorem Follows.readFrom {pass : Pass} {settings : Settings} {before : List Char}
    (h : pass.Follows settings before) (rest : List Char) :
    (∃ next, pass.readFrom before.length rest = ⟨next, none⟩ ∧
      next.Follows settings (before ++ rest)) ∨
      (∃ position, (pass.readFrom before.length rest).stop =
        some (.unbalanced (.unmatchedClose position)) ∧
        IsLeast {index | UnmatchedClose (before ++ rest) index} position) ∨
      ∃ cause, (pass.readFrom before.length rest).stop = some (.margin cause) := by
  induction rest generalizing pass before with
  | nil => exact Or.inl ⟨pass, rfl, by rwa [List.append_nil]⟩
  | cons c rest ih =>
    have hsplit : before ++ c :: rest = before ++ [c] ++ rest := by simp
    rcases h.readChar c with ⟨next, hread, hnext⟩ | ⟨rfl, hnil, hstop⟩ | ⟨cause, hstop⟩
    · have hfrom : pass.readFrom before.length (c :: rest) =
          next.readFrom (before ++ [c]).length rest := by
        rw [readFrom_cons, hread, Progress.andThen_none, List.length_append, List.length_singleton]
      rw [hfrom, hsplit]
      exact ih hnext
    · have hstarts := h.starts
      rw [hnil, List.map_nil] at hstarts
      refine Or.inr (Or.inl ⟨before.length, ?_, hstarts.unmatchedClose rest, ?_⟩)
      · rw [readFrom_cons]
        exact Progress.stop_andThen hstop _
      · intro earlier hearlier
        exact hstarts.le_unmatchedClose hearlier
    · refine Or.inr (Or.inr ⟨cause, ?_⟩)
      rw [readFrom_cons]
      exact Progress.stop_andThen hstop _

/-- A whole pass ends in one of four ways, of which three have their reason in the source. -/
theorem run_outcome (settings : Settings) (source : List Char) :
    (∃ pass, run settings source = ⟨pass, none⟩ ∧ Balanced source) ∨
      (∃ position, (run settings source).stop = some (.unbalanced (.unmatchedClose position)) ∧
        IsLeast {index | UnmatchedClose source index} position ∧ ¬ Covered source) ∨
      (∃ position, (run settings source).stop = some (.unbalanced (.unmatchedOpen position)) ∧
        IsGreatest {index | UnmatchedOpen source index} position ∧ Covered source ∧
        ¬ Balanced source) ∨
      ∃ cause, (run settings source).stop = some (.margin cause) := by
  rcases (start_follows settings).readFrom source with
    ⟨pass, hread, hfollows⟩ | ⟨position, hstop, hleast⟩ | ⟨cause, hstop⟩
  · rw [List.nil_append] at hfollows
    have hrun : run settings source = pass.finish := by
      rw [run, show (start settings).readFrom 0 source = ⟨pass, none⟩ from hread,
        Progress.andThen_none]
    rw [hrun, finish]
    have hstarts := hfollows.starts
    cases hloops : pass.openLoops with
    | nil =>
      rw [hloops, List.map_nil] at hstarts
      cases hmargin : firstMarginError pass.pendingLines with
      | none => exact Or.inl ⟨_, (flush_writes pass).finished hmargin, hstarts.balanced⟩
      | some cause =>
        exact Or.inr (Or.inr (Or.inr ⟨cause, (flush_writes pass).stopped cause hmargin⟩))
    | cons loop rest =>
      rw [hloops, List.map_cons] at hstarts
      exact Or.inr (Or.inr (Or.inl ⟨loop.position, rfl,
        ⟨hstarts.unmatchedOpen, fun later hlater => hstarts.unmatchedOpen_le hlater⟩,
        hstarts.covered, hstarts.not_balanced⟩))
  · refine Or.inr (Or.inl ⟨position, Progress.stop_andThen hstop finish, hleast,
      fun hcovered => ?_⟩)
    exact hcovered.not_unmatchedClose hleast.1
  · exact Or.inr (Or.inr (Or.inr ⟨cause, Progress.stop_andThen hstop finish⟩))

/-- A pass over a balanced source ends with a flush. -/
theorem run_eq_of_balanced (settings : Settings) {source : List Char} (h : Balanced source) :
    run settings source = ((start settings).readFrom 0 source).andThen flush := by
  rw [run]
  rcases (start_follows settings).readFrom source with
    ⟨pass, hread, hfollows⟩ | ⟨position, -, hleast⟩ | ⟨cause, hstop⟩
  · have hopens := hfollows.starts.opens_eq
    rw [List.nil_append, h.2, List.length_map] at hopens
    have hloops : pass.openLoops = [] := List.length_eq_zero_iff.mp (by omega)
    rw [show (start settings).readFrom 0 source = ⟨pass, none⟩ from hread, Progress.andThen_none,
      Progress.andThen_none, finish, hloops]
  · exact absurd hleast.1 h.1.not_unmatchedClose
  · have hsame (progress : Progress) (hstop : progress.stop = some (.margin cause)) :
        progress.andThen finish = progress.andThen flush := by
      obtain ⟨pass, stop⟩ := progress
      change stop = _ at hstop
      rw [hstop, Progress.andThen_some, Progress.andThen_some]
    exact hsame _ hstop

end Pass

/-- A stopped pass gives no body. -/
theorem compile_eq_error {settings : Settings} {source : String} {stop : Stop}
    (h : (Pass.run settings source.toList).stop = some stop) :
    compile settings source = .error stop := by
  rw [compile]
  generalize Pass.run settings source.toList = progress at h
  obtain ⟨pass, reason⟩ := progress
  change reason = some stop at h
  rw [h]

end BrainfuckWasm.Body
