import BrainfuckWasm.Proofs.Diagnosis

/-!
# The states that a pass goes through

What a pass has reached after a text is a relation with one case for a comment and one for a symbol
that is read without a stop. Whatever holds before the first character and is kept in both cases
holds in every state on the way, so each later invariant of a pass is an induction with two steps.

A whole run goes through such states to one of five endings, each with the state it leaves behind.
-/

namespace BrainfuckWasm.Body

namespace Pass

/-- With a loop open, a loop end writes what is pending and the end of that loop. -/
theorem due_loopClose {pass : Pass} {loop : OpenLoop} {outer : List OpenLoop}
    (hloops : pass.openLoops = loop :: outer) :
    pass.due .loopClose = pass.pendingLines ++ closingLines
      (pass.indent - pass.settings.indentStep) pass.settings.indentStep loop.label := by
  simp only [due, hloops]

/-- The state after a text that is read without a stop. -/
inductive Reached (settings : Settings) : List Char → Pass → Prop where
  | start : Reached settings [] (Pass.start settings)
  | comment {text : List Char} {pass : Pass} {c : Char} (h : Reached settings text pass)
      (hc : Symbol.ofChar? c = none) : Reached settings (text ++ [c]) pass
  | symbol {text : List Char} {pass : Pass} (symbol : Symbol) (h : Reached settings text pass)
      (hopen : symbol = .loopClose → pass.openLoops ≠ [])
      (hmargin : firstMarginError (pass.due symbol) = none) :
      Reached settings (text ++ [symbol.toChar])
        ((pass.extend (pass.due symbol)).turn text.length symbol)

/-- What comes of reading one character. -/
inductive CharOutcome (pass : Pass) (position : Nat) (c : Char) : Progress → Prop where
  | comment (hc : Symbol.ofChar? c = none) : CharOutcome pass position c ⟨pass, none⟩
  | symbol (symbol : Symbol) (hc : c = symbol.toChar)
      (hopen : symbol = .loopClose → pass.openLoops ≠ [])
      (hmargin : firstMarginError (pass.due symbol) = none) :
      CharOutcome pass position c ⟨(pass.extend (pass.due symbol)).turn position symbol, none⟩
  | unmatched (hc : c = ']') (hopen : pass.openLoops = [])
      (hmargin : firstMarginError pass.pendingLines = none) :
      CharOutcome pass position c
        ⟨(pass.extend pass.pendingLines).settled, some (.unbalanced (.unmatchedClose position))⟩
  | unwritten (next : Pass) (cause : MarginError) :
      CharOutcome pass position c ⟨next, some (.margin cause)⟩

/-- A step that is known to stop at a margin has one of the outcomes. -/
theorem CharOutcome.of_stop {pass : Pass} {position : Nat} {c : Char} {progress : Progress}
    {cause : MarginError} (h : progress.stop = some (.margin cause)) :
    CharOutcome pass position c progress := by
  obtain ⟨next, stop⟩ := progress
  change stop = _ at h
  rw [h]
  exact .unwritten next cause

/-- Reading a character is one of the four. -/
theorem readChar_outcome (pass : Pass) (position : Nat) (c : Char) :
    CharOutcome pass position c (pass.readChar position c) := by
  rw [readChar]
  cases hc : Symbol.ofChar? c with
  | none => exact .comment hc
  | some symbol =>
    have hchar := Symbol.eq_toChar hc
    by_cases hopen : symbol = .loopClose → pass.openLoops ≠ []
    · have hwrites := readSymbol_writes pass position symbol hopen
      cases hmargin : firstMarginError (pass.due symbol) with
      | none =>
        simp only [hwrites.finished hmargin]
        exact .symbol symbol hchar hopen hmargin
      | some cause => exact .of_stop (hwrites.stopped cause hmargin)
    · push Not at hopen
      obtain ⟨rfl, hnil⟩ := hopen
      cases hmargin : firstMarginError pass.pendingLines with
      | none =>
        simp only [readSymbol_loopClose_of_nil pass position hnil hmargin]
        exact .unmatched hchar hnil hmargin
      | some cause => exact .of_stop (readSymbol_loopClose_stopped pass position hmargin)

/-- The last character of a text is read after the others. -/
theorem readFrom_concat (pass : Pass) (position : Nat) (text : List Char) (c : Char) :
    pass.readFrom position (text ++ [c]) =
      (pass.readFrom position text).andThen fun next =>
        next.readChar (position + text.length) c := by
  rw [readFrom_append]
  congr 1
  funext next
  rw [readFrom_cons]
  generalize next.readChar (position + text.length) c = progress
  obtain ⟨last, stop⟩ := progress
  cases stop with
  | none => rfl
  | some stop => rfl

/-- The states that are reached are those that reading the text from the start leads to. -/
theorem reached_iff {settings : Settings} {text : List Char} {pass : Pass} :
    Reached settings text pass ↔ (start settings).readFrom 0 text = ⟨pass, none⟩ := by
  constructor
  · intro h
    induction h with
    | start => rfl
    | comment _ hc ih => rw [readFrom_concat, ih, Progress.andThen_none, readChar, hc]
    | symbol symbol _ hopen hmargin ih =>
      rw [readFrom_concat, ih, Progress.andThen_none, readChar, Symbol.ofChar?_toChar,
        Nat.zero_add]
      exact (readSymbol_writes _ _ symbol hopen).finished hmargin
  · intro h
    induction text using List.reverseRecOn generalizing pass with
    | nil =>
      obtain rfl : Pass.start settings = pass := congrArg Progress.pass h
      exact .start
    | append_singleton text c ih =>
      rw [readFrom_concat, Nat.zero_add] at h
      generalize hbefore : (Pass.start settings).readFrom 0 text = progress at h
      obtain ⟨before, stop⟩ := progress
      cases stop with
      | some stop => cases h
      | none =>
        have hreached := ih hbefore
        rw [Progress.andThen_none] at h
        have houtcome := readChar_outcome before text.length c
        rw [h] at houtcome
        cases houtcome with
        | comment hc => exact hreached.comment hc
        | symbol symbol hc hopen hmargin =>
          rw [hc]
          exact hreached.symbol symbol hopen hmargin

/-- The rest of a source is read to its end, or there is a first character that stops the pass. -/
theorem Reached.readFrom {settings : Settings} {text : List Char} {pass : Pass}
    (h : Reached settings text pass) (rest : List Char) :
    (∃ last, Reached settings (text ++ rest) last ∧
      pass.readFrom text.length rest = ⟨last, none⟩) ∨
    ∃ between c after before next stop, rest = between ++ c :: after ∧
      Reached settings (text ++ between) before ∧
      before.readChar (text ++ between).length c = ⟨next, some stop⟩ ∧
      pass.readFrom text.length rest = ⟨next, some stop⟩ := by
  induction rest using List.reverseRecOn with
  | nil => exact Or.inl ⟨pass, by rwa [List.append_nil], rfl⟩
  | append_singleton rest c ih =>
    rw [readFrom_concat, ← List.length_append]
    rcases ih with ⟨last, hlast, hread⟩ |
      ⟨between, other, after, before, next, stop, rfl, hbefore, hstop, hread⟩
    · rw [hread, Progress.andThen_none]
      generalize hprogress : last.readChar (text ++ rest).length c = progress
      obtain ⟨next, stop⟩ := progress
      cases stop with
      | some stop => exact Or.inr ⟨rest, c, [], last, next, stop, rfl, hlast, hprogress, rfl⟩
      | none =>
        refine Or.inl ⟨next, ?_, rfl⟩
        rw [← List.append_assoc, reached_iff, readFrom_concat, reached_iff.mp hlast, Nat.zero_add]
        exact hprogress
    · rw [hread, Progress.andThen_some]
      exact Or.inr ⟨between, other, after ++ [c], before, next, stop, by simp, hbefore, hstop, rfl⟩

/-- How a run over a source ends, and the state that it leaves behind. -/
inductive Ending (settings : Settings) (source : List Char) : Progress → Prop where
  | complete {pass : Pass} (h : Reached settings source pass) (hopen : pass.openLoops = [])
      (hmargin : firstMarginError pass.pendingLines = none) :
      Ending settings source ⟨(pass.extend pass.pendingLines).settled, none⟩
  | unmatchedClose {text rest : List Char} {pass : Pass} (hsource : source = text ++ ']' :: rest)
      (h : Reached settings text pass) (hopen : pass.openLoops = [])
      (hmargin : firstMarginError pass.pendingLines = none) :
      Ending settings source ⟨(pass.extend pass.pendingLines).settled,
        some (.unbalanced (.unmatchedClose text.length))⟩
  | unmatchedOpen {pass : Pass} {loop : OpenLoop} {outer : List OpenLoop}
      (h : Reached settings source pass) (hopen : pass.openLoops = loop :: outer) :
      Ending settings source ⟨pass, some (.unbalanced (.unmatchedOpen loop.position))⟩
  | unwritten {text rest : List Char} {c : Char} {pass next : Pass} {cause : MarginError}
      (hsource : source = text ++ c :: rest) (h : Reached settings text pass)
      (hread : pass.readChar text.length c = ⟨next, some (.margin cause)⟩) :
      Ending settings source ⟨next, some (.margin cause)⟩
  | unflushed {pass next : Pass} {cause : MarginError} (h : Reached settings source pass)
      (hflush : pass.flush = ⟨next, some (.margin cause)⟩) :
      Ending settings source ⟨next, some (.margin cause)⟩

/-- Ending a pass with all characters read. -/
theorem Reached.finish {settings : Settings} {source : List Char} {pass : Pass}
    (h : Reached settings source pass) : Ending settings source pass.finish := by
  rw [Pass.finish]
  cases hopen : pass.openLoops with
  | cons loop outer => exact .unmatchedOpen h hopen
  | nil =>
    cases hmargin : firstMarginError pass.pendingLines with
    | none =>
      simp only [(flush_writes pass).finished hmargin]
      exact .complete h hopen hmargin
    | some cause =>
      have hstop := (flush_writes pass).stopped cause hmargin
      generalize hflush : pass.flush = progress at hstop
      obtain ⟨next, stop⟩ := progress
      change stop = _ at hstop
      subst hstop
      exact .unflushed h hflush

/-- Every run has one of the endings. -/
theorem run_ending (settings : Settings) (source : List Char) :
    Ending settings source (run settings source) := by
  rw [run]
  rcases Reached.start.readFrom source with ⟨last, hlast, hread⟩ |
    ⟨text, c, rest, before, next, stop, hsource, hbefore, hstop, hread⟩
  · rw [show (Pass.start settings).readFrom 0 source = _ from hread, Progress.andThen_none]
    exact hlast.finish
  · rw [show (Pass.start settings).readFrom 0 source = _ from hread, Progress.andThen_some]
    rw [List.nil_append] at hbefore hstop
    have houtcome := readChar_outcome before text.length c
    rw [hstop] at houtcome
    cases houtcome with
    | unmatched hc hopen hmargin =>
      rw [hc] at hsource
      exact .unmatchedClose hsource hbefore hopen hmargin
    | unwritten => exact .unwritten hsource hbefore hstop

/-! ## What holds in every state -/

/-- A state that is reached follows the text. -/
theorem Reached.follows {settings : Settings} {text : List Char} {pass : Pass}
    (h : Reached settings text pass) : pass.Follows settings text := by
  induction h with
  | start => exact start_follows settings
  | comment _ hc ih =>
    have hbalanced := balanced_of_comment hc
    exact ⟨ih.settings_eq,
      ih.indent_eq.trans (settings.widthAfter_append_balanced hbalanced).symm,
      ih.starts.append_balanced hbalanced⟩
  | symbol symbol _ hopen _ ih => exact ih.turn _ symbol hopen

/-- The running depth is the number of open loops. -/
theorem Reached.depth_eq {settings : Settings} {text : List Char} {pass : Pass}
    (h : Reached settings text pass) : pass.depth = pass.openLoops.length := by
  induction h with
  | start => rfl
  | comment _ _ ih => exact ih
  | @symbol _ pass symbol _ _ _ ih =>
    cases symbol with
    | loopOpen => exact congrArg (· + 1) ih
    | loopClose =>
      change pass.depth - 1 = pass.openLoops.tail.length
      rw [List.length_tail, ih]
    | _ => exact ih

/-- The width is that of the depth. -/
theorem Reached.indent_eq {settings : Settings} {text : List Char} {pass : Pass}
    (h : Reached settings text pass) :
    pass.indent = settings.baseIndent + settings.indentStep * pass.depth := by
  have hopens := h.follows.starts.opens_eq
  rw [List.length_map, ← h.depth_eq] at hopens
  rw [h.follows.indent_eq, Settings.widthAfter, hopens]
  congr 2
  omega

/-- Moves and changes are never pending together. -/
theorem Reached.pending {settings : Settings} {text : List Char} {pass : Pass}
    (h : Reached settings text pass) : pass.pendingMove = 0 ∨ pass.pendingDelta = 0 := by
  induction h with
  | start => exact Or.inl rfl
  | comment _ _ ih => exact ih
  | symbol symbol =>
    cases symbol with
    | right | left => exact Or.inr rfl
    | _ => exact Or.inl rfl

/-- Labels are drawn two for each loop start. -/
theorem Reached.nextLabel_eq {settings : Settings} {text : List Char} {pass : Pass}
    (h : Reached settings text pass) : pass.nextLabel = 2 * opens text := by
  induction h with
  | start => rfl
  | @comment text pass c _ hc ih =>
    have hc : c ≠ '[' := by
      rintro rfl
      cases hc
    rw [opens_append, opens_cons, if_neg hc, ih]
    rfl
  | @symbol text pass symbol _ _ _ ih =>
    rw [opens_append]
    cases symbol with
    | loopOpen =>
      change pass.nextLabel + 2 = 2 * (opens text + 1)
      omega
    | _ => exact ih

/-- What is said of the labels of open loops by the text before them stays true of a longer text. -/
theorem Reached.label_eq_concat {settings : Settings} {text : List Char} {pass : Pass}
    (h : Reached settings text pass)
    (hlabel : ∀ loop ∈ pass.openLoops, loop.label = 2 * opens (text.take loop.position) + 1)
    (c : Char) :
    ∀ loop ∈ pass.openLoops, loop.label = 2 * opens ((text ++ [c]).take loop.position) + 1 := by
  intro loop hloop
  have hstart := h.follows.starts.positions_lt.2 loop.position (List.mem_map_of_mem hloop)
  have hlt : loop.position < text.length := (List.getElem?_eq_some_iff.mp hstart).1
  rw [List.take_append_of_le_length hlt.le, hlabel loop hloop]

/-- An open loop repeats at the odd label of its start. -/
theorem Reached.label_eq {settings : Settings} {text : List Char} {pass : Pass}
    (h : Reached settings text pass) :
    ∀ loop ∈ pass.openLoops, loop.label = 2 * opens (text.take loop.position) + 1 := by
  induction h with
  | start => simp [Pass.start]
  | @comment text pass c h _ ih => exact h.label_eq_concat ih c
  | @symbol text pass symbol h _ _ ih =>
    have hkept := h.label_eq_concat ih symbol.toChar
    cases symbol with
    | loopOpen =>
      refine List.forall_mem_cons.mpr ⟨?_, hkept⟩
      change pass.nextLabel + 1 = 2 * opens ((text ++ ['[']).take text.length) + 1
      rw [List.take_left, h.nextLabel_eq]
    | loopClose => exact fun loop hloop => hkept loop (List.mem_of_mem_tail hloop)
    | _ => exact hkept

end Pass

/-- A compiled body is the one that the state at the end of the source writes, with what is pending.
-/
theorem exists_reached_of_compile {settings : Settings} {source : String} {compiled : Compiled}
    (h : compile settings source = .ok compiled) :
    ∃ pass, Pass.Reached settings source.toList pass ∧ pass.openLoops = [] ∧
      compiled = ⟨(pass.extend pass.pendingLines).body, pass.nextLabel⟩ := by
  rw [compile] at h
  have hending := Pass.run_ending settings source.toList
  generalize Pass.run settings source.toList = progress at h hending
  cases hending with
  | complete hreached hopen => exact ⟨_, hreached, hopen, (Except.ok.inj h).symm⟩
  | _ => cases h

/-- A compiled body has two labels for each loop start of its source. -/
theorem labelCount_of_compile {settings : Settings} {source : String} {compiled : Compiled}
    (h : compile settings source = .ok compiled) :
    compiled.labelCount = 2 * opens source.toList := by
  obtain ⟨pass, hreached, -, rfl⟩ := exists_reached_of_compile h
  exact hreached.nextLabel_eq

end BrainfuckWasm.Body
