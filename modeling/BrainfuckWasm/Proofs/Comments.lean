import Mathlib.Data.List.Basic
import BrainfuckWasm.Proofs.Diagnosis
import BrainfuckWasm.Proofs.Recast

/-!
# Comments are invisible except in positions

Deleting every comment of a source changes neither the body nor the number of labels. What does
change are positions: the fault of the bare source points at a symbol by its number, and the fault
of the source itself points at the same symbol by its index among all characters.

The two passes run side by side. The longer one takes a step that does nothing for each comment;
apart from that it is the shorter one, with the number of each symbol recast to its index.
-/

namespace BrainfuckWasm

/-- Whether a character stands for a symbol and is no comment. -/
def isSymbol (c : Char) : Bool :=
  (Symbol.ofChar? c).isSome

/-- Where the symbols of a text stand, in order. -/
def symbolIndices (text : List Char) : List Nat :=
  text.findIdxs isSymbol

/-- A source with all its comments deleted. -/
def withoutComments (source : String) : String :=
  String.ofList (source.toList.filter isSymbol)

/-- Every symbol that is left without the comments has an index in the source. -/
theorem exists_symbolIndex {text : List Char} {number : Nat}
    (h : number < (text.filter isSymbol).length) :
    ∃ index, (symbolIndices text)[number]? = some index := by
  rw [← List.countP_eq_length_filter, ← List.length_findIdxs] at h
  exact ⟨_, List.getElem?_eq_getElem h⟩

namespace Body

namespace Pass

/-- Reading a text is reading its symbols, with their numbers recast to their indices. -/
theorem readFrom_symbols (mode : Addressing) (place : Nat → Nat) (source : List Char)
    (pass : Pass) (start count : Nat)
    (h : ∀ number index, (source.findIdxs isSymbol start)[number]? = some index →
      place (count + number) = index) :
    (pass.recast mode place).readFrom start source =
      (pass.readFrom count (source.filter isSymbol)).recast mode place := by
  induction source generalizing pass start count with
  | nil => rfl
  | cons c rest ih =>
    cases hc : Symbol.ofChar? c with
    | none =>
      have hsymbol : isSymbol c = false := by rw [isSymbol, hc]; rfl
      have hread : (pass.recast mode place).readChar start c = ⟨pass.recast mode place, none⟩ := by
        rw [readChar, hc]
      rw [List.findIdxs_cons, hsymbol, if_neg Bool.false_ne_true] at h
      rw [readFrom_cons, hread, Progress.andThen_none, List.filter_cons_of_neg (by simp [hsymbol])]
      exact ih pass (start + 1) count h
    | some symbol =>
      have hsymbol : isSymbol c = true := by rw [isSymbol, hc]; rfl
      rw [List.findIdxs_cons, if_pos hsymbol] at h
      have hplace : place count = start := h 0 start rfl
      have hrest (number index : Nat)
          (hindex : (rest.findIdxs isSymbol (start + 1))[number]? = some index) :
          place (count + 1 + number) = index := by
        rw [Nat.add_assoc, Nat.add_comm 1 number]
        exact h (number + 1) index hindex
      have hread := readChar_recast mode place pass count c
      rw [hplace] at hread
      rw [readFrom_cons, hread, List.filter_cons_of_pos hsymbol, readFrom_cons]
      exact Progress.recast_andThen mode place _ fun next => ih next (start + 1) (count + 1) hrest

/-- The index of a symbol by its number. -/
def indexOf (source : List Char) (number : Nat) : Nat :=
  (symbolIndices source)[number]?.getD 0

/-- A run over a source is the run over its symbols, recast. -/
theorem run_symbols (settings : Settings) (source : List Char) :
    run settings source =
      (run settings (source.filter isSymbol)).recast settings.addressing (indexOf source) := by
  have hindex (number index : Nat) (h : (source.findIdxs isSymbol)[number]? = some index) :
      indexOf source (0 + number) = index := by
    rw [Nat.zero_add, indexOf, symbolIndices, h, Option.getD_some]
  have hread : (start settings).readFrom 0 source = _ :=
    readFrom_symbols settings.addressing (indexOf source) source (start settings) 0 0 hindex
  rw [run, run, hread]
  exact Progress.recast_andThen settings.addressing _ _ (finish_recast settings.addressing _)

end Pass

/-- Without its comments a source compiles to the same body, or is stopped by the same thing at
another position. -/
theorem compile_eq_mapError (settings : Settings) (source : String) :
    compile settings source = (compile settings (withoutComments source)).mapError
      (Stop.recast (Pass.indexOf source.toList)) := by
  have haddressing := Pass.addressing_run settings (source.toList.filter isSymbol)
  rw [compile, compile, Pass.run_symbols, withoutComments, String.toList_ofList]
  generalize Pass.run settings (source.toList.filter isSymbol) = progress at haddressing
  obtain ⟨pass, stop⟩ := progress
  cases stop with
  | some stop => rfl
  | none =>
    have hbody : (pass.recast settings.addressing (Pass.indexOf source.toList)).body =
        pass.body := by
      rw [← haddressing]
      rfl
    exact congrArg (fun text => Except.ok (Compiled.mk text pass.nextLabel)) hbody

/-- A source has a body exactly if its symbols alone have it. -/
theorem compile_eq_ok_iff (settings : Settings) (source : String) (compiled : Compiled) :
    compile settings source = .ok compiled ↔
      compile settings (withoutComments source) = .ok compiled := by
  rw [compile_eq_mapError]
  cases compile settings (withoutComments source) with
  | error stop => simp [Except.mapError]
  | ok result => rfl

/-- A fault points at a character of the source. -/
theorem position_lt_of_compile {settings : Settings} {source : String} {fault : Fault}
    (h : compile settings source = .error (.unbalanced fault)) :
    fault.position < source.toList.length := by
  have hlt {c : Char} {position : Nat} (hchar : source.toList[position]? = some c) :
      position < source.toList.length := (List.getElem?_eq_some_iff.mp hchar).1
  rcases Pass.run_outcome settings source.toList with ⟨pass, hrun, -⟩ |
    ⟨position, hstop, hleast, -⟩ | ⟨position, hstop, hgreatest, -⟩ | ⟨cause, hstop⟩
  · rw [compile, hrun] at h
    cases h
  · rw [compile_eq_error hstop] at h
    cases h
    exact hlt hleast.1.1
  · rw [compile_eq_error hstop] at h
    cases h
    exact hlt hgreatest.1.1
  · rw [compile_eq_error hstop] at h
    cases h

/-- Comments are invisible except in positions. With and without its comments a source compiles to
the same body with the same number of labels, or has the same trouble with a margin, or has the same
fault: where that is at the symbol with some number of the bare source, it is at the index of this
symbol in the source. -/
theorem compile_withoutComments (settings : Settings) (source : String) :
    (∀ compiled, compile settings source = .ok compiled ↔
      compile settings (withoutComments source) = .ok compiled) ∧
    (∀ cause, compile settings source = .error (.margin cause) ↔
      compile settings (withoutComments source) = .error (.margin cause)) ∧
    ∀ fault, compile settings (withoutComments source) = .error (.unbalanced fault) →
      ∃ index, (symbolIndices source.toList)[fault.position]? = some index ∧
        compile settings source = .error (.unbalanced (fault.moveTo index)) := by
  refine ⟨compile_eq_ok_iff settings source, fun cause => ?_, fun fault h => ?_⟩
  · rw [compile_eq_mapError]
    cases compile settings (withoutComments source) with
    | ok result => simp [Except.mapError]
    | error stop => cases stop <;> simp [Except.mapError, Stop.recast]
  · have hposition := position_lt_of_compile h
    rw [withoutComments, String.toList_ofList] at hposition
    obtain ⟨index, hindex⟩ := exists_symbolIndex hposition
    refine ⟨index, hindex, ?_⟩
    have hplace : Pass.indexOf source.toList fault.position = index := by
      rw [Pass.indexOf, hindex, Option.getD_some]
    rw [compile_eq_mapError, h, ← hplace]
    rfl

/-- The loop end that nothing matches is the fifth symbol and the ninth character. -/
theorem compile_withoutComments_fault :
    compile {} (withoutComments "a[b-] c,]d") = .error (.unbalanced (.unmatchedClose 4)) ∧
      compile {} "a[b-] c,]d" = .error (.unbalanced (.unmatchedClose 8)) := by
  have hbare : compile {} (withoutComments "a[b-] c,]d") =
      .error (.unbalanced (.unmatchedClose 4)) := by rfl
  refine ⟨hbare, ?_⟩
  obtain ⟨index, hindex, hfault⟩ := (compile_withoutComments {} "a[b-] c,]d").2.2 _ hbare
  obtain rfl : 8 = index := Option.some.inj hindex
  exact hfault

end Body

end BrainfuckWasm
