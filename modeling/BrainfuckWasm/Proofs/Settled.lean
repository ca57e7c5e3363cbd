import Mathlib.Data.List.DropRight
import BrainfuckWasm.Proofs.RunLength

/-!
# What is settled of a source

While a source is read, the moves or changes at the end of what has been read may still grow or
cancel; the runs of all before them are settled. Symbols are cut there, so that nothing which
follows can reach into the part before the cut. Each further symbol moves the cut: it goes on with
the stretch after it, or it settles that stretch.
-/

namespace BrainfuckWasm

/-- Symbols without the moves or changes at their end, which are still being summed. -/
def Symbol.settled (symbols : List Symbol) : List Symbol :=
  match symbols.getLast? with
  | none => []
  | some last => symbols.rdropWhile fun symbol => symbol.fusesWith last

namespace Run

/-- Symbols in two parts: a front that nothing to come can reach into, and a stretch at the end with
the sums that are pending for it. -/
structure Cut (front stretch : List Symbol) (moves changes : Int) : Prop where
  underway : Underway stretch moves changes
  apart : ∀ later, ∀ last ∈ front.getLast?, ∀ next ∈ (stretch ++ later).head?,
    last.fusesWith next = false

namespace Cut

/-- Before anything is read, both parts are empty. -/
theorem nothing : Cut [] [] 0 0 :=
  ⟨.nothing, by simp⟩

/-- A symbol that is no move and no change ends what can be reached into. -/
theorem after_single {symbols : List Symbol} {symbol : Symbol}
    (hsingle : symbol.isMove = false ∧ symbol.isChange = false) :
    Cut (symbols ++ [symbol]) [] 0 0 := by
  refine ⟨.nothing, fun later last hlast next _ => ?_⟩
  rw [List.getLast?_concat, Option.mem_some] at hlast
  rw [← hlast]
  simp [Symbol.fusesWith, hsingle]

/-- The runs of the front come before those of the stretch. -/
theorem ofSymbols_eq {front stretch : List Symbol} {moves changes : Int}
    (h : Cut front stretch moves changes) :
    ofSymbols (front ++ stretch) =
      ofSymbols front ++ (unlessZero .moves moves ++ unlessZero .changes changes) := by
  have hapart := h.apart []
  rw [List.append_nil] at hapart
  rw [ofSymbols_append _ _ hapart, h.underway.ofSymbols_eq]

/-- Leaving out a stretch of one class at the end gives back the front. -/
theorem settled_append {goes : Symbol → Bool} {run : Int → Run} (hsums : Sums goes run)
    {front stretch : List Symbol} (hstretch : ∀ symbol ∈ stretch, goes symbol = true)
    (hapart : ∀ later, ∀ last ∈ front.getLast?, ∀ next ∈ (stretch ++ later).head?,
      last.fusesWith next = false) :
    Symbol.settled (front ++ stretch) = front := by
  rcases List.eq_nil_or_concat' stretch with rfl | ⟨init, last, rfl⟩
  · rw [List.append_nil]
    rcases List.eq_nil_or_concat' front with rfl | ⟨before, symbol, rfl⟩
    · rfl
    · -- Nothing goes into one sum with the last symbol, so not even a symbol of its own kind.
      have halone := hapart [symbol] symbol List.getLast?_concat symbol rfl
      rw [Symbol.settled, List.getLast?_concat]
      exact List.rdropWhile_concat_neg _ _ _ (by rw [halone]; decide)
  · have hlast : (fun symbol => symbol.fusesWith last) = goes :=
      funext fun symbol => hsums.fusesWith_eq symbol last (hstretch last (by simp))
    have hdropped : (front ++ (init ++ [last])).rdropWhile goes = front.rdropWhile goes := by
      rw [List.rdropWhile, List.reverse_append, List.dropWhile_append_of_pos]
      · rfl
      · exact fun symbol hsymbol => hstretch symbol (List.mem_reverse.mp hsymbol)
    obtain ⟨first, hfirst⟩ : ∃ first, (init ++ [last]).head? = some first := by
      cases init <;> exact ⟨_, rfl⟩
    have hkept : front.rdropWhile goes = front := by
      refine List.rdropWhile_eq_self_iff.mpr fun hne hgoes => ?_
      have hfalse := hapart [] _ (List.getLast?_eq_some_getLast hne) first
        (by rw [List.append_nil]; exact hfirst)
      rw [hsums.fusesWith_eq _ first (hstretch first (List.mem_of_head? hfirst)), hgoes] at hfalse
      cases hfalse
    rw [Symbol.settled, ← List.append_assoc, List.getLast?_concat, List.append_assoc]
    simp only [hlast, hdropped, hkept]

/-- What is settled of the symbols is the front. -/
theorem settled_eq {front stretch : List Symbol} {moves changes : Int}
    (h : Cut front stretch moves changes) : Symbol.settled (front ++ stretch) = front := by
  obtain ⟨hunderway, hapart⟩ := h
  cases hunderway with
  | moves hmoves => exact settled_append sums_moves hmoves hapart
  | changes hchanges => exact settled_append sums_changes hchanges hapart

/-- Where another stretch begins, the one before it belongs to the front. -/
theorem next {front stretch : List Symbol} {symbol : Symbol} {moves changes : Int}
    (hne : stretch ≠ []) (happart : ∀ last ∈ stretch, last.fusesWith symbol = false)
    (hunderway : Underway [symbol] moves changes) :
    Cut (front ++ stretch) [symbol] moves changes := by
  refine ⟨hunderway, fun later last hlast next hnext => ?_⟩
  obtain rfl : symbol = next := Option.mem_some.mp hnext
  rw [List.getLast?_append_of_ne_nil _ hne] at hlast
  exact happart last (List.mem_of_getLast? hlast)

/-- A stretch that goes on leaves the front as it is. -/
theorem more {front stretch : List Symbol} {symbol : Symbol} {moves changes m c : Int}
    (h : Cut front stretch moves changes) (hunderway : Underway (stretch ++ [symbol]) m c) :
    Cut front (stretch ++ [symbol]) m c := by
  refine ⟨hunderway, fun later => ?_⟩
  rw [List.append_assoc]
  exact h.apart ([symbol] ++ later)

/-- A move settles the changes before it. -/
theorem move {front stretch : List Symbol} {moves changes : Int}
    (h : Cut front stretch moves changes) (forward : Bool) :
    ∃ before rest, front ++ stretch ++ [TapeProgram.moveSymbol forward] = before ++ rest ∧
      Cut before rest (moves + unit forward) 0 ∧
      ofSymbols before = ofSymbols front ++ unlessZero .changes changes := by
  cases h.underway with
  | moves hmoves =>
    exact ⟨front, _, List.append_assoc .., h.more (Underway.moves_concat hmoves forward),
      (List.append_nil _).symm⟩
  | changes hchanges =>
    rcases eq_or_ne stretch [] with rfl | hne
    · exact ⟨front, _, List.append_assoc .., h.more (Underway.moves_concat (by simp) forward),
        (List.append_nil _).symm⟩
    · refine ⟨front ++ stretch, _, rfl, next hne (fun last hlast => ?_)
        (Underway.moves_concat (List.forall_mem_nil _) forward), h.ofSymbols_eq⟩
      have hchange := hchanges last hlast
      cases last <;> cases forward <;> first | rfl | cases hchange

/-- A change settles the moves before it. -/
theorem change {front stretch : List Symbol} {moves changes : Int}
    (h : Cut front stretch moves changes) (up : Bool) :
    ∃ before rest, front ++ stretch ++ [TapeProgram.changeSymbol up] = before ++ rest ∧
      Cut before rest 0 (changes + unit up) ∧
      ofSymbols before = ofSymbols front ++ unlessZero .moves moves := by
  cases h.underway with
  | changes hchanges =>
    exact ⟨front, _, List.append_assoc .., h.more (Underway.changes_concat hchanges up),
      (List.append_nil _).symm⟩
  | moves hmoves =>
    rcases eq_or_ne stretch [] with rfl | hne
    · exact ⟨front, _, List.append_assoc .., h.more (Underway.changes_concat (by simp) up),
        (List.append_nil _).symm⟩
    · refine ⟨front ++ stretch, _, rfl, next hne (fun last hlast => ?_)
        (Underway.changes_concat (List.forall_mem_nil _) up), ?_⟩
      · have hmove := hmoves last hlast
        cases last <;> cases up <;> first | rfl | cases hmove
      · rw [h.ofSymbols_eq, unlessZero_zero, List.append_nil]

/-- Any other symbol settles all that is pending, and itself. -/
theorem single {front stretch : List Symbol} {moves changes : Int}
    (h : Cut front stretch moves changes) {symbol : Symbol}
    (hsingle : symbol.isMove = false ∧ symbol.isChange = false) :
    Cut (front ++ stretch ++ [symbol]) [] 0 0 ∧
      ofSymbols (front ++ stretch ++ [symbol]) = ofSymbols front ++
        (unlessZero .moves moves ++ unlessZero .changes changes ++ ofSymbols [symbol]) := by
  refine ⟨after_single hsingle, ?_⟩
  have hapart : ∀ last ∈ (front ++ stretch).getLast?, ∀ next ∈ [symbol].head?,
      last.fusesWith next = false := by
    intro last _ next hnext
    obtain rfl : symbol = next := Option.mem_some.mp hnext
    simp [Symbol.fusesWith, hsingle]
  rw [ofSymbols_append _ _ hapart, h.ofSymbols_eq, List.append_assoc]

end Cut

/-- The runs that are settled by reading a symbol, for the sums that are pending before it. -/
def settledBy (moves changes : Int) : Symbol → List Run
  | .right | .left => unlessZero .changes changes
  | .increment | .decrement => unlessZero .moves moves
  | symbol => unlessZero .moves moves ++ unlessZero .changes changes ++ ofSymbols [symbol]

end Run

end BrainfuckWasm
