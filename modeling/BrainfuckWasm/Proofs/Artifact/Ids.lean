import Mathlib.Logic.Function.Basic
import BrainfuckWasm.Artifact.Store

/-!
# The ids of artifacts

An id is issued once for each artifact that is stored. The ids that a store issues by itself spell
its serial numbers, so no two of them are the same. Whatever supply they come from, the next id is
free as long as no id is issued twice and every artifact has one that was issued before.
-/

namespace BrainfuckWasm

namespace Text

/-- The number that hexadecimal digits spell. -/
def hexNumber (digits : List Char) : Nat :=
  digits.foldl (fun number c => 16 * number + (hexValue? c).getD 0) 0

/-- A number is read back from its hexadecimal digits. -/
theorem hexNumber_toDigits (n : Nat) : hexNumber (Nat.toDigits 16 n) = n := by
  induction n using Nat.strongRecOn with
  | ind n ih =>
    have hdigit : ∀ d < 16, (hexValue? (Nat.digitChar d)).getD 0 = d := by decide
    by_cases hn : n < 16
    · rw [Nat.toDigits_of_lt_base hn]
      simpa [hexNumber] using hdigit n hn
    · have hstep : hexNumber (Nat.toDigits 16 n) =
          16 * hexNumber (Nat.toDigits 16 (n / 16)) +
            (hexValue? (Nat.digitChar (n % 16))).getD 0 := by
        rw [Nat.toDigits_of_base_le (by decide) (Nat.le_of_not_lt hn), hexNumber,
          List.foldl_append]
        rfl
      rw [hstep, ih (n / 16) (by omega), hdigit _ (Nat.mod_lt n (by decide))]
      omega

/-- Leading zeros count for nothing. -/
theorem hexNumber_zeros (width : Nat) (digits : List Char) :
    hexNumber (List.replicate width '0' ++ digits) = hexNumber digits := by
  induction width with
  | zero => rfl
  | succ width ih =>
    rw [← ih, List.replicate_succ, List.cons_append]
    rfl

/-- Numbers have different hexadecimal texts, also when these are filled up. -/
theorem hexPadded_injective (width : Nat) : Function.Injective (hexPadded width) := by
  intro m n h
  have hread (number : Nat) : hexNumber (hexPadded width number).toList = number := by
    rw [hexPadded, String.toList_ofList, hexNumber_zeros, hexNumber_toDigits]
  rw [← hread m, h, hread n]

end Text

namespace Artifact

/-- No id is issued twice. -/
theorem idOf_injective : Function.Injective idOf :=
  Text.hexPadded_injective 32

/-- An id that a store has issued so far. -/
def Issued (issue : Nat → String) (store : Store) (id : String) : Prop :=
  ∃ serial ≤ store.issued, id = issue serial

/-- The next id is none of those that were issued. -/
theorem Issued.ne_next {issue : Nat → String} (hissue : Function.Injective issue) {store : Store}
    {id : String} (h : Issued issue store id) : id ≠ issue (store.issued + 1) := by
  obtain ⟨serial, hserial, rfl⟩ := h
  intro heq
  have hserials := hissue heq
  omega

/-- Nothing is found under the next id if all artifacts have ids that were issued. -/
theorem Store.get?_next {issue : Nat → String} (hissue : Function.Injective issue) {store : Store}
    (h : ∀ record ∈ store.records, Issued issue store record.id) :
    store.get? (issue (store.issued + 1)) = none := by
  rw [get?, List.find?_eq_none]
  intro record hrecord
  simpa using (h record hrecord).ne_next hissue

end Artifact

end BrainfuckWasm
