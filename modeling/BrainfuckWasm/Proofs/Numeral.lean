import BrainfuckWasm.Text.Numeral

/-!
# Numbers and their digits

A number is written with the first ten digits, after a minus sign if it is negative. These are
digits of some script, and neither padding nor underscores are among them, so a number is read back
from what is written unless it has too many digits.
-/

namespace BrainfuckWasm.Text

/-- A digit of the first ten stands for its distance from zero. -/
theorem digitValue?_of_isDigit {c : Char} (h : c.isDigit = true) :
    digitValue? c = some (c.toNat - '0'.toNat) := by
  have hfirst : (decide (0x30 ≤ c.toNat) && decide (c.toNat ≤ 0x30 + 9)) = true := h
  have hzeros : digitZeros = 0x30 :: digitZeros.tail := rfl
  rw [digitValue?, hzeros, List.find?_cons, hfirst]
  rfl

/-- The digits of a number are decimal digits. -/
theorem isDigit_of_mem {n : Nat} {c : Char} (h : c ∈ Nat.toDigits 10 n) : c.isDigit = true :=
  Nat.isDigit_of_mem_toDigits (by decide) (by decide) h

/-- The digits of a number are decimal digits also among those of all scripts. -/
theorem isDecimalDigit_of_mem {n : Nat} {c : Char} (h : c ∈ Nat.toDigits 10 n) :
    isDecimalDigit c = true := by
  rw [isDecimalDigit, digitValue?_of_isDigit (isDigit_of_mem h)]
  rfl

/-- The values of the digits of a number spell it. -/
theorem natOfDigits_toDigits (n : Nat) :
    natOfDigits ((Nat.toDigits 10 n).map fun c => c.toNat - '0'.toNat) = n := by
  rw [natOfDigits, List.foldl_map]
  exact Nat.ofDigitChars_ten_toDigits

/-- Plain digits are read one by one. -/
theorem digitValues?_of_isDigit {cs : List Char} (hcs : cs ≠ [])
    (h : ∀ c ∈ cs, c.isDigit = true) :
    digitValues? cs = some (cs.map fun c => c.toNat - '0'.toNat) := by
  induction cs with
  | nil => exact absurd rfl hcs
  | cons c rest ih =>
    rw [List.forall_mem_cons] at h
    have hc := digitValue?_of_isDigit h.1
    cases rest with
    | nil => simp [digitValues?, hc]
    | cons d rest =>
      have hunderscore : ∀ others, d :: rest = '_' :: others → False := by
        rintro others heq
        rw [(List.cons.inj heq).1] at h
        exact absurd (h.2 '_' List.mem_cons_self) (by decide)
      have hrest := ih (List.cons_ne_nil _ _) h.2
      rw [digitValues?, hc, hrest]
      · rfl
      · simp
      · exact hunderscore

/-- A natural number is read back from its digits, if these are not too many. -/
theorem unsigned?_toDigits {n : Nat} (h : (Nat.toDigits 10 n).length ≤ maxNumeralDigits) :
    unsigned? (Nat.toDigits 10 n) = some n := by
  rw [unsigned?, digitValues?_of_isDigit Nat.toDigits_ne_nil fun c => isDigit_of_mem]
  simp only [Option.bind_eq_bind, Option.bind_some, List.length_map, h, if_true,
    natOfDigits_toDigits]

/-- Nothing is trimmed from a list without members of the class. -/
theorem trimBoth_of_forall {drop : Char → Bool} {cs : List Char} (h : ∀ c ∈ cs, drop c = false) :
    trimBoth drop cs = cs := by
  have hself (cs : List Char) (h : ∀ c ∈ cs, drop c = false) : cs.dropWhile drop = cs := by
    cases cs with
    | nil => rfl
    | cons c rest => rw [List.dropWhile_cons, h c List.mem_cons_self, if_neg Bool.false_ne_true]
  rw [trimBoth, hself cs h, hself cs.reverse fun c hc => h c (List.mem_reverse.mp hc),
    List.reverse_reverse]

/-- A printed number consists of digits, after a minus sign if it is negative. -/
theorem toList_toString_int (number : Int) : (toString number).toList =
    match number with
    | .ofNat n => Nat.toDigits 10 n
    | .negSucc n => '-' :: Nat.toDigits 10 (n + 1) := by
  cases number with
  | ofNat n => exact Nat.toList_repr
  | negSucc n =>
    have hprint : toString (Int.negSucc n) = "-" ++ Nat.repr (n + 1) := rfl
    have hsign : "-".toList = ['-'] := by simp
    rw [hprint, String.toList_append, Nat.toList_repr, hsign]
    rfl

/-- No digit of a number is padding. -/
theorem isNumeralPadding_of_mem {n : Nat} {c : Char} (h : c ∈ Nat.toDigits 10 n) :
    isNumeralPadding c = false := by
  have hdigit : (decide (0x30 ≤ c.toNat) && decide (c.toNat ≤ 0x39)) = true := isDigit_of_mem h
  simp only [isNumeralPadding, isBlank]
  grind

/-- A printed number is read back, if it has not too many digits. -/
theorem integer?_toString {number : Int}
    (h : (Nat.toDigits 10 number.natAbs).length ≤ maxNumeralDigits) :
    integer? (toString number) = some number := by
  have hsigns {n : Nat} {sign : Char} {rest : List Char} (hsign : sign.isDigit = false) :
      Nat.toDigits 10 n ≠ sign :: rest := by
    intro heq
    rw [isDigit_of_mem (heq ▸ List.mem_cons_self)] at hsign
    cases hsign
  rw [integer?, toList_toString_int]
  cases number with
  | ofNat n =>
    simp only
    rw [trimBoth_of_forall fun c => isNumeralPadding_of_mem]
    split
    · next rest heq => exact absurd heq (hsigns (by decide))
    · next rest heq => exact absurd heq (hsigns (by decide))
    · have hread : unsigned? (Nat.toDigits 10 n) = some n := unsigned?_toDigits h
      rw [hread]
      rfl
  | negSucc n =>
    have hpadding : ∀ c ∈ '-' :: Nat.toDigits 10 (n + 1), isNumeralPadding c = false :=
      List.forall_mem_cons.mpr ⟨by decide, fun c => isNumeralPadding_of_mem⟩
    have hread : unsigned? (Nat.toDigits 10 (n + 1)) = some (n + 1) := unsigned?_toDigits h
    simp only
    rw [trimBoth_of_forall hpadding]
    simp only [hread]
    rfl

end BrainfuckWasm.Text
