import Mathlib.Data.List.Basic
import BrainfuckWasm.Text.Utf8

/-!
# What decoding keeps

Whatever the bytes are, decoding neither loses nor invents an ASCII character. A byte below `0x80`
is read as its own character, wherever it stands. Any other byte starts a character beyond ASCII, and
the bytes which that character takes with it are all above `0x7F`, also where they break off or
spell nothing. So the characters of any kind within ASCII can be picked out before decoding or after
it.

Decoding undoes encoding: the bytes that spell a character are read as that character, whatever
follows them.
-/

namespace BrainfuckWasm.Text

/-- The character that has a byte as its code point. -/
def charOfByte (b : UInt8) : Char :=
  Char.ofNat b.toNat

/-- A number is the code point of its character unless it is a surrogate or too large. -/
theorem toNat_ofNat_of_valid {n : Nat} (h : n.isValidChar) : (Char.ofNat n).toNat = n := by
  rw [Char.ofNat, dif_pos h]
  rfl

/-- Every byte is a code point. -/
@[simp]
theorem toNat_charOfByte (b : UInt8) : (charOfByte b).toNat = b.toNat :=
  toNat_ofNat_of_valid (Or.inl (Nat.lt_trans b.toNat_lt (by decide)))

/-- Whether a byte is in a range, in terms of numbers. -/
theorem within_iff {low high b : UInt8} :
    (decide (low ≤ b) && decide (b ≤ high)) = true ↔
      low.toNat ≤ b.toNat ∧ b.toNat ≤ high.toNat := by
  rw [Bool.and_eq_true, decide_eq_true_iff, decide_eq_true_iff, UInt8.le_iff_toNat_le,
    UInt8.le_iff_toNat_le]

/-- A tail is a byte from `0x80` to `0xBF`. -/
theorem isTail_iff {b : UInt8} : isTail b = true ↔ 0x80 ≤ b.toNat ∧ b.toNat ≤ 0xBF :=
  within_iff

/-- A second byte is a tail, which is bounded from below after the least first byte and from above
after another. -/
theorem second_iff {a b least low other high : UInt8} (hne : least ≠ other)
    (hlow : 0x80 ≤ low.toNat) (hhigh : high.toNat ≤ 0xBF) :
    (if a = least then decide (low ≤ b) && decide (b ≤ 0xBF)
      else if a = other then decide (0x80 ≤ b) && decide (b ≤ high) else isTail b) = true ↔
      isTail b = true ∧ (a.toNat = least.toNat → low.toNat ≤ b.toNat) ∧
        (a.toNat = other.toNat → b.toNat ≤ high.toNat) := by
  have hleast_iff : a.toNat = least.toNat ↔ a = least := UInt8.toNat_inj
  have hother_iff : a.toNat = other.toNat ↔ a = other := UInt8.toNat_inj
  have hmin : (0x80 : UInt8).toNat = 0x80 := rfl
  have hmax : (0xBF : UInt8).toNat = 0xBF := rfl
  rw [isTail_iff, hleast_iff, hother_iff]
  by_cases hleast : a = least
  · rw [if_pos hleast, within_iff]
    simp only [hleast, hne, forall_const, IsEmpty.forall_iff, and_true]
    omega
  · by_cases hother : a = other
    · rw [if_neg hleast, if_pos hother, within_iff]
      simp only [hother, hne.symm, forall_const, IsEmpty.forall_iff, true_and]
      omega
    · simp only [hleast, hother, if_false, isTail_iff, IsEmpty.forall_iff, and_true]

/-- The second of three bytes is a tail, but not of an overlong form or a surrogate. -/
theorem isSecondOfThree_iff {a b : UInt8} :
    isSecondOfThree a b = true ↔ isTail b = true ∧
      (a.toNat = 0xE0 → 0xA0 ≤ b.toNat) ∧ (a.toNat = 0xED → b.toNat ≤ 0x9F) :=
  second_iff (by decide) (by decide) (by decide)

/-- The second of four bytes is a tail, but not of an overlong form or a code point too large. -/
theorem isSecondOfFour_iff {a b : UInt8} :
    isSecondOfFour a b = true ↔ isTail b = true ∧
      (a.toNat = 0xF0 → 0x90 ≤ b.toNat) ∧ (a.toNat = 0xF4 → b.toNat ≤ 0x8F) :=
  second_iff (by decide) (by decide) (by decide)

/-- An ASCII byte is read as its own character. -/
theorem leadingChar_of_ascii {a : UInt8} (h : a.toNat < 0x80) (rest : List UInt8) :
    leadingChar a rest = (charOfByte a, 0) := by
  unfold leadingChar
  exact if_pos (UInt8.lt_iff_toNat_lt.mpr h)

/-- A sequence spells a character beyond ASCII if its bits make up a code point there. -/
theorem le_toNat_joinBits {first : Nat} {tails : List UInt8}
    (h : 0x80 ≤ tails.foldl (fun n b => n * 0x40 + (b.toNat - 0x80)) first)
    (hvalid : (tails.foldl (fun n b => n * 0x40 + (b.toNat - 0x80)) first).isValidChar) :
    0x80 ≤ (joinBits first tails).toNat := by
  rwa [joinBits, toNat_ofNat_of_valid hvalid]

/-- Any other byte starts a character beyond ASCII, which takes only such bytes with it. -/
theorem leadingChar_of_not_ascii {a : UInt8} (h : 0x80 ≤ a.toNat) (rest : List UInt8) :
    0x80 ≤ (leadingChar a rest).1.toNat ∧
      ∀ b ∈ rest.take (leadingChar a rest).2, 0x80 ≤ b.toNat := by
  fun_cases leadingChar a rest
  case case1 hascii => exact absurd (UInt8.lt_iff_toNat_lt.mp hascii) (Nat.not_lt.mpr h)
  -- The three lengths of a whole sequence. The conditions on the second byte keep the code point
  -- from being a surrogate or too large, for which `Char.ofNat` gives the null character.
  case case3 _ ha b more hb =>
    simp only [within_iff, isTail_iff, UInt8.reduceToNat] at ha hb
    constructor
    · dsimp only
      apply le_toNat_joinBits <;> simp only [List.foldl, Nat.isValidChar] <;> omega
    · simp [hb]
  case case7 _ _ ha b hb c more hc =>
    simp only [within_iff, isSecondOfThree_iff, isTail_iff, UInt8.reduceToNat] at ha hb hc
    constructor
    · dsimp only
      apply le_toNat_joinBits <;> simp only [List.foldl, Nat.isValidChar] <;> omega
    · simp [hb, hc]
  case case13 _ _ _ ha b hb c hc d more hd =>
    simp only [within_iff, isSecondOfFour_iff, isTail_iff, UInt8.reduceToNat] at ha hb hc hd
    constructor
    · dsimp only
      apply le_toNat_joinBits <;> simp only [List.foldl, Nat.isValidChar] <;> omega
    · simp [hb, hc, hd]
  -- Everywhere else the replacement stands for the bytes that started a sequence.
  all_goals
    refine ⟨by decide, ?_⟩
    simp_all [isTail_iff, isSecondOfThree_iff, isSecondOfFour_iff]

/-- Bytes that belong to a character read before are skipped. -/
theorem decodeUtf8After_eq_drop (skipped : Nat) (bytes : List UInt8) :
    decodeUtf8After [] skipped bytes = decodeUtf8 (bytes.drop skipped) := by
  induction bytes generalizing skipped with
  | nil => rw [List.drop_nil, decodeUtf8, decodeUtf8After, decodeUtf8After]
  | cons a rest ih =>
    cases skipped with
    | zero => rfl
    | succ skipped => exact ih skipped

/-- Decoding goes on after the bytes of the leading character. -/
theorem decodeUtf8_cons_drop (a : UInt8) (rest : List UInt8) :
    decodeUtf8 (a :: rest) =
      (leadingChar a rest).1 :: decodeUtf8 (rest.drop (leadingChar a rest).2) := by
  rw [decodeUtf8_cons, decodeUtf8After_eq_drop]

/-- ASCII bytes are read one by one. -/
theorem decodeUtf8_of_ascii {bytes : List UInt8} (h : ∀ b ∈ bytes, b.toNat < 0x80) :
    decodeUtf8 bytes = bytes.map charOfByte := by
  induction bytes with
  | nil => rfl
  | cons a rest ih =>
    rw [List.forall_mem_cons] at h
    rw [decodeUtf8_cons_drop, leadingChar_of_ascii h.1, List.drop_zero, ih h.2, List.map_cons]

/-- Characters within ASCII are picked out of the decoded bytes as they are out of the bytes. -/
theorem filter_decodeUtf8After {p : Char → Bool} (hp : ∀ c, p c = true → c.toNat < 0x80)
    (skipped : Nat) (bytes : List UInt8) :
    (decodeUtf8After [] skipped bytes).filter p =
      ((bytes.drop skipped).map charOfByte).filter p := by
  have hbeyond {c : Char} (hc : 0x80 ≤ c.toNat) : ¬ p c = true :=
    fun htrue => absurd (hp c htrue) (Nat.not_lt.mpr hc)
  induction bytes generalizing skipped with
  | nil => cases skipped <;> rfl
  | cons a rest ih =>
    cases skipped with
    | succ skipped => exact ih skipped
    | zero =>
      rw [← decodeUtf8, decodeUtf8_cons, List.drop_zero, List.map_cons]
      by_cases ha : a.toNat < 0x80
      · rw [leadingChar_of_ascii ha, List.filter_cons, List.filter_cons, ih, List.drop_zero]
      · rw [Nat.not_lt] at ha
        obtain ⟨hchar, htaken⟩ := leadingChar_of_not_ascii ha rest
        generalize leadingChar a rest = found at hchar htaken
        have hnone : ((rest.take found.2).map charOfByte).filter p = [] := by
          rw [List.filter_eq_nil_iff, List.forall_mem_map]
          exact fun b hb => hbeyond (by rw [toNat_charOfByte]; exact htaken b hb)
        have hbyte : ¬ p (charOfByte a) = true := hbeyond (by rwa [toNat_charOfByte])
        calc (found.1 :: decodeUtf8After [] found.2 rest).filter p
            = ((rest.drop found.2).map charOfByte).filter p := by
              rw [List.filter_cons_of_neg (hbeyond hchar), ih]
          _ = ((rest.take found.2 ++ rest.drop found.2).map charOfByte).filter p := by
              rw [List.map_append, List.filter_append, hnone, List.nil_append]
          _ = (charOfByte a :: rest.map charOfByte).filter p := by
              rw [List.take_append_drop, List.filter_cons_of_neg hbyte]

/-- Two bytes of the right kind spell a character. -/
theorem leadingChar_two {a b : UInt8} (ha : 0xC2 ≤ a.toNat ∧ a.toNat ≤ 0xDF)
    (hb : isTail b = true) (rest : List UInt8) :
    leadingChar a (b :: rest) = (joinBits (a.toNat - 0xC0) [b], 1) := by
  have hascii : ¬ a.toNat < 0x80 := by omega
  simp [leadingChar, UInt8.lt_iff_toNat_lt, UInt8.le_iff_toNat_le, hascii, ha, hb]

/-- Three bytes of the right kind spell a character. -/
theorem leadingChar_three {a b c : UInt8} (ha : 0xE0 ≤ a.toNat ∧ a.toNat ≤ 0xEF)
    (hb : isSecondOfThree a b = true) (hc : isTail c = true) (rest : List UInt8) :
    leadingChar a (b :: c :: rest) = (joinBits (a.toNat - 0xE0) [b, c], 2) := by
  have hascii : ¬ a.toNat < 0x80 := by omega
  have htwo : ¬ a.toNat ≤ 0xDF := by omega
  simp [leadingChar, UInt8.lt_iff_toNat_lt, UInt8.le_iff_toNat_le, hascii, htwo, ha, hb, hc]

/-- Four bytes of the right kind spell a character. -/
theorem leadingChar_four {a b c d : UInt8} (ha : 0xF0 ≤ a.toNat ∧ a.toNat ≤ 0xF4)
    (hb : isSecondOfFour a b = true) (hc : isTail c = true) (hd : isTail d = true)
    (rest : List UInt8) :
    leadingChar a (b :: c :: d :: rest) = (joinBits (a.toNat - 0xF0) [b, c, d], 3) := by
  have hascii : ¬ a.toNat < 0x80 := by omega
  have htwo : ¬ a.toNat ≤ 0xDF := by omega
  have hthree : ¬ a.toNat ≤ 0xEF := by omega
  simp [leadingChar, UInt8.lt_iff_toNat_lt, UInt8.le_iff_toNat_le, hascii, htwo, hthree, ha, hb, hc,
    hd]

/-- A byte is the number that it is made of. -/
theorem toNat_spelled {n : Nat} (h : n < 0x100) : (UInt8.ofNat n).toNat = n :=
  UInt8.toNat_ofNat_of_lt' h

/-- The byte that spells six bits of a code point. -/
theorem toNat_spelledTail (bits : Nat) :
    (UInt8.ofNat (bits % 64 + 128)).toNat = bits % 64 + 128 :=
  toNat_spelled (by omega)

/-- The byte that spells six bits of a code point is a tail. -/
theorem isTail_spelledTail (bits : Nat) : isTail (UInt8.ofNat (bits % 64 + 128)) = true := by
  rw [isTail_iff, toNat_spelledTail]
  omega

/-- The first two of three bytes go together: they are above the overlong forms, since two bytes do
not suffice, and the code point is no surrogate. -/
theorem isSecondOfThree_spelled {v : Nat} (hmore : 0x7FF < v) (hv : v ≤ 0xFFFF)
    (hvalid : v.isValidChar) :
    isSecondOfThree (UInt8.ofNat (v / 4096 % 16 + 224)) (UInt8.ofNat (v / 64 % 64 + 128)) =
      true := by
  rw [Nat.isValidChar] at hvalid
  rw [isSecondOfThree_iff, toNat_spelled (by omega), toNat_spelledTail]
  exact ⟨isTail_spelledTail _, by omega, by omega⟩

/-- The first two of four bytes go together: they are above the overlong forms, since three bytes do
not suffice, and the code point is not too large. -/
theorem isSecondOfFour_spelled {v : Nat} (hmore : 0xFFFF < v) (hvalid : v.isValidChar) :
    isSecondOfFour (UInt8.ofNat (v / 262144 % 8 + 240)) (UInt8.ofNat (v / 4096 % 64 + 128)) =
      true := by
  rw [Nat.isValidChar] at hvalid
  rw [isSecondOfFour_iff, toNat_spelled (by omega), toNat_spelledTail]
  exact ⟨isTail_spelledTail _, by omega, by omega⟩

/-- The bytes that spell a character are read as that character, whatever follows them. -/
theorem leadingChar_utf8EncodeChar (c : Char) (rest : List UInt8) :
    ∃ a tails, String.utf8EncodeChar c = a :: tails ∧
      leadingChar a (tails ++ rest) = (c, tails.length) := by
  have hvalid : c.toNat.isValidChar := c.valid
  have hchar := Char.ofNat_toNat c
  have hval : c.val.toNat = c.toNat := rfl
  rw [String.utf8EncodeChar, hval]
  generalize c.toNat = v at hvalid hchar
  have hmax : v < 0x110000 := by
    rw [Nat.isValidChar] at hvalid
    omega
  have hbits {first : Nat} {tails : List UInt8}
      (h : tails.foldl (fun n b => n * 0x40 + (b.toNat - 0x80)) first = v) :
      joinBits first tails = c := by
    rw [joinBits, h, hchar]
  by_cases hone : v ≤ 0x7F
  · have ha := toNat_spelled (show v < 0x100 by omega)
    refine ⟨_, _, if_pos hone, ?_⟩
    rw [List.nil_append, leadingChar_of_ascii (by omega), charOfByte, ha, hchar, List.length_nil]
  by_cases htwo : v ≤ 0x7FF
  · have ha := toNat_spelled (show v / 64 % 32 + 192 < 0x100 by omega)
    refine ⟨_, _, (if_neg hone).trans (if_pos htwo), ?_⟩
    rw [List.singleton_append, leadingChar_two (by omega) (isTail_spelledTail v), hbits]
    · rfl
    · simp only [List.foldl, ha, toNat_spelledTail]
      omega
  by_cases hthree : v ≤ 0xFFFF
  · have ha := toNat_spelled (show v / 4096 % 16 + 224 < 0x100 by omega)
    have hsecond := isSecondOfThree_spelled (Nat.lt_of_not_le htwo) hthree hvalid
    refine ⟨_, _, (if_neg hone).trans ((if_neg htwo).trans (if_pos hthree)), ?_⟩
    rw [List.cons_append, List.singleton_append,
      leadingChar_three (by omega) hsecond (isTail_spelledTail v), hbits]
    · rfl
    · simp only [List.foldl, ha, toNat_spelledTail]
      omega
  · have ha := toNat_spelled (show v / 262144 % 8 + 240 < 0x100 by omega)
    have hsecond := isSecondOfFour_spelled (Nat.lt_of_not_le hthree) hvalid
    refine ⟨_, _, (if_neg hone).trans ((if_neg htwo).trans (if_neg hthree)), ?_⟩
    rw [List.cons_append, List.cons_append, List.singleton_append,
      leadingChar_four (by omega) hsecond (isTail_spelledTail _) (isTail_spelledTail v), hbits]
    · rfl
    · simp only [List.foldl, ha, toNat_spelledTail]
      omega

/-- Decoding undoes encoding. -/
theorem decodeUtf8_encodeUtf8 (cs : List Char) : decodeUtf8 (encodeUtf8 cs) = cs := by
  induction cs with
  | nil => rfl
  | cons c rest ih =>
    obtain ⟨a, tails, hbytes, hleading⟩ := leadingChar_utf8EncodeChar c (encodeUtf8 rest)
    have hencode : encodeUtf8 (c :: rest) = a :: (tails ++ encodeUtf8 rest) := by
      rw [encodeUtf8, List.flatMap_cons, hbytes]
      rfl
    rw [hencode, decodeUtf8_cons_drop, hleading, List.drop_left, ih]

/-- The bytes of a text spell it. -/
theorem textOfBytes_bytesOfText (text : String) : textOfBytes (bytesOfText text) = text := by
  rw [textOfBytes, bytesOfText, decodeUtf8_encodeUtf8, String.ofList_toList]

end BrainfuckWasm.Text
