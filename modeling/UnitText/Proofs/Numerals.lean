import UnitText.Text.Numeral

/-!
# Decimal numerals

The decimal digits of a natural number are ASCII digits, there is at least one, and the first is a
zero for the number zero only. Both readings of a text as an integer take them for the number, as
long as there are not too many of them.
-/

namespace UnitText

/-! ## ASCII digits -/

theorem asciiDigit?_eq_some_iff {c : CodePoint} {d : Nat} :
    asciiDigit? c = some d ↔ 0x30 ≤ c.val ∧ c.val ≤ 0x39 ∧ c.val - 0x30 = d := by
  rw [asciiDigit?]
  split
  · rename_i inside
    simp [inside.1, inside.2]
  · rename_i outside
    simp only [reduceCtorEq, false_iff]
    exact fun inside => outside ⟨inside.1, inside.2.1⟩

theorem isAsciiDigit_iff {c : CodePoint} :
    isAsciiDigit c = true ↔ 0x30 ≤ c.val ∧ c.val ≤ 0x39 := by
  rw [isAsciiDigit, Option.isSome_iff_exists]
  simp [asciiDigit?_eq_some_iff]

/-- The value of an ASCII digit; any other code point counts as zero. -/
def digitOf (c : CodePoint) : Nat := (asciiDigit? c).getD 0

/-- An ASCII digit is a decimal digit with the same value. -/
theorem decimalDigit?_of_isAsciiDigit {c : CodePoint} (digit : isAsciiDigit c = true) :
    decimalDigit? c = some (digitOf c) := by
  have ⟨low, high⟩ := isAsciiDigit_iff.mp digit
  have value := asciiDigit?_eq_some_iff.mpr ⟨low, high, rfl⟩
  have found : digitZeros.find? (fun z => z ≤ c.val && c.val ≤ z + 9) = some 0x30 := by
    rw [digitZeros, List.find?_cons_of_pos]
    simp [low, high]
  rw [decimalDigit?, found, digitOf, value]
  rfl

theorem isNumeralSpace_of_isAsciiDigit {c : CodePoint} (digit : isAsciiDigit c = true) :
    isNumeralSpace c = false := by
  have ⟨low, high⟩ := isAsciiDigit_iff.mp digit
  simp only [isNumeralSpace, isSeparator, inRanges, separatorRanges, List.any_cons, List.any_nil,
    Bool.or_eq_false_iff, Bool.and_eq_false_iff, decide_eq_false_iff_not, and_true]
  omega

/-! ## The digits of a number -/

theorem isAsciiDigit_ofChar {c : Char} (digit : c.isDigit = true) :
    isAsciiDigit (CodePoint.ofChar c) = true := by
  simp only [Char.isDigit, Bool.and_eq_true, decide_eq_true_eq] at digit
  exact isAsciiDigit_iff.mpr ⟨digit.1, digit.2⟩

theorem isAsciiDigit_of_mem_natText {n : Nat} {c : CodePoint} (member : c ∈ natText n) :
    isAsciiDigit c = true := by
  obtain ⟨digit, inDigits, rfl⟩ := List.mem_map.mp member
  exact isAsciiDigit_ofChar (Nat.isDigit_of_mem_toDigits (by decide) (by decide) inDigits)

theorem natText_ne_nil (n : Nat) : natText n ≠ [] := fun empty =>
  Nat.toDigits_ne_nil (List.map_eq_nil_iff.mp empty)

/-- The digits of a number spell it. -/
theorem digitsValue_natText (n : Nat) : digitsValue (natText n) = n := by
  -- A digit's value is its distance from the zero, also where digits are characters.
  have steps (digits : List Char) (m : Nat) (all : ∀ c ∈ digits, c.isDigit = true) :
      digits.foldl (fun n c => 10 * n + digitOf (CodePoint.ofChar c)) m =
        Nat.ofDigitChars 10 digits m := by
    induction digits generalizing m with
    | nil => rfl
    | cons c rest ih =>
      have digit := isAsciiDigit_ofChar (all c (List.mem_cons_self ..))
      have ⟨low, high⟩ := isAsciiDigit_iff.mp digit
      have value : digitOf (CodePoint.ofChar c) = c.toNat - '0'.toNat := by
        rw [digitOf, asciiDigit?_eq_some_iff.mpr ⟨low, high, rfl⟩]
        rfl
      rw [Nat.ofDigitChars_eq_foldl, List.foldl_cons, List.foldl_cons, value,
        ih _ fun c later => all c (List.mem_cons_of_mem _ later), Nat.ofDigitChars_eq_foldl]
  have digits (c : Char) (member : c ∈ Nat.toDigits 10 n) : c.isDigit = true :=
    Nat.isDigit_of_mem_toDigits (by decide) (by decide) member
  calc digitsValue (natText n)
      = (Nat.toDigits 10 n).foldl (fun n c => 10 * n + digitOf (CodePoint.ofChar c)) 0 :=
        List.foldl_map
    _ = n := by rw [steps _ _ digits, Nat.ofDigitChars_ten_toDigits]

/-- The first digit of a number is a zero for zero only. -/
theorem head?_natText_ne_zero {n : Nat} (positive : n ≠ 0) : (natText n).head? ≠ some 0x30 := by
  induction n using Nat.strongRecOn with
  | ind n ih =>
    rw [natText, inBase]
    by_cases small : n < 10
    · rw [Nat.toDigits_of_lt_base small]
      have single : ∀ d < 10, d ≠ 0 → CodePoint.ofChar d.digitChar ≠ 0x30 := by decide
      simpa using single n small positive
    · have below := ih (n / 10) (by omega) (by omega)
      rw [natText, inBase] at below
      rw [Nat.toDigits_of_base_le (by decide) (by omega), List.map_append, List.head?_append]
      cases digits : (Nat.toDigits 10 (n / 10)).map CodePoint.ofChar with
      | nil => exact absurd (List.map_eq_nil_iff.mp digits) Nat.toDigits_ne_nil
      | cons c rest =>
        rw [digits] at below
        exact below

theorem separatedDigits?_of_digits {t : Text} (digits : ∀ c ∈ t, isAsciiDigit c = true)
    {afterDigit : Bool} (some : afterDigit = true ∨ t ≠ []) :
    separatedDigits? decimalDigit? afterDigit t = Option.some (t.map digitOf) := by
  induction t generalizing afterDigit with
  | nil =>
    rw [separatedDigits?, if_pos (some.resolve_right fun nonempty => nonempty rfl), List.map_nil]
  | cons c t ih =>
    rw [separatedDigits?, decimalDigit?_of_isAsciiDigit (digits c (List.mem_cons_self ..))]
    simp only
    rw [ih (fun c later => digits c (List.mem_cons_of_mem _ later)) (.inl rfl), Option.map_some,
      List.map_cons]

theorem numberOfDigits_map_digitOf (t : Text) : numberOfDigits (t.map digitOf) = digitsValue t :=
  List.foldl_map

theorem dropWhile_isNumeralSpace_append {before t : Text}
    (space : ∀ c ∈ before, isNumeralSpace c = true)
    (first : ∀ c, t.head? = some c → isNumeralSpace c = false) :
    (before ++ t).dropWhile isNumeralSpace = t := by
  rw [List.dropWhile_append_of_pos space]
  cases t with
  | nil => rfl
  | cons c rest => exact List.dropWhile_cons_of_neg (by simp [first c rfl])

/-- Space around a text without space at its ends is stripped. -/
theorem stripNumeral_append {before t after : Text}
    (spaceBefore : ∀ c ∈ before, isNumeralSpace c = true)
    (spaceAfter : ∀ c ∈ after, isNumeralSpace c = true)
    (nonempty : t ≠ []) (clean : ∀ c ∈ t, isNumeralSpace c = false) :
    stripNumeral (before ++ t ++ after) = t := by
  have first : ∀ c, (t ++ after).head? = some c → isNumeralSpace c = false := by
    intro c head
    obtain ⟨d, rest, rfl⟩ := List.exists_cons_of_ne_nil nonempty
    obtain rfl : d = c := by simpa using head
    exact clean d (List.mem_cons_self ..)
  have last : ∀ c, t.reverse.head? = some c → isNumeralSpace c = false := fun c head =>
    clean c (List.mem_reverse.mp (List.mem_of_mem_head? head))
  rw [stripNumeral, List.append_assoc, dropWhile_isNumeralSpace_append spaceBefore first,
    List.reverse_append,
    dropWhile_isNumeralSpace_append (fun c member => spaceAfter c (List.mem_reverse.mp member)) last,
    List.reverse_reverse]

/-- The tolerant reading takes the digits of a number, with space around them, for the number. -/
theorem readInteger?_natText {n : Nat} (short : (natText n).length ≤ maxDigits)
    {before after : Text} (spaceBefore : ∀ c ∈ before, isNumeralSpace c = true)
    (spaceAfter : ∀ c ∈ after, isNumeralSpace c = true) :
    (before ++ natText n ++ after).readInteger? = some (n : Int) := by
  have digits : ∀ c ∈ natText n, isAsciiDigit c = true := fun _ => isAsciiDigit_of_mem_natText
  have stripped : stripNumeral (before ++ natText n ++ after) = natText n :=
    stripNumeral_append spaceBefore spaceAfter (natText_ne_nil n) fun c member =>
      isNumeralSpace_of_isAsciiDigit (digits c member)
  have unsigned : splitSign (natText n) = (false, natText n) := by
    obtain ⟨c, rest, split⟩ := List.exists_cons_of_ne_nil (natText_ne_nil n)
    have ⟨low, high⟩ := isAsciiDigit_iff.mp (digits c (by simp [split]))
    rw [split, splitSign, if_neg (by omega), if_neg (by omega)]
  rw [Text.readInteger?, stripped, unsigned]
  simp only [separatedDigits?_of_digits digits (.inr (natText_ne_nil n)), List.length_map,
    numberOfDigits_map_digitOf, digitsValue_natText, signed, Bool.false_eq_true, if_false]
  rw [if_pos short]

end UnitText
