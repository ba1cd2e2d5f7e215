import UnitText.Decimal.Numeral
import UnitText.Proofs.JsonGrammar

/-!
# Numbers as JSON numerals

Integers are written as JSON numerals, and so are finite floating-point numbers in the layout in which
they stand for themselves. For these the point is what matters: a zero before other digits is not
allowed in front of it, so the shortest decimal of a number must not be zero unless it is laid out
with an exponent.
-/

namespace UnitText

namespace Json

/-! ## Runs of digits -/

theorem isAsciiDigit_zero : isAsciiDigit 0x30 = true := by decide

theorem isDigits_natText (n : Nat) : IsDigits (natText n) :=
  ⟨natText_ne_nil n, fun _ => isAsciiDigit_of_mem_natText⟩

theorem IsDigits.append_left {s t : Text} (digits : IsDigits t)
    (before : ∀ c ∈ s, isAsciiDigit c = true) : IsDigits (s ++ t) :=
  ⟨fun empty => digits.1 (List.append_eq_nil_iff.mp empty).2,
    fun c member => (List.mem_append.mp member).elim (before c) (digits.2 c)⟩

theorem IsDigits.append_right {s t : Text} (digits : IsDigits s)
    (after : ∀ c ∈ t, isAsciiDigit c = true) : IsDigits (s ++ t) :=
  ⟨fun empty => digits.1 (List.append_eq_nil_iff.mp empty).1,
    fun c member => (List.mem_append.mp member).elim (digits.2 c) (after c)⟩

theorem isAsciiDigit_of_mem_replicate {n : Nat} {c : CodePoint}
    (member : c ∈ List.replicate n (0x30 : CodePoint)) : isAsciiDigit c = true := by
  rw [List.eq_of_mem_replicate member]
  exact isAsciiDigit_zero

theorem IsDigits.take {t : Text} (digits : IsDigits t) {n : Nat} (some : 0 < n) :
    IsDigits (t.take n) := by
  refine ⟨fun empty => ?_, fun c member => digits.2 c (List.mem_of_mem_take member)⟩
  rcases List.take_eq_nil_iff.mp empty with zero | empty
  · omega
  · exact digits.1 empty

theorem IsDigits.drop {t : Text} (digits : IsDigits t) {n : Nat} (within : n < t.length) :
    IsDigits (t.drop n) := by
  refine ⟨fun empty => ?_, fun c member => digits.2 c (List.mem_of_mem_drop member)⟩
  have := List.drop_eq_nil_iff.mp empty
  omega

theorem IsDigits.isWhole {t : Text} (digits : IsDigits t) (noZero : t.head? ≠ some 0x30) :
    IsWhole t := ⟨digits, fun zero => absurd zero noZero⟩

theorem isWhole_of_length_le_one {t : Text} (digits : IsDigits t) (short : t.length ≤ 1) :
    IsWhole t := by
  refine ⟨digits, fun zero => ?_⟩
  obtain ⟨c, rest, rfl⟩ := List.exists_cons_of_ne_nil digits.1
  obtain rfl : rest = [] := List.length_eq_zero_iff.mp (by simpa using short)
  rw [Option.some.inj zero]

theorem isWhole_natText (n : Nat) : IsWhole (natText n) := by
  by_cases zero : n = 0
  · rw [zero]
    exact isWhole_of_length_le_one (isDigits_natText 0) (by decide)
  · exact (isDigits_natText n).isWhole (head?_natText_ne_zero zero)

/-! ## Numerals -/

/-- A numeral from its parts, with a sign that is written only if it is negative. -/
theorem isNumeral_sign (negative : Bool) {whole fraction exponent : Text} (isWhole : IsWhole whole)
    (isFraction : fraction = [] ∨ IsFraction fraction)
    (isExponent : exponent = [] ∨ IsExponent exponent) :
    IsNumeral (signText negative ++ (whole ++ fraction ++ exponent)) := by
  refine ⟨signText negative, whole, fraction, exponent, ?_, isWhole, isFraction, isExponent, ?_⟩
  · cases negative
    · exact .inl rfl
    · exact .inr (by decide)
  · rw [List.append_assoc, List.append_assoc, List.append_assoc]

theorem intText_eq_signText (n : Int) : intText n = signText (decide (n < 0)) ++ natText n.natAbs := by
  rw [intText]
  split
  · rename_i negative
    rw [decide_eq_true negative]
    rfl
  · rename_i nonnegative
    rw [decide_eq_false nonnegative]
    rfl

theorem isNumeral_intText (n : Int) : IsNumeral (intText n) := by
  have numeral := isNumeral_sign (decide (n < 0)) (isWhole_natText n.natAbs) (.inl rfl) (.inl rfl)
  rwa [List.append_nil, List.append_nil, ← intText_eq_signText] at numeral

theorem isExponent_exponentText (e : Int) : IsExponent (exponentText e) := by
  have digits : IsDigits (fillLeft 0x30 2 (natText e.natAbs)) :=
    (isDigits_natText _).append_left fun _ => isAsciiDigit_of_mem_replicate
  rw [exponentText]
  by_cases negative : e < 0
  · exact ⟨0x65, [0x2D], _, .inl rfl, .inr (.inr rfl), digits, by rw [if_pos negative]; rfl⟩
  · exact ⟨0x65, [0x2B], _, .inl rfl, .inr (.inl rfl), digits, by rw [if_neg negative]; rfl⟩

/-- Digits with the point after the first one, and an exponent. -/
theorem isNumeral_layScientific (negative : Bool) {digits : Text} (isDigits : IsDigits digits)
    (e : Int) : IsNumeral (signText negative ++ layScientific digits e) := by
  rw [layScientific]
  have exponent := isExponent_exponentText e
  split
  · rename_i short
    have numeral := isNumeral_sign negative (isWhole_of_length_le_one isDigits short) (.inl rfl)
      (.inr exponent)
    rwa [List.append_nil] at numeral
  · rename_i long
    have first : IsWhole (digits.take 1) :=
      isWhole_of_length_le_one (isDigits.take (by decide)) (by rw [List.length_take]; omega)
    rw [List.append_assoc (digits.take 1)]
    exact isNumeral_sign negative first (.inr ⟨_, isDigits.drop (by omega), rfl⟩) (.inr exponent)

/-- Digits with the point among them, or with zeros up to the point and one decimal. -/
theorem isNumeral_layPlain (negative : Bool) {digits : Text} (isDigits : IsDigits digits)
    {point : Int} (noZero : 0 < point → digits.head? ≠ some 0x30) :
    IsNumeral (signText negative ++
      (if (digits.length : Int) ≤ point then layPlain digits point ++ text ".0"
        else layPlain digits point)) := by
  have nonempty : 0 < digits.length := List.length_pos_iff.mpr isDigits.1
  rw [layPlain]
  by_cases early : point ≤ 0
  · have fraction : IsFraction (0x2E :: (List.replicate (-point).toNat 0x30 ++ digits)) :=
      ⟨_, isDigits.append_left fun _ => isAsciiDigit_of_mem_replicate, rfl⟩
    have numeral := isNumeral_sign negative (isWhole_natText 0) (.inr fraction) (.inl rfl)
    rw [if_neg (by omega), if_pos early]
    rwa [List.append_nil] at numeral
  · rw [if_neg early]
    have noZero := noZero (by omega)
    split
    · have whole : IsWhole (digits ++ List.replicate (point.toNat - digits.length) 0x30) := by
        refine (isDigits.append_right fun _ => isAsciiDigit_of_mem_replicate).isWhole ?_
        obtain ⟨c, rest, rfl⟩ := List.exists_cons_of_ne_nil isDigits.1
        exact noZero
      have fraction : IsFraction (text ".0") :=
        ⟨natText 0, isDigits_natText 0, by decide⟩
      have numeral := isNumeral_sign negative whole (.inr fraction) (.inl rfl)
      rwa [List.append_nil] at numeral
    · rename_i beyond
      have whole : IsWhole (digits.take point.toNat) := by
        refine (isDigits.take (by omega)).isWhole ?_
        rwa [List.head?_take, if_neg (by omega)]
      have fraction : IsFraction (text "." ++ digits.drop point.toNat) :=
        ⟨_, isDigits.drop (by omega), rfl⟩
      have numeral := isNumeral_sign negative whole (.inr fraction) (.inl rfl)
      rwa [List.append_nil, ← List.append_assoc (digits.take _)] at numeral

end Json

/-! ## The shortest decimal -/

namespace Decimal

theorem le_roundDiv (n d : Nat) : n / d ≤ roundDiv n d := by
  simp only [roundDiv]
  split
  · exact Nat.le_refl _
  · split
    · exact Nat.le_succ _
    · split
      · exact Nat.le_refl _
      · exact Nat.le_succ _

/-- No positive number is read back from zero. -/
theorem readsBack_zero {significand : Nat} (positive : significand ≠ 0) (exponent power : Int) :
    readsBack significand exponent ⟨0, power⟩ = false := by
  have scaled (n : Nat) (some : 0 < n) (j : Int) : compareScaled 0 power n j = .lt := by
    rw [compareScaled, Nat.zero_mul, Nat.zero_mul, Nat.compare_eq_lt]
    exact Nat.mul_pos (Nat.mul_pos some (Nat.pow_pos (by decide))) (Nat.pow_pos (by decide))
  simp only [readsBack]
  rw [scaled _ (by split <;> omega)]
  simp

theorem onGrid?_ne_zero {significand : Nat} (positive : significand ≠ 0) {exponent power : Int}
    {d : Decimal} (found : onGrid? significand exponent power = some d) : d.digits ≠ 0 := by
  simp only [onGrid?] at found
  split at found
  · rename_i lower _
    obtain rfl := Option.some.inj found
    intro zero
    have below := le_roundDiv (onGrid (Binary64.magnitude significand exponent).1
      (Binary64.magnitude significand exponent).2 power).1 (onGrid
      (Binary64.magnitude significand exponent).1 (Binary64.magnitude significand exponent).2 power).2
    rw [show roundDiv _ _ = 0 from zero, Nat.le_zero] at below
    rw [below, readsBack_zero positive] at lower
    cases lower
  · rename_i lower _
    obtain rfl := Option.some.inj found
    intro zero
    rw [show _ / _ = 0 from zero, readsBack_zero positive] at lower
    cases lower
  · obtain rfl := Option.some.inj found
    exact Nat.succ_ne_zero _
  · cases found

theorem stripZeros_of_digits_eq_zero {limit : Nat} {d : Decimal} (zero : d.digits = 0) :
    stripZeros limit d = d := by
  cases limit with
  | zero => rfl
  | succ limit => rw [stripZeros, if_neg fun both => both.1 zero]

theorem digits_stripZeros_ne_zero {limit : Nat} {d : Decimal} (nonzero : d.digits ≠ 0) :
    (stripZeros limit d).digits ≠ 0 := by
  induction limit generalizing d with
  | zero => exact nonzero
  | succ limit ih =>
    rw [stripZeros]
    split
    · rename_i ends
      exact ih (show d.digits / 10 ≠ 0 by omega)
    · exact nonzero

end Decimal

/-- The shortest decimal of a positive number is zero only far below the point. -/
theorem power_shortestDecimal_of_zero {significand : Nat} (positive : significand ≠ 0)
    {exponent : Int} (zero : (shortestDecimal significand exponent).digits = 0) :
    (shortestDecimal significand exponent).power = -1100 := by
  simp only [shortestDecimal] at zero ⊢
  cases found : (List.range 17).findSome? fun n =>
      Decimal.onGrid? significand exponent (Decimal.leadingPower
        (Binary64.magnitude significand exponent).1 (Binary64.magnitude significand exponent).2 -
          (n + 1 : Nat)) with
  | some d =>
    obtain ⟨n, _, onGrid⟩ := List.exists_of_findSome?_eq_some found
    rw [found, Option.getD_some] at zero
    exact absurd zero (Decimal.digits_stripZeros_ne_zero (Decimal.onGrid?_ne_zero positive onGrid))
  | none =>
    rw [found, Option.getD_none] at zero
    rw [Option.getD_none]
    by_cases exact : (Binary64.magnitude significand exponent).1 * Nat.pow 10 1100 /
        (Binary64.magnitude significand exponent).2 = 0
    · rw [Decimal.stripZeros_of_digits_eq_zero exact]
    · exact absurd zero (Decimal.digits_stripZeros_ne_zero exact)

/-- A finite number is written as a numeral. -/
theorem isNumeral_display_finite (negative : Bool) (significand : Nat) (exponent : Int) :
    Json.IsNumeral (Binary64.display (.finite negative significand exponent)) := by
  cases significand with
  | zero =>
    have fraction : Json.IsFraction (text ".0") := ⟨natText 0, Json.isDigits_natText 0, by decide⟩
    exact Json.isNumeral_sign negative (Json.isWhole_natText 0) (.inr fraction) (.inl rfl)
  | succ n =>
    have digits := Json.isDigits_natText (shortestDecimal (n + 1) exponent).digits
    rw [Binary64.display]
    · simp only
      split
      · rename_i positional
        refine Json.isNumeral_layPlain negative digits fun positive => head?_natText_ne_zero ?_
        intro zero
        have power := power_shortestDecimal_of_zero (Nat.succ_ne_zero n) zero
        have single : (natText 0).length = 1 := by decide
        rw [zero, single, power] at positive
        omega
      · exact Json.isNumeral_layScientific negative digits _
    · exact fun zero => Nat.succ_ne_zero n zero

end UnitText
