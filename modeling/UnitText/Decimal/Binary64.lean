/-!
# Binary floating-point numbers

A `Binary64` is not-a-number, an infinity, or a finite value `significand * 2 ^ exponent` with a
sign. All arithmetic on finite values is exact; `Binary64.ofRatio` rounds once, to nearest with ties
to an even significand.
-/

namespace UnitText

/-- The quotient `num / den` rounded to the nearest natural number, a tie to the even one. -/
def roundDiv (num den : Nat) : Nat :=
  let q := num / den
  let r := num % den
  if 2 * r < den then q
  else if den < 2 * r then q + 1
  else if q % 2 = 0 then q else q + 1

/-- A number in the binary format of 64 bits. -/
inductive Binary64 where
  | nan
  | infinite (negative : Bool)
  | finite (negative : Bool) (significand : Nat) (exponent : Int)
deriving DecidableEq, Repr

namespace Binary64

/-- The least exponent of a finite value. -/
def minExponent : Int := -1074

/-- The greatest exponent of a finite value. -/
def maxExponent : Int := 971

/-- The sign and zero. -/
def zero (negative : Bool) : Binary64 := .finite negative 0 minExponent

/-- The nonnegative ratio `num / den` scaled by `2 ^ shift`, as numerator and denominator. -/
def scaleTwo (num den : Nat) (shift : Int) : Nat × Nat :=
  (num * Nat.pow 2 shift.toNat, den * Nat.pow 2 (-shift).toNat)

/-- The exponent of the leading bit of the positive ratio `num / den`. -/
def leadingBit (num den : Nat) : Int :=
  let guess : Int := (num.log2 : Int) - (den.log2 : Int)
  let (n, d) := scaleTwo num den (-guess)
  if d ≤ n then guess else guess - 1

/-- The number nearest to `num / den`, with a sign; a tie goes to an even significand. -/
def ofRatio (negative : Bool) (num den : Nat) : Binary64 :=
  if num = 0 then zero negative
  else
    let exponent := max (leadingBit num den - 52) minExponent
    let (n, d) := scaleTwo num den (-exponent)
    let significand := roundDiv n d
    let (significand, exponent) :=
      if significand = 0x20000000000000 then (0x10000000000000, exponent + 1)
      else (significand, exponent)
    if maxExponent < exponent then .infinite negative
    else .finite negative significand exponent

/-- The number nearest to an integer. -/
def ofInt (n : Int) : Binary64 := ofRatio (decide (n < 0)) n.natAbs 1

/-- The number nearest to `digits * 10 ^ power`, with a sign. A power far outside the range of the
    format is not computed. -/
def ofDecimal (negative : Bool) (digits : Nat) (power : Int) : Binary64 :=
  let size : Int := (digits.log2 : Int)
  if digits = 0 then zero negative
  else if 400 < power then .infinite negative
  else if 4 * power + size < -4000 then zero negative
  else ofRatio negative (digits * Nat.pow 10 power.toNat) (Nat.pow 10 (-power).toNat)

/-- The magnitude of a finite value as numerator and denominator. -/
def magnitude (significand : Nat) (exponent : Int) : Nat × Nat := scaleTwo significand 1 exponent

/-- The integer that a finite value equals, if it is one. -/
def toInt? : Binary64 → Option Int
  | .finite negative significand exponent =>
    let (n, d) := magnitude significand exponent
    if n % d = 0 then some (if negative then -((n / d : Nat) : Int) else ((n / d : Nat) : Int))
    else none
  | _ => none

/-- The integer part of a finite value, cut off toward zero. -/
def truncate? : Binary64 → Option Int
  | .finite negative significand exponent =>
    let (n, d) := magnitude significand exponent
    some (if negative then -((n / d : Nat) : Int) else ((n / d : Nat) : Int))
  | _ => none

/-- The greatest integer that is at most a finite value. -/
def floor? : Binary64 → Option Int
  | .finite negative significand exponent =>
    let (n, d) := magnitude significand exponent
    some (Int.fdiv (if negative then -(n : Int) else n) d)
  | _ => none

/-- Equality of values: not-a-number equals nothing, and the two zeros are equal. -/
def sameValue : Binary64 → Binary64 → Bool
  | .nan, _ | _, .nan => false
  | .finite s m e, .finite s' m' e' => (m == 0 && m' == 0) || (s == s' && m == m' && e == e')
  | x, y => x == y

end Binary64

end UnitText
