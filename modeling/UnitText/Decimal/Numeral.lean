import UnitText.Decimal.Binary64
import UnitText.Text.Numeral

/-!
# Decimal forms of a binary number

`shortestDecimal` finds the decimal with the fewest digits that reads back to a given binary value,
and among those the nearest. Every comparison is made in exact arithmetic: the numbers that read
back to a value form an interval from halfway to its lower neighbour to halfway to its upper one,
with the ends included when the significand is even.
-/

namespace UnitText

/-- The value `digits * 10 ^ power`. -/
structure Decimal where
  digits : Nat
  power : Int
deriving DecidableEq, Repr

namespace Decimal

/-- Compares `a * 10 ^ i` with `n * 2 ^ j`. -/
def compareScaled (a : Nat) (i : Int) (n : Nat) (j : Int) : Ordering :=
  compare (a * Nat.pow 10 i.toNat * Nat.pow 2 (-j).toNat)
    (n * Nat.pow 2 j.toNat * Nat.pow 10 (-i).toNat)

/-- Whether a decimal lies among the numbers that round to `significand * 2 ^ exponent`. -/
def readsBack (significand : Nat) (exponent : Int) (d : Decimal) : Bool :=
  -- below a power of two the neighbours are half as far apart
  let narrow := significand == 0x10000000000000 && decide (Binary64.minExponent < exponent)
  let low := if narrow then 4 * significand - 1 else 4 * significand - 2
  let high := 4 * significand + 2
  let closed := significand % 2 == 0
  let below := compareScaled d.digits d.power low (exponent - 2)
  let above := compareScaled d.digits d.power high (exponent - 2)
  (below == .gt || (closed && below == .eq)) && (above == .lt || (closed && above == .eq))

/-- The number of decimal digits of a natural number; zero has none. -/
def digitCount (n : Nat) : Nat := if n = 0 then 0 else (Nat.toDigits 10 n).length

/-- The least power of ten above the positive ratio `num / den`. -/
def leadingPower (num den : Nat) : Int :=
  let guess : Int := (digitCount num : Int) - (digitCount den : Int)
  if num * Nat.pow 10 (-guess).toNat < den * Nat.pow 10 guess.toNat then guess else guess + 1

/-- The quotient `num / (den * 10 ^ power)`, as numerator and denominator. -/
def onGrid (num den : Nat) (power : Int) : Nat × Nat :=
  (num * Nat.pow 10 (-power).toNat, den * Nat.pow 10 power.toNat)

/-- The decimal on the grid of multiples of `10 ^ power` that reads back to the value, if one of the
    two neighbours of the value on it does; of two, the nearer, and at a tie the even one. -/
def onGrid? (significand : Nat) (exponent : Int) (power : Int) : Option Decimal :=
  let (num, den) := Binary64.magnitude significand exponent
  let (n, d) := onGrid num den power
  let lower : Decimal := ⟨n / d, power⟩
  let upper : Decimal := ⟨n / d + 1, power⟩
  match readsBack significand exponent lower, readsBack significand exponent upper with
  | true, true => some ⟨roundDiv n d, power⟩
  | true, false => some lower
  | false, true => some upper
  | false, false => none

/-- Drops up to `limit` trailing zeros from the digits. -/
def stripZeros : Nat → Decimal → Decimal
  | 0, d => d
  | limit + 1, d =>
    if d.digits ≠ 0 ∧ d.digits % 10 = 0 then stripZeros limit ⟨d.digits / 10, d.power + 1⟩ else d

end Decimal

/-- The decimal with the fewest digits that reads back to a positive finite value, without trailing
    zeros. Seventeen digits suffice for every value of the format. -/
def shortestDecimal (significand : Nat) (exponent : Int) : Decimal :=
  let (num, den) := Binary64.magnitude significand exponent
  let top := Decimal.leadingPower num den
  let found := (List.range 17).findSome? fun n =>
    Decimal.onGrid? significand exponent (top - (n + 1 : Nat))
  let exact : Decimal := ⟨(num * Nat.pow 10 1100) / den, -1100⟩
  Decimal.stripZeros 1200 (found.getD exact)

/-!
## How a decimal is laid out

A number is written positionally or with an exponent. `layPlain` and `layScientific` place the point
among given digits; `Binary64.display` is the layout of a number that stands for itself: the
shortest digits, positional from `0.0001` up to below `10 ^ 16`.
-/

/-- Writes digits with the point after the first `point` of them, filling with zeros on either side;
    a number without decimals has no point. -/
def layPlain (digits : Text) (point : Int) : Text :=
  if point ≤ 0 then text "0." ++ List.replicate (-point).toNat 0x30 ++ digits
  else if (digits.length : Int) ≤ point then
    digits ++ List.replicate (point.toNat - digits.length) 0x30
  else digits.take point.toNat ++ text "." ++ digits.drop point.toNat

/-- An exponent with its sign and at least two digits. -/
def exponentText (e : Int) : Text :=
  text (if e < 0 then "e-" else "e+") ++ fillLeft 0x30 2 (natText e.natAbs)

/-- Writes digits with the point after the first one, and an exponent. -/
def layScientific (digits : Text) (e : Int) : Text :=
  (if digits.length ≤ 1 then digits else digits.take 1 ++ text "." ++ digits.drop 1)
    ++ exponentText e

/-- The sign of a number, written only if it is negative. -/
def signText (negative : Bool) : Text := if negative then text "-" else []

namespace Binary64

/-- A number as text: the shortest digits that read back to it, with at least one decimal unless
    there is an exponent. -/
def display : Binary64 → Text
  | .nan => text "nan"
  | .infinite negative => signText negative ++ text "inf"
  | .finite negative 0 _ => signText negative ++ text "0.0"
  | .finite negative significand exponent =>
    let d := shortestDecimal significand exponent
    let digits := natText d.digits
    let point := (digits.length : Int) + d.power
    signText negative ++
      (if -4 < point ∧ point ≤ 16 then
        let plain := layPlain digits point
        if (digits.length : Int) ≤ point then plain ++ text ".0" else plain
      else layScientific digits (point - 1))

end Binary64

/-!
## Decimals of a requested precision

A magnitude, given as an exact ratio, written with a number of decimals (`fixedPoint`), with an
exponent (`scientific`), or with a number of significant digits in whichever of the two forms is
shorter (`general`). The exact value is rounded once, a tie to the even last digit. With `point`
the decimal point is written even where no decimals follow, and trailing zeros are kept.
-/

/-- A precision and whether the point is always written. -/
structure DecimalStyle where
  precision : Nat
  point : Bool
deriving DecidableEq, Repr

/-- The `count` leading digits of the ratio `num / den`, rounded, and the power of ten of the first
    of them. -/
def leadingDigits (num den count : Nat) : Text × Int :=
  if num = 0 then (List.replicate count 0x30, 0)
  else
    let top := Decimal.leadingPower num den
    let (n, d) := Decimal.onGrid num den (top - count)
    let rounded := roundDiv n d
    -- rounding up may carry into a new digit
    if rounded = Nat.pow 10 count then (natText (rounded / 10), top)
    else (natText rounded, top - 1)

/-- Appends the point if it is always written. -/
def DecimalStyle.close (style : DecimalStyle) (t : Text) : Text :=
  if style.point then t ++ text "." else t

/-- A magnitude with `precision` decimals. -/
def fixedPoint (style : DecimalStyle) (num den : Nat) : Text :=
  let rounded := natText (roundDiv (num * Nat.pow 10 style.precision) den)
  let digits := fillLeft 0x30 (style.precision + 1) rounded
  if style.precision = 0 then style.close digits
  else layPlain digits ((digits.length : Int) - style.precision)

/-- A magnitude with one digit before the point, `precision` after it, and an exponent. -/
def scientific (style : DecimalStyle) (num den : Nat) : Text :=
  let (digits, e) := leadingDigits num den (style.precision + 1)
  if style.precision = 0 then style.close digits ++ exponentText e else layScientific digits e

/-- Drops the trailing zeros, but not the first digit. -/
def dropTrailingZeros (digits : Text) : Text :=
  digits.take 1 ++ ((digits.drop 1).reverse.dropWhile (· == 0x30)).reverse

/-- A magnitude with `precision` significant digits, at least one, with an exponent if the leading
    digit stands before the fourth decimal or beyond the precision. -/
def general (style : DecimalStyle) (num den : Nat) : Text :=
  let count := max style.precision 1
  let (all, e) := leadingDigits num den count
  let digits := if style.point then all else dropTrailingZeros all
  if e < -4 ∨ (count : Int) ≤ e then
    if digits.length ≤ 1 then style.close digits ++ exponentText e else layScientific digits e
  else
    let plain := layPlain digits (e + 1)
    if (digits.length : Int) ≤ e + 1 then style.close plain else plain

/-!
## Reading a floating-point number

A numeral is a sign, digits with or without a point, and an exponent; or one of the words for
not-a-number and infinity. It is read as the nearest number, a tie to the even significand.
-/

namespace Numeral

/-- Reads an exponent: nothing, or the letter `e` with a signed number after it. -/
def exponent? (t : Text) : Option Int :=
  match t with
  | [] => some 0
  | c :: rest =>
    let (negative, digits) := splitSign rest
    if (c.val = 0x65 ∨ c.val = 0x45) ∧ !digits.isEmpty ∧ digits.all isAsciiDigit then
      some (if negative then -(digitsValue digits : Int) else (digitsValue digits : Int))
    else none

/-- Reads digits with or without a point, and an exponent. -/
def finite? (negative : Bool) (t : Text) : Option Binary64 :=
  let whole := t.takeWhile isAsciiDigit
  let rest := t.dropWhile isAsciiDigit
  let (decimals, rest) :=
    match rest with
    | c :: tail =>
      if c.val = 0x2E then (tail.takeWhile isAsciiDigit, tail.dropWhile isAsciiDigit) else ([], rest)
    | [] => ([], [])
  let digits := whole ++ decimals
  if digits.isEmpty then none
  else (exponent? rest).map fun e =>
    Binary64.ofDecimal negative (digitsValue digits) (e - decimals.length)

end Numeral

/-- The number that a text spells. -/
def Binary64.ofText? (t : Text) : Option Binary64 :=
  let (negative, rest) := splitSign t
  let word := rest.map lowerAscii
  if word = text "nan" then some .nan
  else if word = text "inf" ∨ word = text "infinity" then some (.infinite negative)
  else Numeral.finite? negative rest

end UnitText
