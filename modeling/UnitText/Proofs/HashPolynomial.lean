import Mathlib.Algebra.BigOperators.Fin
import Mathlib.Data.Int.ModEq
import Mathlib.Tactic.Ring
import UnitText.Proofs.Hashing

/-!
# The hash as a polynomial

A hash is computed within 32 bits, one unit after the other. What comes out is the polynomial in 31 with
the units as coefficients, the last one without a power, as far as it can be told modulo `2 ^ 32`: of
all the integers that are congruent to the exact sum there is one in the signed range, and that is the
hash. The exponents count units, so the hash of a text followed by another one comes from the hashes of
the two and the number of units of the second.
-/

namespace UnitText

/-! ## The exact sum -/

section Sums

variable {α : Type} (weight : α → Nat)

/-- The exact sum of the weights of the entries of a list, each times the power of the base that belongs
    to its place. -/
def weightedSum (l : List α) : Nat :=
  ∑ i : Fin l.length, weight l[i] * hashBase ^ (l.length - 1 - i)

theorem weightedSum_cons (a : α) (l : List α) :
    weightedSum weight (a :: l) = weight a * hashBase ^ l.length + weightedSum weight l := by
  unfold weightedSum
  refine (Fin.sum_univ_succ _).trans ?_
  congr 1
  apply Finset.sum_congr rfl
  intro i _
  have place : (a :: l).length - 1 - i.succ = l.length - 1 - i := by
    simp only [List.length_cons, Fin.val_succ]
    omega
  rw [place]
  rfl

theorem weightedSum_append (l l' : List α) :
    weightedSum weight (l ++ l') =
      weightedSum weight l * hashBase ^ l'.length + weightedSum weight l' := by
  induction l with
  | nil => simp [weightedSum]
  | cons a l ih =>
    rw [List.cons_append, weightedSum_cons, weightedSum_cons, ih, List.length_append, pow_add]
    ring

/-! ## The loop -/

/-- A step of the loop. -/
def hashStep (h n : Nat) : Nat := (hashBase * h + n) % hashModulus

/-- From a running value the loop goes on to what the polynomial makes of it, up to the modulus. -/
theorem foldl_hashStep_modEq (l : List α) (h : Nat) :
    (l.map weight).foldl hashStep h ≡ h * hashBase ^ l.length + weightedSum weight l
      [MOD hashModulus] := by
  induction l generalizing h with
  | nil => simp [weightedSum, Nat.ModEq.refl]
  | cons a l ih =>
    have step : hashStep h (weight a) ≡ hashBase * h + weight a [MOD hashModulus] :=
      Nat.mod_modEq _ _
    calc ((a :: l).map weight).foldl hashStep h
        ≡ hashStep h (weight a) * hashBase ^ l.length + weightedSum weight l [MOD hashModulus] :=
          ih _
      _ ≡ (hashBase * h + weight a) * hashBase ^ l.length + weightedSum weight l
          [MOD hashModulus] := (step.mul_right _).add_right _
      _ = h * hashBase ^ (a :: l).length + weightedSum weight (a :: l) := by
        rw [weightedSum_cons, List.length_cons, pow_succ]
        ring

theorem hashNumbers_map_modEq (l : List α) :
    hashNumbers (l.map weight) ≡ weightedSum weight l [ZMOD hashModulus] := by
  have looped := foldl_hashStep_modEq weight l 0
  rw [Nat.zero_mul, Nat.zero_add] at looped
  have signed : hashNumbers (l.map weight) ≡ ((l.map weight).foldl hashStep 0 : Nat)
      [ZMOD hashModulus] := Int.bmod_emod
  exact signed.trans (Int.natCast_modEq_iff.mpr looped)

/-! ## The signed range -/

/-- Whether an integer fits into 32 bits of which one is the sign. -/
def FitsSigned (h : Int) : Prop := -(2 ^ 31) ≤ h ∧ h < 2 ^ 31

theorem fitsSigned_hashNumbers (ns : List Nat) : FitsSigned (hashNumbers ns) := by
  constructor
  · exact Int.le_bmod (by decide)
  · exact Int.bmod_lt (by decide)

/-- Two integers in the signed range are the same if they are congruent. -/
theorem FitsSigned.eq_of_modEq {h h' : Int} (fits : FitsSigned h) (fits' : FitsSigned h')
    (same : h ≡ h' [ZMOD hashModulus]) : h = h' := by
  unfold FitsSigned at fits fits'
  unfold Int.ModEq hashModulus at same
  omega

theorem hashNumbers_map_eq_iff (l : List α) (h : Int) :
    hashNumbers (l.map weight) = h ↔
      FitsSigned h ∧ h ≡ weightedSum weight l [ZMOD hashModulus] := by
  have congruent := hashNumbers_map_modEq weight l
  have fits := fitsSigned_hashNumbers (l.map weight)
  constructor
  · rintro rfl
    exact ⟨fits, congruent⟩
  · rintro ⟨fits', congruent'⟩
    exact fits.eq_of_modEq fits' (congruent.trans congruent'.symm)

theorem hashNumbers_map_append_modEq (l l' : List α) :
    hashNumbers ((l ++ l').map weight) ≡
      hashNumbers (l.map weight) * hashBase ^ l'.length + hashNumbers (l'.map weight)
      [ZMOD hashModulus] := by
  have parts := ((hashNumbers_map_modEq weight l).mul_right (hashBase ^ l'.length)).add
    (hashNumbers_map_modEq weight l')
  have whole := hashNumbers_map_modEq weight (l ++ l')
  rw [weightedSum_append, Nat.cast_add, Nat.cast_mul, Nat.cast_pow] at whole
  exact whole.trans parts.symm

end Sums

/-! ## The two hashes of a text -/

/-- The number that a unit counts as in the hash of a comparison. -/
def Comparison.weight (m : Comparison) (u : CodeUnit) : Nat :=
  match m with
  | .exact => u.val
  | .exactIgnoreCase => simpleLower u.val

theorem Text.hashUnder_eq_hashNumbers (m : Comparison) (t : Text) :
    t.hashUnder m = hashNumbers (t.units.map m.weight) := by
  cases m <;> rfl

namespace Request

/-- The request for the hash that belongs to a comparison. -/
def hashBy (m : Comparison) (value : Option Text) : Request :=
  match m with
  | .exact => .hash value
  | .exactIgnoreCase => .hashIgnoreCase value

theorem run_hashBy (m : Comparison) (t : Text) :
    (hashBy m (some t)).run = .ok (.number (hashNumbers (t.units.map m.weight))) := by
  rw [← Text.hashUnder_eq_hashNumbers]
  cases m <;> rfl

/-- The answer to a request for a hash is the one integer in the signed range of 32 bits that is congruent
    modulo `2 ^ 32` to the exact sum of the units, in lower case if case is ignored, each times the power
    of 31 that belongs to its place. The hash of a text followed by another one is made of the hashes of
    the two. -/
theorem run_hashBy_eq_ok_iff (m : Comparison) :
    (∀ (t : Text) (h : Int), (hashBy m (some t)).run = .ok (.number h) ↔
      -(2 ^ 31) ≤ h ∧ h < 2 ^ 31 ∧
        h ≡ ∑ i : Fin t.units.length, (m.weight t.units[i] : Int) * 31 ^ (t.units.length - 1 - i)
          [ZMOD 2 ^ 32]) ∧
    ∀ s t : Text, ∃ h h' whole : Int,
      (hashBy m (some s)).run = .ok (.number h) ∧
      (hashBy m (some t)).run = .ok (.number h') ∧
      (hashBy m (some (s ++ t))).run = .ok (.number whole) ∧
      whole ≡ h * 31 ^ t.unitLength + h' [ZMOD 2 ^ 32] := by
  constructor
  · intro t h
    have exact : ((weightedSum m.weight t.units : Nat) : Int) =
        ∑ i : Fin t.units.length, (m.weight t.units[i] : Int) * 31 ^ (t.units.length - 1 - i) := by
      simp [weightedSum, hashBase]
    rw [run_hashBy, Except.ok.injEq, Answer.number.injEq, hashNumbers_map_eq_iff, exact, FitsSigned,
      and_assoc]
    rfl
  · intro s t
    refine ⟨_, _, _, run_hashBy m s, run_hashBy m t, run_hashBy m (s ++ t), ?_⟩
    rw [Text.units_append, ← Text.length_units]
    exact hashNumbers_map_append_modEq m.weight s.units t.units

/-- A sum that is congruent to `2 ^ 31`, which is one too many for the signed range. -/
example : (text "polygenelubricants").hash = -(2 ^ 31) := by decide

end Request

end UnitText
