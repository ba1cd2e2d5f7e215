import Mathlib.Algebra.Order.BigOperators.Group.List
import Mathlib.Algebra.Order.Ring.Nat
import UnitText.Proofs.CodeUnits
import UnitText.Request

/-!
# The bytes of a text

The estimate of a text's bytes is a sum over its code units, each of which counts on its own. The bytes
that there are in the UTF-8 form of the text belong to its code points. The two differ by the
supplementary code points alone: the form of one has four bytes, and its two surrogates count three
each. So the estimate is never below the size, and two above it for every supplementary code point.
-/

namespace UnitText

/-! ## The form in bytes -/

namespace CodePoint

/-- The UTF-8 form of a code point. A surrogate has the form that goes with its number. -/
def utf8 (c : CodePoint) : List UInt8 :=
  if c.val ≤ 0x7F then [.ofNat c.val]
  else if c.val ≤ 0x7FF then [.ofNat (0xC0 + c.val / 0x40), .ofNat (0x80 + c.val % 0x40)]
  else if c.val ≤ 0xFFFF then
    [.ofNat (0xE0 + c.val / 0x1000), .ofNat (0x80 + c.val / 0x40 % 0x40),
      .ofNat (0x80 + c.val % 0x40)]
  else
    [.ofNat (0xF0 + c.val / 0x40000), .ofNat (0x80 + c.val / 0x1000 % 0x40),
      .ofNat (0x80 + c.val / 0x40 % 0x40), .ofNat (0x80 + c.val % 0x40)]

theorem length_utf8 (c : CodePoint) :
    c.utf8.length =
      if c.val ≤ 0x7F then 1 else if c.val ≤ 0x7FF then 2 else if c.val ≤ 0xFFFF then 3 else 4 := by
  simp only [utf8, apply_ite List.length]
  rfl

/-- The form of a character is the one that it has in a string. -/
theorem utf8_ofChar (ch : Char) : (ofChar ch).utf8 = String.utf8EncodeChar ch := by
  have bound := (ofChar ch).isLt
  have number : ch.val.toNat = (ofChar ch).val := rfl
  unfold utf8 String.utf8EncodeChar
  simp only [number]
  generalize (ofChar ch).val = n at bound ⊢
  split
  · rfl
  · split
    · simp only [List.cons.injEq, and_true]
      exact ⟨congrArg _ (by omega), congrArg _ (by omega)⟩
    · split
      · simp only [List.cons.injEq, and_true]
        exact ⟨congrArg _ (by omega), congrArg _ (by omega), congrArg _ (by omega)⟩
      · simp only [List.cons.injEq, and_true]
        exact ⟨congrArg _ (by omega), congrArg _ (by omega), congrArg _ (by omega),
          congrArg _ (by omega)⟩

end CodePoint

namespace Text

/-- The UTF-8 form of a text. -/
def utf8 (t : Text) : List UInt8 := t.flatMap CodePoint.utf8

@[simp] theorem utf8_cons (c : CodePoint) (t : Text) : utf8 (c :: t) = c.utf8 ++ utf8 t := rfl

/-- A text that a string holds has the form of the string. -/
theorem utf8_text (s : String) : (utf8 (text s)).toByteArray = s.toByteArray := by
  have written : utf8 (text s) = s.toList.flatMap String.utf8EncodeChar := by
    rw [utf8, text, List.flatMap_map]
    exact List.flatMap_congr fun ch _ => CodePoint.utf8_ofChar ch
  rw [written, ← String.utf8Encode_toList]
  rfl

end Text

/-! ## The count of one unit and of one code point -/

/-- A unit counts at least one byte and at most three. -/
theorem CodeUnit.byteEstimate_bounds (u : CodeUnit) : 1 ≤ u.byteEstimate ∧ u.byteEstimate ≤ 3 := by
  unfold byteEstimate
  split
  · omega
  · split <;> omega

/-- The units of a code point count as many bytes as there are in its form, but for the two that the
    surrogates of a supplementary one count too many. -/
theorem CodePoint.sum_byteEstimate_units (c : CodePoint) :
    (c.units.map CodeUnit.byteEstimate).sum =
      c.utf8.length + if c.isSupplementary then 2 else 0 := by
  rw [length_utf8]
  by_cases flat : c.val < 0x10000
  · have plain : c.isSupplementary = false := by simpa [isSupplementary] using flat
    have one : (c.units.map CodeUnit.byteEstimate).sum =
        if 0x7FF < c.val then 3 else if 0x7F < c.val then 2 else 1 := by
      rw [units_of_lt flat]
      rfl
    rw [one, plain]
    grind
  · -- Either surrogate is beyond the numbers that take two bytes, so the two count six for four.
    obtain ⟨high, low, isHigh, isLow, written, _⟩ := exists_pair flat
    simp only [CodeUnit.isHigh, CodeUnit.isLow, decide_eq_true_eq] at isHigh isLow
    have supplementary : c.isSupplementary = true := by simpa [isSupplementary] using flat
    have three (u : CodeUnit) (beyond : 0x7FF < u.val) : u.byteEstimate = 3 := if_pos beyond
    rw [written, List.map_cons, List.map_singleton, List.sum_cons, List.sum_singleton,
      three high (by omega), three low (by omega), supplementary, if_neg (by omega),
      if_neg (by omega), if_neg (by omega)]
    rfl

/-! ## The count of a text -/

/-- A step of the count: a unit is added to what has been counted. -/
def CodeUnit.addTo (count : Nat) (u : CodeUnit) : Nat := count + u.byteEstimate

namespace Text

theorem byteEstimate_eq_sum (t : Text) :
    t.byteEstimate = (t.units.map CodeUnit.byteEstimate).sum := by
  rw [byteEstimate, List.sum_eq_foldr, List.foldr_map]

/-- From a running count the loop goes on by the sum over the units that are left. -/
theorem foldl_addTo (us : List CodeUnit) (count : Nat) :
    us.foldl CodeUnit.addTo count = count + (us.map CodeUnit.byteEstimate).sum := by
  induction us generalizing count with
  | nil => rfl
  | cons u us ih =>
    rw [List.foldl_cons, ih, List.map_cons, List.sum_cons, CodeUnit.addTo, Nat.add_assoc]

theorem byteEstimate_append (s t : Text) :
    (s ++ t).byteEstimate = s.byteEstimate + t.byteEstimate := by
  simp only [byteEstimate_eq_sum, units_append, List.map_append, List.sum_append]

/-- What is counted beyond the size are two bytes for each supplementary code point. -/
theorem byteEstimate_eq (t : Text) :
    t.byteEstimate = t.utf8.length + 2 * t.countP CodePoint.isSupplementary := by
  induction t with
  | nil => rfl
  | cons c t ih =>
    have first := c.sum_byteEstimate_units
    rw [byteEstimate_eq_sum] at ih
    rw [byteEstimate_eq_sum, units_cons, List.map_append, List.sum_append, first, ih, utf8_cons,
      List.length_append, List.countP_cons]
    split <;> omega

theorem unitLength_le_byteEstimate (t : Text) : t.unitLength ≤ t.byteEstimate := by
  have lower := List.card_nsmul_le_sum (t.units.map CodeUnit.byteEstimate) 1 <| by
    rw [List.forall_mem_map]
    exact fun u _ => u.byteEstimate_bounds.1
  rwa [List.length_map, length_units, Nat.nsmul_eq_mul, Nat.mul_one, ← byteEstimate_eq_sum] at lower

theorem byteEstimate_le_three_mul (t : Text) : t.byteEstimate ≤ 3 * t.unitLength := by
  have upper := List.sum_le_card_nsmul (t.units.map CodeUnit.byteEstimate) 3 <| by
    rw [List.forall_mem_map]
    exact fun u _ => u.byteEstimate_bounds.2
  rwa [List.length_map, length_units, Nat.nsmul_eq_mul, Nat.mul_comm, ← byteEstimate_eq_sum] at upper

/-- The estimate is the size exactly for the texts without supplementary code points. -/
theorem byteEstimate_eq_length_utf8_iff (t : Text) :
    t.byteEstimate = t.utf8.length ↔ t.hasSupplementary = false := by
  have none : t.countP CodePoint.isSupplementary = 0 ↔ t.hasSupplementary = false := by
    simp [hasSupplementary, List.countP_eq_zero]
  rw [byteEstimate_eq, ← none]
  omega

end Text

namespace Request

theorem run_byteEstimate (t : Text) :
    (byteEstimate (some t)).run = .ok (.number t.byteEstimate) := rfl

/-- The answer to a request for the bytes of a text is what the loop over its units counts. It is the
    length of the UTF-8 form, of which a code point takes from one byte to four, and two more for each
    supplementary code point; so it is never below that length, and the same only if there are none. It
    lies between the number of units and three times that number, and the answers for two texts add up
    to the one for the two together. -/
theorem byteEstimate_covers_utf8 :
    (∀ t : Text, ∃ n : Nat, (byteEstimate (some t)).run = .ok (.number n) ∧
      n = t.units.foldl CodeUnit.addTo 0 ∧
      n = t.utf8.length + 2 * t.countP CodePoint.isSupplementary ∧
      t.utf8.length ≤ n ∧ (n = t.utf8.length ↔ t.hasSupplementary = false) ∧
      t.unitLength ≤ n ∧ n ≤ 3 * t.unitLength) ∧
    (∀ s t : Text, ∃ m n : Nat, (byteEstimate (some s)).run = .ok (.number m) ∧
      (byteEstimate (some t)).run = .ok (.number n) ∧
      (byteEstimate (some (s ++ t))).run = .ok (.number (m + n : Nat))) ∧
    (∀ c : CodePoint, c.utf8.length =
      if c.val ≤ 0x7F then 1 else if c.val ≤ 0x7FF then 2 else if c.val ≤ 0xFFFF then 3 else 4) ∧
    ∀ s : String, (Text.utf8 (text s)).toByteArray = s.toByteArray := by
  refine ⟨?_, ?_, CodePoint.length_utf8, Text.utf8_text⟩
  · intro t
    have exact := t.byteEstimate_eq
    refine ⟨t.byteEstimate, run_byteEstimate t, ?_, exact, by omega,
      t.byteEstimate_eq_length_utf8_iff, t.unitLength_le_byteEstimate,
      t.byteEstimate_le_three_mul⟩
    rw [Text.foldl_addTo, Nat.zero_add, Text.byteEstimate_eq_sum]
  · intro s t
    refine ⟨_, _, run_byteEstimate s, run_byteEstimate t, ?_⟩
    rw [run_byteEstimate, Text.byteEstimate_append]

/-- A surrogate of its own is counted as it is written; a pair that is one code point is not. -/
example : Text.byteEstimate [0xD83D, 0x1F600] = 9 ∧ (Text.utf8 [0xD83D, 0x1F600]).length = 7 := by
  decide

end Request

end UnitText
