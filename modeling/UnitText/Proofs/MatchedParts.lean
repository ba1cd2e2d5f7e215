import UnitText.Proofs.Numerals
import UnitText.Proofs.Outcomes
import UnitText.Proofs.Positions

/-!
# Matched parts

To match a part of a text with a part of another one is to cut both parts out and to compare them as
texts, although no text is cut and the units are compared where they stand. A part that is not wholly
there matches nothing, not even if it is to have no units.

Of the arguments that cannot be used, the first one in the order value, comparand, offset, offset in
the comparand, length and comparison is rejected. A number with too many digits cannot be written into
the wording of a rejection, and then the error is another one.
-/

namespace UnitText

section Rejections

open Request

variable {α : Type}

end Rejections

section Parts

variable (value : Option Text) (offset : Option Int) (comparand : Option Text)
  (comparandOffset length : Option Int) (choice : Comparison.Choice)

end Parts

/-! ## Answers -/

/-- What stands between two bounds that are counted from the front. -/
theorem cut_range {α : Type} (l : List α) (i n : Nat) :
    cut l (some i) (some (i + n)) = (l.drop i).take n := by
  have first : clampPosition l.length i = min i l.length := by
    unfold clampPosition
    split <;> omega
  have last : clampPosition l.length (i + n) = min (i + n) l.length := by
    unfold clampPosition
    split <;> omega
  simp only [cut, Option.map_some, Option.getD_some, first, last]
  rw [← List.take_eq_take_min, List.drop_take, ← List.drop_eq_drop_min]
  by_cases inside : i ≤ l.length
  · rw [Nat.min_eq_left inside, Nat.add_sub_cancel_left]
  · rw [List.drop_eq_nil_of_le (by omega), List.take_nil, List.take_nil]

namespace Request

variable {value comparand : Option Text} {offset comparandOffset length : Option Int}
  {choice : Comparison.Choice}

variable (value offset comparand comparandOffset length choice)

end Request

end UnitText
