import UnitText.Proofs.Affixes

/-!
# An affix at either end

A prefix and a suffix that together are no longer than the text do not overlap. Whether one of them is
there is then not changed by the removal of the other one, though what it is looked for in is shorter
and may be spelled with other code points. So the two can be removed in either order, and what is left
are the units between them.
-/

namespace UnitText

namespace Side

/-- The other end. -/
def opposite : Side → Side
  | .left => .right
  | .right => .left

/-! ## Two ends of a list -/

section Lists

variable {α β : Type}

theorem map_beside (side : Side) (f : α → β) (n : Nat) (l : List α) :
    (side.beside n l).map f = side.beside n (l.map f) := by
  cases side with
  | left => exact List.map_drop
  | right => simp [beside, List.map_take]

/-- Taking away at one end leaves the other end as it is, as far as it does not reach there. -/
theorem isAt_beside_opposite_iff (side : Side) {p l : List α} {n : Nat}
    (fits : p.length + n ≤ l.length) : side.IsAt p (side.opposite.beside n l) ↔ side.IsAt p l := by
  cases side with
  | left =>
    constructor
    · intro there
      exact there.trans (List.take_prefix _ l)
    · intro there
      exact List.prefix_take_iff.mpr ⟨there, by omega⟩
  | right =>
    constructor
    · intro there
      exact there.trans (List.drop_suffix n l)
    · intro there
      apply List.suffix_of_suffix_length_le there (List.drop_suffix n l)
      rw [List.length_drop]
      omega

theorem drop_take_comm (m n : Nat) (l : List α) :
    (l.take (l.length - n)).drop m = (l.drop m).take (l.length - m - n) := by
  rw [List.drop_take]
  congr 1
  omega

theorem beside_opposite_comm (side : Side) (m n : Nat) (l : List α) :
    side.beside m (side.opposite.beside n l) = side.opposite.beside n (side.beside m l) := by
  cases side with
  | left => simpa [beside, opposite] using drop_take_comm m n l
  | right => simpa [beside, opposite] using (drop_take_comm n m l).symm

end Lists

/-! ## Two affixes of a text -/

section Affixes

variable (side : Side) {t p s : Text} (m m' : Comparison)

/-- The number of units that the removal of an affix takes away. -/
def takenBy (t affix : Text) (m : Comparison) : Nat :=
  if side.hasAffix t affix m then affix.unitLength else 0

theorem units_removeAffix_eq_beside (t affix : Text) :
    (side.removeAffix false t (some affix) m).units =
      side.beside (side.takenBy t affix m) t.units := by
  rw [units_removeAffix, takenBy]
  split
  · rfl
  · cases side <;> simp [beside]

variable {side m}

theorem takenBy_le (t affix : Text) : side.takenBy t affix m ≤ affix.unitLength := by
  unfold takenBy
  split
  · exact Nat.le_refl _
  · exact Nat.zero_le _

variable (side m)

/-- An affix is found after the removal of one at the other end exactly if it was there before. -/
theorem hasAffix_removeAffix_opposite (fits : p.unitLength + s.unitLength ≤ t.unitLength) :
    side.hasAffix (side.opposite.removeAffix false t (some s) m') p m = side.hasAffix t p m := by
  have taken : side.opposite.takenBy t s m' ≤ s.unitLength := takenBy_le t s
  rw [Bool.eq_iff_iff, hasAffix_iff, hasAffix_iff, units_removeAffix_eq_beside, Comparator.folded,
    Comparator.folded, map_beside]
  apply isAt_beside_opposite_iff
  rw [List.length_map, List.length_map, Text.length_units, Text.length_units]
  omega

/-- What is left when an affix at the other end is removed first. -/
theorem units_removeAffix_opposite (fits : p.unitLength + s.unitLength ≤ t.unitLength) :
    (side.removeAffix false (side.opposite.removeAffix false t (some s) m') (some p) m).units =
      side.beside (side.takenBy t p m)
        (side.opposite.beside (side.opposite.takenBy t s m') t.units) := by
  rw [units_removeAffix_eq_beside, takenBy, side.hasAffix_removeAffix_opposite m m' fits,
    units_removeAffix_eq_beside]
  rfl

end Affixes

end Side

namespace Request

/-- The request that removes an affix from a text. -/
def removing (side : Side) (affix : Text) (m : Comparison) (t : Text) : Request :=
  .removeAffix side false (some t) (some affix) m

/-- A prefix and a suffix that together are no longer than a text can be removed in either order, each
    under its own comparison. The units that are left are those of the text without the affixes that it
    has. -/
theorem removing_comm {t p s : Text} (m m' : Comparison)
    (fits : p.unitLength + s.unitLength ≤ t.unitLength) :
    ∃ front back rest rest' : Text,
      pipeline t [removing .right s m', removing .left p m] =
        [.ok (.text front), .ok (.text rest)] ∧
      pipeline t [removing .left p m, removing .right s m'] =
        [.ok (.text back), .ok (.text rest')] ∧
      rest.units = rest'.units ∧
      rest.units = Side.left.beside (Side.left.takenBy t p m)
        (Side.right.beside (Side.right.takenBy t s m') t.units) := by
  have fits' : s.unitLength + p.unitLength ≤ t.unitLength := by omega
  have rightFirst := Side.left.units_removeAffix_opposite m m' fits
  have leftFirst := Side.right.units_removeAffix_opposite m' m fits'
  refine ⟨_, _, _, _, rfl, rfl, ?_, rightFirst⟩
  apply rightFirst.trans
  rw [Side.beside_opposite_comm]
  exact leftFirst.symm

/-- The two affixes are the halves of a surrogate pair, which is all of the text. What is left of it by
    the first removal is as long as the second affix. -/
theorem removing_comm_halves :
    Text.unitLength [0xD83D] + Text.unitLength [0xDE00] ≤ Text.unitLength [0x1F600] ∧
      ∃ front back rest rest' : Text,
        pipeline [0x1F600] [removing .right [0xDE00] .exactIgnoreCase,
          removing .left [0xD83D] .exact] = [.ok (.text front), .ok (.text rest)] ∧
        pipeline [0x1F600] [removing .left [0xD83D] .exact,
          removing .right [0xDE00] .exactIgnoreCase] = [.ok (.text back), .ok (.text rest')] ∧
        rest.units = rest'.units ∧ rest.units = [] := by
  have fits : Text.unitLength [0xD83D] + Text.unitLength [0xDE00] ≤ Text.unitLength [0x1F600] := by
    decide
  obtain ⟨front, back, rest, rest', rightFirst, leftFirst, same, between⟩ :=
    removing_comm .exact .exactIgnoreCase fits
  exact ⟨fits, front, back, rest, rest', rightFirst, leftFirst, same, between⟩

/-- Affixes that overlap do not commute. -/
example :
    pipeline [0x61, 0x61, 0x62]
        [removing .right [0x61, 0x62] .exact, removing .left [0x61, 0x61] .exact] =
      [.ok (.text [0x61]), .ok (.text [0x61])] ∧
    pipeline [0x61, 0x61, 0x62]
        [removing .left [0x61, 0x61] .exact, removing .right [0x61, 0x62] .exact] =
      [.ok (.text [0x62]), .ok (.text [0x62])] := ⟨rfl, rfl⟩

end Request

end UnitText
