import UnitText.Proofs.Stepwise

/-!
# Positions between two bounds

A bound of a cut counts from the front of a list, or from its end if it is negative, and may lie
outside the list. `between` keeps the entries whose positions lie between two bounds as they are given;
`cut` first moves each bound to the nearest end. The two are the same.

A text is cut at positions of its units, whichever way it takes: the units of what is left are the
ones that stand between the bounds, and a number that is no unit never comes up on the way.
-/

namespace UnitText

/-- The position that a bound means in a list of `n` entries. It may lie outside the list. -/
def boundPosition (n : Nat) (i : Int) : Int := if i < 0 then n + i else i

/-- Whether a position lies between two bounds; one that is missing bounds nothing. -/
def isBetween (n : Nat) (start stop : Option Int) (p : Nat) : Bool :=
  (start.all fun i => decide (boundPosition n i ≤ p)) &&
    stop.all fun i => decide ((p : Int) < boundPosition n i)

/-- The entries of a list whose positions lie between two bounds, in their order. -/
def between {α : Type} (l : List α) (start stop : Option Int) : List α :=
  (l.zipIdx.filter fun e => isBetween l.length start stop e.2).map Prod.fst

section Bounds

variable {n p : Nat}

/-- To a position inside the list, moving a bound to the nearest end makes no difference. -/
theorem clampPosition_le_iff (inside : p < n) (i : Int) :
    clampPosition n i ≤ p ↔ boundPosition n i ≤ p := by
  unfold clampPosition boundPosition
  split <;> omega

theorem lt_clampPosition_iff (inside : p < n) (i : Int) :
    p < clampPosition n i ↔ (p : Int) < boundPosition n i := by
  unfold clampPosition boundPosition
  split <;> omega

theorem isBetween_iff (inside : p < n) (start stop : Option Int) :
    isBetween n start stop p = true ↔
      (start.map (clampPosition n)).getD 0 ≤ p ∧ p < (stop.map (clampPosition n)).getD n := by
  rw [isBetween, Bool.and_eq_true]
  apply and_congr
  · cases start with
    | none => simp
    | some i => simpa using (clampPosition_le_iff inside i).symm
  · cases stop with
    | none => simpa using inside
    | some i => simpa using (lt_clampPosition_iff inside i).symm

end Bounds

section Lists

variable {α : Type}

/-- Numbering the entries from `k` on, the ones numbered from `first` up to `last` are what dropping
    and taking leave. -/
theorem filter_zipIdx (l : List α) (k first last : Nat) :
    ((l.zipIdx k).filter fun e => decide (first ≤ e.2 ∧ e.2 < last)).map Prod.fst =
      (l.take (last - k)).drop (first - k) := by
  induction l generalizing k with
  | nil => simp
  | cons a l ih =>
    rw [List.zipIdx_cons, List.filter_cons]
    by_cases before : k < last
    · have taken : last - k = (last - (k + 1)) + 1 := by omega
      rw [taken, List.take_succ_cons]
      by_cases begun : first ≤ k
      · have undropped : first - k = 0 := by omega
        have later : first - (k + 1) = 0 := by omega
        rw [if_pos (by simp [begun, before]), List.map_cons, ih, undropped, later]
        rfl
      · have dropped : first - k = (first - (k + 1)) + 1 := by omega
        rw [if_neg (by simp [begun]), ih, dropped, List.drop_succ_cons]
    · have none : last - k = 0 := by omega
      have later : last - (k + 1) = 0 := by omega
      rw [if_neg (by simp [before]), ih, none, later]
      simp

theorem cut_eq_between (l : List α) (start stop : Option Int) :
    cut l start stop = between l start stop := by
  have kept : ∀ e ∈ l.zipIdx, isBetween l.length start stop e.2 =
      decide ((start.map (clampPosition l.length)).getD 0 ≤ e.2 ∧
        e.2 < (stop.map (clampPosition l.length)).getD l.length) := by
    intro e member
    have inside : e.2 < l.length := by simpa using List.snd_lt_of_mem_zipIdx member
    rw [Bool.eq_iff_iff, isBetween_iff inside, decide_eq_true_eq]
  rw [between, List.filter_congr kept, filter_zipIdx, cut]
  rfl

example : between [1, 2, 3, 4] (some (-3)) (some 9) = [2, 3, 4] ∧
    between [1, 2, 3, 4] (some 3) (some 1) = [] := by decide

end Lists

namespace Text

/-- The units of a cut text are its units between the bounds, and no step of cutting ends in a fault. So
    it is on either way that cutting takes: for a text without supplementary code points through the
    code points, and for any text through numbers, which are all units and are read anew, so that
    halves that have come to stand side by side are paired. Cut in two at one position, a text has
    the units of its two parts. -/
theorem units_sliceUnits_between (t : Text) (start stop : Option Int) :
    (t.sliceUnits start stop).units = between t.units start stop ∧
    Stepwise.slice t start stop = .ok (t.sliceUnits start stop) ∧
    (t.hasSupplementary = false →
      units (cut t start stop) = between t.units start stop) ∧
    (∃ r, ofUnitValues (cut t.unitValues start stop) = .ok r ∧
      r.units = between t.units start stop) ∧
    ∀ k : Nat, (t.sliceUnits (some 0) (some k)).units ++ (t.sliceUnits (some k) none).units =
      t.units := by
  have whole : (t.sliceUnits start stop).units = between t.units start stop := by
    rw [units_sliceUnits, cut_eq_between]
  refine ⟨whole, Stepwise.slice_eq t start stop, ?_, ?_, ?_⟩
  · intro flat
    have plain : t.sliceUnits start stop = cut t start stop := by simp [sliceUnits, flat]
    rwa [plain] at whole
  · refine ⟨ofUnits (cut t.units start stop), ?_, ?_⟩
    · rw [unitValues, cut_map, ofUnitValues_map_val]
    · rw [units_ofUnits, cut_eq_between]
  · intro k
    show (t.takeUnits k).units ++ (t.dropUnits k).units = t.units
    rw [units_takeUnits, units_dropUnits, List.take_append_drop]

/-- Two halves that stand apart, cut from behind the first one to beyond the end. -/
theorem units_sliceUnits_between_halves :
    hasSupplementary [0xD83D, 0xDE00, 0x41] = false ∧
    units (cut [0xD83D, 0xDE00, 0x41] (some (-2)) (some 7)) =
      between (units [0xD83D, 0xDE00, 0x41]) (some (-2)) (some 7) := by
  have flat : hasSupplementary [0xD83D, 0xDE00, 0x41] = false := by decide
  exact ⟨flat, (units_sliceUnits_between _ _ _).2.2.1 flat⟩

end Text

end UnitText
