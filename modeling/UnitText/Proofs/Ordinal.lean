import UnitText.Comparison

/-!
# Ordinal order and equality

A comparator looks at two sequences of units only through their folded forms (`Comparator.folded`):
the sign of its answer is that of the lexicographic order of these, whatever the folding is. The
order laws follow from this. A named comparison's own test for equality, with its two shortcuts,
says the same as the comparator's.
-/

namespace UnitText

namespace Comparator

variable (c : Comparator)

/-- The form under which a sequence of units is compared. -/
def folded (us : List CodeUnit) : List Int := us.map fun u => c.fold u.val

@[simp] theorem folded_nil : c.folded [] = [] := rfl

@[simp] theorem folded_cons (u : CodeUnit) (us : List CodeUnit) :
    c.folded (u :: us) = c.fold u.val :: c.folded us := rfl

@[simp] theorem length_folded (us : List CodeUnit) : (c.folded us).length = us.length := by
  rw [folded, List.length_map]

/-- Units that are the same need no folding, but folding would not tell them apart either. -/
theorem unitsEqual_iff (a b : Nat) : c.unitsEqual a b = true ↔ c.fold a = c.fold b := by
  simp only [unitsEqual, Bool.or_eq_true, beq_iff_eq]
  constructor
  · rintro (rfl | same)
    · rfl
    · exact same
  · exact Or.inr

/-- One step of the comparison, seen through the folding alone. -/
theorem compareUnits_cons (a b : CodeUnit) (as bs : List CodeUnit) :
    c.compareUnits (a :: as) (b :: bs) =
      if c.fold a.val = c.fold b.val then c.compareUnits as bs
      else c.fold a.val - c.fold b.val := by
  simp only [compareUnits, unitsEqual_iff]

theorem compareUnits_nil_left (bs : List CodeUnit) :
    c.compareUnits [] bs = -(bs.length : Int) := by
  simp [compareUnits]

theorem compareUnits_nil_right (as : List CodeUnit) :
    c.compareUnits as [] = (as.length : Int) := by
  cases as <;> simp [compareUnits]

theorem compareUnits_swap (as bs : List CodeUnit) :
    c.compareUnits as bs = -c.compareUnits bs as := by
  induction as generalizing bs with
  | nil => rw [compareUnits_nil_left, compareUnits_nil_right]
  | cons a as ih =>
    cases bs with
    | nil => rw [compareUnits_nil_left, compareUnits_nil_right, Int.neg_neg]
    | cons b bs =>
      rw [compareUnits_cons, compareUnits_cons]
      by_cases same : c.fold a.val = c.fold b.val
      · rw [if_pos same, if_pos same.symm, ih]
      · rw [if_neg same, if_neg (Ne.symm same)]
        omega

/-- The answer is negative exactly when the first folded form is lexicographically smaller. -/
theorem compareUnits_neg_iff (as bs : List CodeUnit) :
    c.compareUnits as bs < 0 ↔ c.folded as < c.folded bs := by
  induction as generalizing bs with
  | nil =>
    cases bs with
    | nil => simp [compareUnits_nil_left]
    | cons b bs =>
      rw [compareUnits_nil_left, folded_nil, folded_cons, List.length_cons]
      simp only [List.nil_lt_cons, iff_true]
      omega
  | cons a as ih =>
    cases bs with
    | nil =>
      rw [compareUnits_nil_right, folded_nil]
      simp only [List.not_lt_nil, iff_false]
      omega
    | cons b bs =>
      rw [compareUnits_cons, folded_cons, folded_cons, List.cons_lt_cons_iff]
      -- The heads decide both orders unless they fold alike, and then neither counts them.
      by_cases same : c.fold a.val = c.fold b.val
      · rw [if_pos same, ih]
        simp [same]
      · rw [if_neg same]
        simp only [same, false_and, or_false]
        omega

theorem compareUnits_pos_iff (as bs : List CodeUnit) :
    0 < c.compareUnits as bs ↔ c.folded bs < c.folded as := by
  rw [← compareUnits_neg_iff, compareUnits_swap]
  omega

/-- Two sequences compare as equal exactly when their folded forms are the same. -/
theorem compareUnits_eq_zero_iff (as bs : List CodeUnit) :
    c.compareUnits as bs = 0 ↔ c.folded as = c.folded bs := by
  have below := c.compareUnits_neg_iff as bs
  have above := c.compareUnits_pos_iff as bs
  constructor
  · intro zero
    apply List.le_antisymm
    · exact List.not_lt.mp fun less => by have := above.mpr less; omega
    · exact List.not_lt.mp fun less => by have := below.mpr less; omega
  · intro same
    rw [same] at below above
    have notBelow := mt below.mp (List.lt_irrefl _)
    have notAbove := mt above.mp (List.lt_irrefl _)
    omega

theorem compareUnits_nonpos_iff (as bs : List CodeUnit) :
    c.compareUnits as bs ≤ 0 ↔ ¬ c.folded bs < c.folded as := by
  rw [← compareUnits_pos_iff]
  omega

theorem compareUnits_trans {as bs cs : List CodeUnit} (first : c.compareUnits as bs ≤ 0)
    (second : c.compareUnits bs cs ≤ 0) : c.compareUnits as cs ≤ 0 := by
  rw [compareUnits_nonpos_iff, List.not_lt] at first second ⊢
  exact List.le_trans first second

/-- A common beginning does not count. -/
theorem compareUnits_append_left (ps as bs : List CodeUnit) :
    c.compareUnits (ps ++ as) (ps ++ bs) = c.compareUnits as bs := by
  induction ps with
  | nil => rfl
  | cons p ps ih => rw [List.cons_append, List.cons_append, compareUnits_cons, if_pos rfl, ih]

theorem compare_swap (a b : Option Text) : c.compare a b = -c.compare b a := by
  cases a with
  | none => cases b <;> rfl
  | some s =>
    cases b with
    | none => rfl
    | some t => exact c.compareUnits_swap s.units t.units

theorem compare_trans {a b d : Option Text} (first : c.compare a b ≤ 0)
    (second : c.compare b d ≤ 0) : c.compare a d ≤ 0 := by
  cases a with
  | none => cases d <;> simp [compare]
  | some s =>
    cases b with
    | none => simp [compare] at first
    | some t =>
      cases d with
      | none => simp [compare] at second
      | some u => exact c.compareUnits_trans first second

theorem equals_some_iff (s t : Text) :
    c.equals (some s) (some t) = true ↔ c.folded s.units = c.folded t.units := by
  rw [equals, compare, beq_iff_eq, compareUnits_eq_zero_iff]

/-- Folded forms are the same exactly when the sequences are equally long and equal at every
    place. -/
theorem folded_eq_iff (as bs : List CodeUnit) :
    c.folded as = c.folded bs ↔ as.length = bs.length ∧
      ∀ i (ha : i < as.length) (hb : i < bs.length), c.unitsEqual as[i].val bs[i].val = true := by
  rw [List.ext_getElem_iff]
  simp [folded, unitsEqual_iff]

/-- Every comparator orders the texts. Its answers are antisymmetric and transitive, with the absent
    text below every text. Between texts the sign is that of the lexicographic order of the folded
    units, in which a proper prefix comes first, and a common beginning can be left out. -/
theorem compare_ordinal_order :
    (∀ a b : Option Text, c.compare a b = -c.compare b a) ∧
    (∀ a b d : Option Text, c.compare a b ≤ 0 → c.compare b d ≤ 0 → c.compare a d ≤ 0) ∧
    (∀ s t : Text,
      (c.compare (some s) (some t) < 0 ↔ c.folded s.units < c.folded t.units) ∧
      (c.compare (some s) (some t) = 0 ↔ c.folded s.units = c.folded t.units) ∧
      (0 < c.compare (some s) (some t) ↔ c.folded t.units < c.folded s.units)) ∧
    (∀ t : Text, c.compare none (some t) < 0) ∧
    (∀ p s t : Text,
      c.compare (some (p ++ s)) (some (p ++ t)) = c.compare (some s) (some t)) := by
  refine ⟨c.compare_swap, ?_, ?_, ?_, ?_⟩
  · intro a b d first second
    exact c.compare_trans first second
  · intro s t
    exact ⟨c.compareUnits_neg_iff s.units t.units, c.compareUnits_eq_zero_iff s.units t.units,
      c.compareUnits_pos_iff s.units t.units⟩
  · intro t
    simp [compare]
  · intro p s t
    simp only [compare, Text.units_append, compareUnits_append_left]

/-- A folding that is not injective, on texts whose surrogates are paired and apart. -/
theorem compare_trans_shared_fold :
    let c := ofTable [(0x61, -1), (0x62, -1)]
    c.compare (some [0x61, 0x1F600]) (some [0x62, 0xD83D, 0xDE00]) ≤ 0 ∧
    c.compare (some [0x62, 0xD83D, 0xDE00]) (some [0x61, 0xFF21]) ≤ 0 ∧
    c.compare (some [0x61, 0x1F600]) (some [0x61, 0xFF21]) ≤ 0 := by
  intro c
  have first : c.compare (some [0x61, 0x1F600]) (some [0x62, 0xD83D, 0xDE00]) ≤ 0 := by decide
  have second : c.compare (some [0x62, 0xD83D, 0xDE00]) (some [0x61, 0xFF21]) ≤ 0 := by decide
  exact ⟨first, second, c.compare_ordinal_order.2.1 _ _ _ first second⟩

end Comparator

namespace Comparison

/-- The shortcuts of a named comparison change nothing: identical texts have the same folded form,
    and texts of different lengths have folded forms of different lengths. -/
theorem equals_some_iff (m : Comparison) (s t : Text) :
    m.equals (some s) (some t) = true ↔
      m.comparator.folded s.units = m.comparator.folded t.units := by
  rw [equals]
  split
  · rename_i identical
    simp [identical.2]
  · split
    · rename_i lengths
      simp only [Bool.false_eq_true, false_iff]
      intro same
      have counted := congrArg List.length same
      rw [Comparator.length_folded, Comparator.length_folded, Text.length_units,
        Text.length_units] at counted
      exact lengths counted
    · exact m.comparator.equals_some_iff s t

/-- Under the exact comparison equal texts are those with the same units, however these are
    spelled. -/
theorem exact_equals_some_iff (s t : Text) :
    exact.equals (some s) (some t) = true ↔ s.units = t.units := by
  rw [equals_some_iff, Comparator.folded, Comparator.folded, List.map_inj_right]
  intro u v same
  exact Fin.ext (Int.ofNat.inj same)

/-- The test for equality of a named comparison agrees with the one that its comparator has from the
    order, and holds exactly of two absent texts and of two texts whose units are equal one by
    one. -/
theorem equals_eq_comparator_equals (m : Comparison) (a b : Option Text) :
    m.equals a b = m.comparator.equals a b ∧
      (m.equals a b = true ↔ (a = none ∧ b = none) ∨
        ∃ s t : Text, a = some s ∧ b = some t ∧ s.units.length = t.units.length ∧
          ∀ i (hs : i < s.units.length) (ht : i < t.units.length),
            m.comparator.unitsEqual s.units[i].val t.units[i].val = true) := by
  cases a with
  | none => cases b <;> simp [equals, Comparator.equals]
  | some s =>
    cases b with
    | none => simp [equals, Comparator.equals]
    | some t =>
      constructor
      · rw [Bool.eq_iff_iff, equals_some_iff, Comparator.equals_some_iff]
      · rw [equals_some_iff, Comparator.folded_eq_iff]
        simp

end Comparison

theorem textEquals_named (m : Comparison) (a b : Option Text) :
    textEquals a b (.named m) = .ok (m.equals a b) := rfl

end UnitText
