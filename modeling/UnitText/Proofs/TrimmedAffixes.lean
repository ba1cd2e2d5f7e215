import UnitText.Proofs.Affixes
import Mathlib.Data.List.DropRight

/-!
# Removing an affix between two trimmings

The trimmed text is trimmed again at the end where an affix was removed. Whether one was removed is
told by the number of code points, and the affix by its units, so the two can disagree: taking one half
off a surrogate pair leaves the other half, and with it as many code points as there were. The text
then comes out as it was, with the affix. This happens only where no other halves stand side by side
apart (`Side.SplitsPair`), since these would be paired on the way and make the text shorter.
-/

namespace UnitText

/-! ## Trimming again -/

theorem dropWhileRight_eq_rdropWhile {α : Type} (p : α → Bool) (l : List α) :
    dropWhileRight p l = l.rdropWhile p := rfl

/-- Dropping at the end does not bring up anything to be dropped at the start. -/
theorem dropWhile_dropWhileRight {α : Type} (p : α → Bool) (l : List α) :
    (dropWhileRight p (l.dropWhile p)).dropWhile p = dropWhileRight p (l.dropWhile p) := by
  rw [dropWhileRight_eq_rdropWhile, List.dropWhile_eq_self_iff]
  intro nonempty
  have front : (l.dropWhile p).rdropWhile p <+: l.dropWhile p := List.rdropWhile_prefix p _
  have same := front.getElem nonempty
  rw [same]
  exact List.dropWhile_eq_self_iff.mp (List.dropWhile_idempotent p l) _

theorem Side.trim_trim (side : Side) (t : Text) : side.trim t.trim = t.trim := by
  cases side with
  | left => exact dropWhile_dropWhileRight isTrimmed t
  | right => exact List.rdropWhile_idempotent isTrimmed _

theorem Side.length_trim_le (side : Side) (t : Text) :
    (side.trim t).units.length ≤ t.units.length := by
  cases side with
  | left =>
    show t.trimLeft.units.length ≤ t.units.length
    rw [Text.units_trimLeft]
    exact (List.dropWhile_suffix _).length_le
  | right =>
    show t.trimRight.units.length ≤ t.units.length
    rw [Text.units_trimRight]
    exact (List.rdropWhile_prefix _ _).length_le

/-! ## How many code points are read back -/

@[simp] theorem CodeUnit.isSupplementary_pair (u v : CodeUnit) :
    (pair u v).isSupplementary = true := by
  rw [CodePoint.isSupplementary, decide_eq_true_iff, val_pair]
  omega

theorem CodePoint.eq_pair_of_isSupplementary {c : CodePoint} (supplementary : c.isSupplementary = true) :
    ∃ high low : CodeUnit, high.isHigh = true ∧ low.isLow = true ∧ CodeUnit.pair high low = c := by
  have above : ¬ c.val < 0x10000 := by simpa [isSupplementary] using supplementary
  obtain ⟨high, low, isHigh, isLow, _, encodes⟩ := exists_pair above
  exact ⟨high, low, isHigh, isLow, encodes⟩

namespace Text

theorem length_le_length_units (t : Text) : t.length ≤ t.units.length := by
  rw [length_units, unitLength]
  omega

theorem length_units_of_flat {t : Text} (flat : t.hasSupplementary = false) :
    t.units.length = t.length := by
  rw [units_eq_map flat, List.length_map]

theorem unitLength_ne_zero {t : Text} (nonempty : t ≠ []) : t.unitLength ≠ 0 := by
  rw [← length_units]
  intro none
  exact nonempty (units_eq_nil_iff.mp (List.eq_nil_of_length_eq_zero none))

/-- Halves that stand side by side apart can be spelled with one code point less. -/
theorem exists_shorter {t : Text} (apart : ¬ t.IsPaired) :
    ∃ s : Text, s.units = t.units ∧ s.length < t.length := by
  rw [isPaired_iff, not_not] at apart
  obtain ⟨before, high, low, after, rfl, isHigh, isLow⟩ := apart
  have flatHigh : high.val < 0x10000 := by
    simp only [CodePoint.isHigh, decide_eq_true_eq] at isHigh
    omega
  have flatLow : low.val < 0x10000 := by
    simp only [CodePoint.isLow, decide_eq_true_eq] at isLow
    omega
  let first : CodeUnit := ⟨high.val, flatHigh⟩
  let second : CodeUnit := ⟨low.val, flatLow⟩
  have paired : (CodeUnit.pair first second).units = [first, second] :=
    CodeUnit.units_pair isHigh isLow
  refine ⟨before ++ CodeUnit.pair first second :: after, ?_, ?_⟩
  · rw [units_append, units_append, units_cons, units_cons, units_cons, paired,
      CodePoint.units_of_lt flatHigh, CodePoint.units_of_lt flatLow]
    rfl
  · simp

/-- Reading back gives no more code points than there were. -/
theorem length_ofUnits_units_le (t : Text) : (ofUnits t.units).length ≤ t.length := by
  -- Every two halves that stand apart make a shorter spelling of the same units.
  induction h : t.length using Nat.strong_induction_on generalizing t with
  | _ n ih =>
    by_cases paired : t.IsPaired
    · rw [ofUnits_units paired, h]
    · obtain ⟨s, same, shorter⟩ := exists_shorter paired
      have read := ih s.length (by omega) s rfl
      rw [← same]
      omega

/-- Reading back gives as many code points exactly if no halves stand side by side apart. -/
theorem length_ofUnits_units_iff (t : Text) :
    (ofUnits t.units).length = t.length ↔ t.IsPaired := by
  constructor
  · intro same
    by_contra apart
    obtain ⟨s, sameUnits, shorter⟩ := exists_shorter apart
    have read := length_ofUnits_units_le s
    rw [sameUnits] at read
    omega
  · intro paired
    rw [ofUnits_units paired]

/-- A unit that ends no pair is read on its own at the end. -/
theorem ofUnits_append_alone {u : CodeUnit} (notLow : u.isLow = false) (us : List CodeUnit) :
    ofUnits (us ++ [u]) = ofUnits us ++ [u.toCodePoint] := by
  have paired : IsPaired (ofUnits us ++ [u.toCodePoint]) := by
    refine List.isChain_append.mpr ⟨isPaired_ofUnits us, .singleton _, ?_⟩
    rintro c _ d last ⟨_, low⟩
    obtain rfl : u.toCodePoint = d := by simpa using last
    simp [notLow] at low
  have read := ofUnits_units paired
  rwa [units_append, units_ofUnits, units_cons, CodeUnit.units_toCodePoint, units_nil,
    List.append_nil] at read

end Text

namespace Side

section Ends

variable {α : Type} (side : Side)

/-- The half of a pair that stands at this end of it. -/
def outer (high low : α) : α :=
  match side with
  | .left => high
  | .right => low

/-- The other half of a pair. -/
def inner (high low : α) : α :=
  match side with
  | .left => low
  | .right => high

theorem attach_outer_inner (high low : α) :
    side.attach [side.outer high low] [side.inner high low] = [high, low] := by
  cases side <;> rfl

theorem exists_attach {l : List α} (nonempty : l ≠ []) : ∃ a rest, l = side.attach [a] rest := by
  cases side with
  | left =>
    obtain ⟨a, rest, split⟩ := List.exists_cons_of_ne_nil nonempty
    exact ⟨a, rest, split⟩
  | right =>
    refine ⟨l.getLast nonempty, l.dropLast, ?_⟩
    exact (List.dropLast_append_getLast nonempty).symm

theorem attach_assoc (p q l : List α) :
    side.attach (side.attach p q) l = side.attach p (side.attach q l) := by
  cases side <;> simp [attach]

theorem beside_attach_of_le {n : Nat} {p : List α} (covers : p.length ≤ n) (l : List α) :
    side.beside n (side.attach p l) = side.beside (n - p.length) l := by
  cases side with
  | left => simp [beside, attach, List.drop_append, List.drop_eq_nil_of_le covers]
  | right =>
    have shorter : (l ++ p).length - n = l.length - (n - p.length) := by
      rw [List.length_append]
      omega
    simp only [beside, attach, shorter]
    exact List.take_append_of_le_length (by omega)

theorem beside_zero (l : List α) : side.beside 0 l = l := by
  cases side <;> simp [beside]

end Ends

/-! ## What is left of a pair -/

section Pairs

variable (side : Side) {high low : CodeUnit}

theorem units_attach_pair (isHigh : high.isHigh = true) (isLow : low.isLow = true) (rest : Text) :
    Text.units (side.attach [CodeUnit.pair high low] rest) =
      side.attach [side.outer high low] (side.attach [side.inner high low] rest.units) := by
  rw [units_attach, ← attach_assoc, attach_outer_inner, Text.units_cons, Text.units_nil,
    List.append_nil, CodeUnit.units_pair isHigh isLow]

theorem beside_one_pair (isHigh : high.isHigh = true) (isLow : low.isLow = true) (rest : Text) :
    side.beside 1 (Text.units (side.attach [CodeUnit.pair high low] rest)) =
      side.attach [side.inner high low] rest.units := by
  rw [side.units_attach_pair isHigh isLow]
  exact side.beside_attach [side.outer high low] _

/-- The half that is left is read on its own: it stands on the wrong side to be paired. -/
theorem ofUnits_attach_inner (isHigh : high.isHigh = true) (isLow : low.isLow = true)
    (us : List CodeUnit) :
    Text.ofUnits (side.attach [side.inner high low] us) =
      side.attach [(side.inner high low).toCodePoint] (Text.ofUnits us) := by
  simp only [CodeUnit.isHigh, CodeUnit.isLow, decide_eq_true_eq] at isHigh isLow
  cases side with
  | left =>
    apply Text.ofUnits_alone
    rintro v _ ⟨first, _⟩
    change low.isHigh = true at first
    simp only [CodeUnit.isHigh, decide_eq_true_eq] at first
    omega
  | right =>
    apply Text.ofUnits_append_alone
    show high.isLow = false
    simp only [CodeUnit.isLow, decide_eq_false_iff_not]
    omega

/-- Units that are left at an end either begin behind its code point or are those of the text with one
    half of a pair there. -/
theorem beside_units_cases (c : CodePoint) (rest : Text) {n : Nat} (taken : n ≠ 0) :
    (∃ k, side.beside n (Text.units (side.attach [c] rest)) = side.beside k rest.units) ∨
    (n = 1 ∧ ∃ high low : CodeUnit, high.isHigh = true ∧ low.isLow = true ∧
      CodeUnit.pair high low = c) := by
  by_cases covers : c.units.length ≤ n
  · left
    refine ⟨n - c.units.length, ?_⟩
    rw [units_attach, Text.units_cons, Text.units_nil, List.append_nil,
      side.beside_attach_of_le covers]
  · right
    by_cases flat : c.val < 0x10000
    · rw [CodePoint.units_of_lt flat, List.length_singleton] at covers
      omega
    · obtain ⟨high, low, isHigh, isLow, written, encodes⟩ := CodePoint.exists_pair flat
      rw [written] at covers
      simp only [List.length_cons, List.length_nil] at covers
      exact ⟨by omega, high, low, isHigh, isLow, encodes⟩

end Pairs

/-- What is left beside some units at an end can be spelled with no more code points than there were. -/
theorem exists_units_eq_beside (side : Side) (t : Text) (n : Nat) :
    ∃ s : Text, s.units = side.beside n t.units ∧ s.length ≤ t.length := by
  induction h : t.length generalizing t n with
  | zero =>
    obtain rfl := List.eq_nil_of_length_eq_zero h
    exact ⟨[], by cases side <;> simp [beside], Nat.le_refl _⟩
  | succ k ih =>
    have nonempty : t ≠ [] := by
      rintro rfl
      simp at h
    obtain ⟨c, rest, rfl⟩ := side.exists_attach nonempty
    rw [length_attach, List.length_singleton] at h
    by_cases none : n = 0
    · exact ⟨side.attach [c] rest, by rw [none, beside_zero], by simp; omega⟩
    · rcases side.beside_units_cases c rest none with ⟨k, behind⟩ | ⟨rfl, high, low, isHigh, isLow, rfl⟩
      · obtain ⟨s, same, shorter⟩ := ih rest k (by omega)
        exact ⟨s, by rw [behind, same], by omega⟩
      · refine ⟨side.attach [(side.inner high low).toCodePoint] rest, ?_, by simp; omega⟩
        rw [side.beside_one_pair isHigh isLow, units_attach, Text.units_cons, Text.units_nil,
          List.append_nil, CodeUnit.units_toCodePoint]

theorem length_ofUnits_beside_le (side : Side) (t : Text) (n : Nat) :
    (Text.ofUnits (side.beside n t.units)).length ≤ t.length := by
  obtain ⟨s, same, shorter⟩ := side.exists_units_eq_beside t n
  rw [← same]
  exact (Text.length_ofUnits_units_le s).trans shorter

/-- One half taken off a pair, what is left has as many code points as before exactly if no other halves
    stand side by side apart. -/
theorem length_ofUnits_beside_pair (side : Side) {high low : CodeUnit} (isHigh : high.isHigh = true)
    (isLow : low.isLow = true) (rest : Text) :
    (Text.ofUnits (side.beside 1 (Text.units (side.attach [CodeUnit.pair high low] rest)))).length =
        (side.attach [CodeUnit.pair high low] rest).length ↔ rest.IsPaired := by
  rw [side.beside_one_pair isHigh isLow, side.ofUnits_attach_inner isHigh isLow, length_attach,
    length_attach, List.length_singleton, List.length_singleton, Nat.add_left_cancel_iff]
  exact Text.length_ofUnits_units_iff rest

/-- Read back, what is left beside some units at an end has as many code points as there were exactly if
    these units are one half of a pair and no other halves stand side by side apart. -/
theorem length_ofUnits_beside_iff (side : Side) (c : CodePoint) (rest : Text) {n : Nat}
    (taken : n ≠ 0) :
    (Text.ofUnits (side.beside n (Text.units (side.attach [c] rest)))).length =
        (side.attach [c] rest).length ↔
      n = 1 ∧ c.isSupplementary = true ∧ rest.IsPaired := by
  by_cases half : n = 1 ∧ c.isSupplementary = true
  · obtain ⟨rfl, supplementary⟩ := half
    obtain ⟨high, low, isHigh, isLow, rfl⟩ := CodePoint.eq_pair_of_isSupplementary supplementary
    rw [side.length_ofUnits_beside_pair isHigh isLow]
    simp
  · rcases side.beside_units_cases c rest taken with
      ⟨k, behind⟩ | ⟨rfl, high, low, isHigh, isLow, rfl⟩
    · -- The code point at this end is gone, and the others can at most become fewer.
      have shorter := side.length_ofUnits_beside_le rest k
      rw [behind, length_attach, List.length_singleton]
      constructor
      · intro same
        omega
      · rintro ⟨one, supplementary, _⟩
        exact absurd ⟨one, supplementary⟩ half
    · exact absurd ⟨rfl, CodeUnit.isSupplementary_pair high low⟩ half

end Side

/-! ## Which affix is one half of a pair -/

/-- No run of letters meets the surrogates, and none is carried there. -/
theorem caseRuns_beside_surrogates : ∀ r ∈ caseRuns,
    (r.last < 0xD800 ∨ 0xDFFF < r.first) ∧
    ((r.last : Int) + r.shift < 0xD800 ∨ 0xDFFF < (r.first : Int) + r.shift) := by
  decide +kernel

/-- A surrogate has no case: it is the lower-case form of itself, and of nothing else. -/
theorem simpleLower_eq_surrogate_iff {n k : Nat} (surrogate : 0xD800 ≤ k ∧ k ≤ 0xDFFF) :
    simpleLower n = k ↔ n = k := by
  rcases simpleLower_cases n with ⟨r, member, covered, lower⟩ | ⟨_, stays⟩
  · obtain ⟨start, target⟩ := caseRuns_beside_surrogates r member
    rw [CaseRun.covers_iff] at covered
    omega
  · rw [stays]

theorem Comparison.fold_eq_surrogate_iff (m : Comparison) {u v : CodeUnit}
    (surrogate : v.isHigh = true ∨ v.isLow = true) :
    m.comparator.fold u.val = m.comparator.fold v.val ↔ u = v := by
  have inside : 0xD800 ≤ v.val ∧ v.val ≤ 0xDFFF := by
    simp only [CodeUnit.isHigh, CodeUnit.isLow, decide_eq_true_eq] at surrogate
    omega
  cases m with
  | exact =>
    show ((u.val : Int) = v.val) ↔ u = v
    rw [Int.ofNat_inj, Fin.ext_iff]
  | exactIgnoreCase =>
    show ((simpleLower u.val : Int) = simpleLower v.val) ↔ u = v
    rw [Int.ofNat_inj, (simpleLower_eq_surrogate_iff inside).mpr rfl,
      simpleLower_eq_surrogate_iff inside, Fin.ext_iff]

namespace Side

/-- The affix is one half of the pair at this end of the text, and no other halves stand side by side
    apart. -/
def SplitsPair (side : Side) (t affix : Text) : Prop :=
  ∃ (high low : CodeUnit) (rest : Text), high.isHigh = true ∧ low.isLow = true ∧ rest.IsPaired ∧
    t = side.attach [CodeUnit.pair high low] rest ∧ affix = [(side.outer high low).toCodePoint]

section Halves

variable (side : Side)

theorem isAt_singleton_attach {α : Type} {a b : α} {l : List α}
    (there : side.IsAt [a] (side.attach [b] l)) : a = b := by
  cases side with
  | left =>
    obtain ⟨rest, split⟩ := there
    exact (List.cons.inj split).1
  | right =>
    obtain ⟨rest, split⟩ := there
    exact List.singleton_inj.mp (List.append_inj' split rfl).2

theorem attach_injective {α : Type} {a b : α} {l k : List α}
    (same : side.attach [a] l = side.attach [b] k) : a = b ∧ l = k := by
  cases side with
  | left => exact List.cons.inj same
  | right =>
    obtain ⟨rest, last⟩ := List.append_inj' same rfl
    exact ⟨List.singleton_inj.mp last, rest⟩

variable {high low : CodeUnit}

theorem outer_surrogate (isHigh : high.isHigh = true) (isLow : low.isLow = true) :
    (side.outer high low).isHigh = true ∨ (side.outer high low).isLow = true := by
  cases side with
  | left => exact .inl isHigh
  | right => exact .inr isLow

/-- An affix of one unit is there before or after a pair if it is the half at that end. -/
theorem hasAffix_unit_iff (isHigh : high.isHigh = true) (isLow : low.isLow = true) (rest : Text)
    (u : CodeUnit) (m : Comparison) :
    side.hasAffix (side.attach [CodeUnit.pair high low] rest) [u.toCodePoint] m = true ↔
      u = side.outer high low := by
  rw [hasAffix_iff, side.units_attach_pair isHigh isLow, Comparator.folded, Comparator.folded,
    map_attach, Text.units_cons, Text.units_nil, List.append_nil, CodeUnit.units_toCodePoint]
  constructor
  · intro there
    exact (m.fold_eq_surrogate_iff (side.outer_surrogate isHigh isLow)).mp
      (side.isAt_singleton_attach there)
  · rintro rfl
    exact side.isAt_attach _ _

end Halves

/-! ## Removing an affix that is there -/

section Removal

variable {side : Side} {t p : Text} {m : Comparison}

theorem SplitsPair.hasAffix (splits : side.SplitsPair t p) (m : Comparison) :
    side.hasAffix t p m = true := by
  obtain ⟨high, low, rest, isHigh, isLow, _, rfl, rfl⟩ := splits
  exact (side.hasAffix_unit_iff isHigh isLow rest _ m).mpr rfl

theorem SplitsPair.unitLength (splits : side.SplitsPair t p) : p.unitLength = 1 := by
  obtain ⟨high, low, _, _, _, _, _, rfl⟩ := splits
  rw [← Text.length_units, Text.units_cons, CodeUnit.units_toCodePoint]
  rfl

theorem SplitsPair.ne_nil (splits : side.SplitsPair t p) : p ≠ [] := by
  obtain ⟨_, _, _, _, _, _, _, rfl⟩ := splits
  exact List.cons_ne_nil _ _

theorem SplitsPair.hasSupplementary (splits : side.SplitsPair t p) :
    t.hasSupplementary = true := by
  obtain ⟨high, low, _, _, _, _, rfl, _⟩ := splits
  cases side <;> simp [Text.hasSupplementary, attach]

theorem unitLength_le_of_hasAffix (there : side.hasAffix t p m = true) :
    p.unitLength ≤ t.unitLength := by
  rw [← Text.length_units, ← Text.length_units]
  cases side with
  | left => exact Text.length_le_of_hasPrefix there
  | right => exact Text.length_le_of_hasSuffix there

/-- A text with a supplementary code point is read back from its units when it is cut, so no pair is
    left apart. -/
theorem isPaired_removeAffix (supplementary : t.hasSupplementary = true) (nonempty : p ≠ [])
    (there : side.hasAffix t p m = true) : (side.removeAffix false t (some p) m).IsPaired := by
  -- Which code points are left cannot be told from the units, so the removal itself is looked into.
  have fits := unitLength_le_of_hasAffix there
  have paired : ∀ present remove, present p = true → (∀ n, (remove n).IsPaired) →
      (t.removeAffix (some p) m present remove).IsPaired := by
    intro present remove isPresent cutPaired
    simp only [Text.removeAffix]
    split
    · rename_i unchanged
      rcases unchanged with empty | longer
      · exact absurd (List.isEmpty_iff.mp empty) nonempty
      · omega
    · split
      · rename_i lengths
        rw [← side.hasAffix_eq_equals m lengths.symm, if_pos there]
        exact .nil
      · exact cutPaired _
  have cutPaired : ∀ start stop, (t.sliceUnits start stop).IsPaired := by
    intro start stop
    rw [Text.sliceUnits, if_pos supplementary]
    exact Text.isPaired_ofUnits _
  cases side with
  | left => exact paired (t.hasPrefix · m) _ there fun n => cutPaired _ _
  | right => exact paired (t.hasSuffix · m) _ there fun n => cutPaired _ _

/-- Where every code point is one unit, taking an affix off leaves fewer code points. -/
theorem length_removeAffix_lt_of_flat (flat : t.hasSupplementary = false) (nonempty : p ≠ [])
    (there : side.hasAffix t p m = true) :
    (side.removeAffix false t (some p) m).length < t.length := by
  have fits := unitLength_le_of_hasAffix there
  have taken := Text.unitLength_ne_zero nonempty
  have left := Text.length_le_length_units (side.removeAffix false t (some p) m)
  rw [side.units_removeAffix_of_hasAffix there, length_beside,
    Text.length_units_of_flat flat] at left
  rw [← Text.length_units t, Text.length_units_of_flat flat] at fits
  omega

/-- An affix that is there splits a pair exactly if it has one unit, the code point at that end has two,
    and no halves stand side by side apart in the rest. -/
theorem splitsPair_attach_iff {c : CodePoint} {rest : Text}
    (there : side.hasAffix (side.attach [c] rest) p m = true) :
    side.SplitsPair (side.attach [c] rest) p ↔
      p.unitLength = 1 ∧ c.isSupplementary = true ∧ rest.IsPaired := by
  constructor
  · intro splits
    refine ⟨splits.unitLength, ?_⟩
    obtain ⟨high, low, rest', _, _, paired, split, _⟩ := splits
    obtain ⟨rfl, rfl⟩ := side.attach_injective split
    exact ⟨CodeUnit.isSupplementary_pair high low, paired⟩
  · rintro ⟨one, supplementary, paired⟩
    obtain ⟨u, rfl, _⟩ := Text.exists_toCodePoint_of_unitLength one
    obtain ⟨high, low, isHigh, isLow, rfl⟩ := CodePoint.eq_pair_of_isSupplementary supplementary
    obtain rfl := (side.hasAffix_unit_iff isHigh isLow rest u m).mp there
    exact ⟨high, low, rest, isHigh, isLow, paired, rfl, rfl⟩

/-- Taking off an affix that is there leaves as many code points exactly if it is one half of a pair and
    nothing is paired on the way. -/
theorem length_removeAffix_iff (nonempty : p ≠ []) (there : side.hasAffix t p m = true) :
    (side.removeAffix false t (some p) m).length = t.length ↔ side.SplitsPair t p := by
  by_cases supplementary : t.hasSupplementary = true
  · have read := Text.ofUnits_units (isPaired_removeAffix supplementary nonempty there)
    rw [side.units_removeAffix_of_hasAffix there] at read
    have some : t ≠ [] := by
      rintro rfl
      simp [Text.hasSupplementary] at supplementary
    obtain ⟨c, rest, rfl⟩ := side.exists_attach some
    rw [← read, side.length_ofUnits_beside_iff c rest (Text.unitLength_ne_zero nonempty),
      splitsPair_attach_iff there]
  · have flat : t.hasSupplementary = false := by simpa using supplementary
    have shorter := length_removeAffix_lt_of_flat flat nonempty there
    constructor
    · intro same
      omega
    · intro splits
      exact absurd splits.hasSupplementary supplementary

end Removal

/-! ## Between two trimmings -/

/-- The second trimming is made unless the removal has left as many code points. -/
theorem removeAffix_true_eq (side : Side) (t : Text) (affix : Option Text) (m : Comparison) :
    side.removeAffix true t affix m =
      if (side.removeAffix false t.trim affix m).length = t.trim.length then t.trim
      else side.trim (side.removeAffix false t.trim affix m) := by
  cases side <;> rfl

section Trimmed

variable {side : Side} {t p : Text}

/-- Without a pair to be split, as many code points mean that nothing was taken off. -/
theorem removeAffix_eq_of_length {affix : Option Text} {m : Comparison}
    (whole : ∀ p, affix = some p → ¬ side.SplitsPair t p)
    (same : (side.removeAffix false t affix m).length = t.length) :
    side.removeAffix false t affix m = t := by
  cases affix with
  | none => exact side.removeAffix_of_leaves m .absent
  | some p =>
    by_cases nonempty : p = []
    · subst nonempty
      exact side.removeAffix_of_leaves m .empty
    · by_cases there : side.hasAffix t p m = true
      · exact absurd ((length_removeAffix_iff nonempty there).mp same) (whole p rfl)
      · exact side.removeAffix_of_not_hasAffix m (Bool.eq_false_iff.mpr there)

theorem removeAffix_true_of_whole {affix : Option Text} {m : Comparison}
    (whole : ∀ p, affix = some p → ¬ side.SplitsPair t.trim p) :
    side.removeAffix true t affix m = side.trim (side.removeAffix false t.trim affix m) := by
  rw [removeAffix_true_eq]
  split
  · rename_i same
    rw [removeAffix_eq_of_length whole same, trim_trim]
  · rfl

theorem removeAffix_true_of_splitsPair (splits : side.SplitsPair t.trim p) (m : Comparison) :
    side.removeAffix true t (some p) m = t.trim := by
  have same := (length_removeAffix_iff splits.ne_nil (splits.hasAffix m)).mpr splits
  rw [removeAffix_true_eq, if_pos same]

/-- One unit less is left, and trimming adds none. -/
theorem length_trim_removeAffix_lt (splits : side.SplitsPair t p) (m : Comparison) :
    (side.trim (side.removeAffix false t (some p) m)).units.length < t.units.length := by
  have there := splits.hasAffix m
  have fits := unitLength_le_of_hasAffix there
  have trimmed := side.length_trim_le (side.removeAffix false t (some p) m)
  rw [side.units_removeAffix_of_hasAffix there, length_beside, splits.unitLength] at trimmed
  rw [splits.unitLength, ← Text.length_units] at fits
  omega

end Trimmed

/-- Removing an affix from the trimmed text and trimming that end again. The outcome has the units that
    the three steps give one after the other, and is the same text, unless the affix is one half of a
    pair at the end of the trimmed text and no other halves stand side by side apart. Then the trimmed
    text comes out, with the affix still there. -/
theorem trimmed_removal_units_iff (side : Side) (t : Text) (affix : Option Text) (m : Comparison) :
    ((side.removeAffix true t affix m).units =
        (side.trim (side.removeAffix false t.trim affix m)).units ↔
      ∀ p, affix = some p → ¬ side.SplitsPair t.trim p) ∧
    ((∀ p, affix = some p → ¬ side.SplitsPair t.trim p) →
      side.removeAffix true t affix m = side.trim (side.removeAffix false t.trim affix m)) ∧
    (∀ p, affix = some p → side.SplitsPair t.trim p →
      side.removeAffix true t affix m = t.trim ∧ side.hasAffix t.trim p m = true) := by
  refine ⟨⟨?_, ?_⟩, ?_, ?_⟩
  · rintro same p rfl splits
    have shorter := length_trim_removeAffix_lt splits m
    rw [← same, removeAffix_true_of_splitsPair splits] at shorter
    exact absurd shorter (Nat.lt_irrefl _)
  · intro whole
    rw [removeAffix_true_of_whole whole]
  · intro whole
    exact removeAffix_true_of_whole whole
  · rintro p rfl splits
    exact ⟨removeAffix_true_of_splitsPair splits m, splits.hasAffix m⟩

/-- The second half of a pair before a space stays, and the letter before it goes together with the space
    that it uncovers. -/
theorem trimmed_removal_units_iff_half :
    (Side.right.SplitsPair (Text.trim [0x41, 0x1F600, 0x20]) [0xDE00] ∧
      Side.right.removeAffix true [0x41, 0x1F600, 0x20] (some [0xDE00]) .exact =
        [0x41, 0x1F600]) ∧
    ((∀ p, some [0x42] = some p → ¬ Side.right.SplitsPair (Text.trim [0x41, 0x20, 0x42]) p) ∧
      Side.right.removeAffix true [0x41, 0x20, 0x42] (some [0x42]) .exact = [0x41]) := by
  have splits : Side.right.SplitsPair (Text.trim [0x41, 0x1F600, 0x20]) [0xDE00] :=
    ⟨0xD83D, 0xDE00, [0x41], by decide, by decide, by decide, by decide, by decide⟩
  have whole : ∀ p, some [0x42] = some p →
      ¬ Side.right.SplitsPair (Text.trim [0x41, 0x20, 0x42]) p := by
    rintro p _ splits
    exact absurd splits.hasSupplementary (by decide)
  refine ⟨⟨splits, ?_⟩, whole, ?_⟩
  · exact ((trimmed_removal_units_iff .right _ _ .exact).2.2 _ rfl splits).1
  · rw [(trimmed_removal_units_iff .right _ _ .exact).2.1 whole]
    decide

/-- The first half of a pair that stands alone is there and can be removed, but not between two
    trimmings. -/
theorem trimmed_removal_keeps_half :
    Side.left.hasAffix (Text.trim [0x1F600]) [0xD83D] .exact = true ∧
    Side.left.removeAffix true [0x1F600] (some [0xD83D]) .exact = [0x1F600] ∧
    Side.left.trim (Side.left.removeAffix false (Text.trim [0x1F600]) (some [0xD83D]) .exact) =
      [0xDE00] ∧
    (Side.left.removeAffix true [0x1F600] (some [0xD83D]) .exact).units ≠
      (Side.left.trim
        (Side.left.removeAffix false (Text.trim [0x1F600]) (some [0xD83D]) .exact)).units := by
  decide

end Side

end UnitText
