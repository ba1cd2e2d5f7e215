import UnitText.Proofs.CodeUnits
import UnitText.Comparison
import UnitText.Text.Basic

/-!
# Operations seen through the units

Cutting, trimming, padding and the removal of an affix, each as what it does to the units of a text.
Trimming works on code points and cutting has a path for texts without supplementary code points;
neither is visible in the units. A part of a text matches a part of another one if the folded units
of the two parts are the same, so a text has an affix exactly when its folded units do.
-/

namespace UnitText

/-! ## Lists of words

A text is the concatenation of short words, one for each code point. What a predicate says of the
entries of a word it says of all of them alike. -/

section Words

variable {α β : Type} {word : α → List β} {p : α → Bool} {q : β → Bool}

/-- Dropping entries while they satisfy a predicate drops whole words. -/
theorem dropWhile_flatMap (nonempty : ∀ a, word a ≠ []) (alike : ∀ a, ∀ b ∈ word a, q b = p a)
    (l : List α) : (l.flatMap word).dropWhile q = (l.dropWhile p).flatMap word := by
  induction l with
  | nil => rfl
  | cons a l ih =>
    rw [List.flatMap_cons]
    cases dropped : p a with
    | true =>
      have whole : ∀ b ∈ word a, q b = true := by
        intro b member
        rw [alike a b member, dropped]
      rw [List.dropWhile_append_of_pos whole, ih, List.dropWhile_cons_of_pos dropped]
    | false =>
      obtain ⟨b, rest, split⟩ := List.exists_cons_of_ne_nil (nonempty a)
      have kept : ¬ q b = true := by
        rw [alike a b (by simp [split]), dropped]
        simp
      rw [split, List.cons_append, List.dropWhile_cons_of_neg kept,
        List.dropWhile_cons_of_neg (by simp [dropped]), List.flatMap_cons, split,
        List.cons_append]

theorem dropWhileRight_flatMap (nonempty : ∀ a, word a ≠ [])
    (alike : ∀ a, ∀ b ∈ word a, q b = p a) (l : List α) :
    dropWhileRight q (l.flatMap word) = (dropWhileRight p l).flatMap word := by
  have turn : ∀ m : List α,
      (m.reverse.flatMap fun a => (word a).reverse) = (m.flatMap word).reverse := by
    intro m
    rw [List.reverse_flatMap]
    rfl
  have mirrored : (l.reverse.flatMap fun a => (word a).reverse).dropWhile q =
      (l.reverse.dropWhile p).flatMap fun a => (word a).reverse :=
    dropWhile_flatMap (by simpa using nonempty) (by simpa using alike) l.reverse
  calc dropWhileRight q (l.flatMap word)
      = ((l.reverse.flatMap fun a => (word a).reverse).dropWhile q).reverse := by
        rw [turn, dropWhileRight]
    _ = ((l.reverse.dropWhile p).flatMap fun a => (word a).reverse).reverse := by rw [mirrored]
    _ = (dropWhileRight p l).flatMap word := by
        rw [← List.reverse_reverse (l.reverse.dropWhile p), turn, List.reverse_reverse,
          dropWhileRight]

end Words

namespace CodePoint

theorem units_ne_nil (c : CodePoint) : c.units ≠ [] := by
  have counted := Text.length_units_point c
  intro empty
  rw [empty, List.length_nil] at counted
  omega

/-- The number of a code point as a unit; outside the Basic Multilingual Plane it loses its upper
    bits. -/
def toUnit (c : CodePoint) : CodeUnit := ⟨c.val % 0x10000, Nat.mod_lt _ (by decide)⟩

theorem units_eq_singleton {c : CodePoint} (flat : c.isSupplementary = false) :
    c.units = [c.toUnit] := by
  have below : c.val < 0x10000 := by simpa [isSupplementary] using flat
  rw [units_of_lt below]
  simp [toUnit, Nat.mod_eq_of_lt below]

end CodePoint

def CodeUnit.isTrimmed (u : CodeUnit) : Bool := decide (u.val ≤ 0x20)

/-- Trimming tells the units of a code point as it tells the code point: surrogates stay. -/
theorem CodeUnit.isTrimmed_of_mem {c : CodePoint} {u : CodeUnit} (member : u ∈ c.units) :
    u.isTrimmed = UnitText.isTrimmed c := by
  by_cases below : c.val < 0x10000
  · rw [CodePoint.units_of_lt below] at member
    obtain rfl := List.mem_singleton.mp member
    rfl
  · obtain ⟨high, low, isHigh, isLow, written, _⟩ := CodePoint.exists_pair below
    have above : 0x20 < u.val := by
      simp only [CodeUnit.isHigh, CodeUnit.isLow, decide_eq_true_eq] at isHigh isLow
      rw [written] at member
      rcases List.mem_pair.mp member with rfl | rfl <;> omega
    simp only [isTrimmed, UnitText.isTrimmed]
    rw [decide_eq_false (by omega), decide_eq_false (by omega)]

/-! ## Cutting -/

theorem cut_map {α β : Type} (f : α → β) (l : List α) (start stop : Option Int) :
    cut (l.map f) start stop = (cut l start stop).map f := by
  simp only [cut, List.length_map, List.map_drop, List.map_take]

theorem mem_of_mem_cut {α : Type} {a : α} {l : List α} {start stop : Option Int}
    (member : a ∈ cut l start stop) : a ∈ l :=
  List.mem_of_mem_take (List.mem_of_mem_drop member)

theorem cut_drop {α : Type} (l : List α) (n : Nat) : cut l (some n) none = l.drop n := by
  simp only [cut, clampPosition, Option.map_some, Option.map_none, Option.getD_some,
    Option.getD_none, List.take_length]
  rw [if_neg (by omega), Int.toNat_natCast]
  by_cases inside : n ≤ l.length
  · rw [Nat.min_eq_left inside]
  · rw [Nat.min_eq_right (by omega), List.drop_length, List.drop_eq_nil_of_le (by omega)]

theorem cut_take {α : Type} (l : List α) (n : Nat) : cut l (some 0) (some n) = l.take n := by
  simp only [cut, clampPosition, Option.map_some, Option.getD_some]
  rw [if_neg (by omega), if_neg (by omega), Int.toNat_natCast]
  simp only [Int.toNat_zero, Nat.zero_min, List.drop_zero]
  by_cases inside : n ≤ l.length
  · rw [Nat.min_eq_left inside]
  · rw [Nat.min_eq_right (by omega), List.take_length, List.take_of_length_le (by omega)]

namespace Text

@[simp] theorem units_eq_nil_iff {t : Text} : t.units = [] ↔ t = [] := by
  cases t with
  | nil => simp
  | cons c t => simp [CodePoint.units_ne_nil]

/-- A text without supplementary code points has one unit for each code point. -/
theorem units_eq_map {t : Text} (flat : t.hasSupplementary = false) :
    t.units = t.map CodePoint.toUnit := by
  simp only [hasSupplementary, List.any_eq_false, Bool.not_eq_true] at flat
  induction t with
  | nil => rfl
  | cons c t ih =>
    have first := CodePoint.units_eq_singleton (flat c (List.mem_cons_self ..))
    rw [units_cons, first, ih fun d member => flat d (List.mem_cons_of_mem c member)]
    rfl

/-- A text of one unit is one code point, which is not supplementary. -/
theorem exists_toCodePoint_of_unitLength {t : Text} (one : t.unitLength = 1) :
    ∃ u : CodeUnit, t = [u.toCodePoint] ∧ t.units = [u] := by
  match t with
  | [] => cases one
  | [c] =>
    have flat : c.isSupplementary = false := by
      simpa [Text.unitLength, List.countP_cons] using one
    have small : c.val < 0x10000 := by simpa [CodePoint.isSupplementary] using flat
    refine ⟨⟨c.val, small⟩, rfl, ?_⟩
    rw [Text.units_cons, CodePoint.units_of_lt small]
    rfl
  | c :: d :: t =>
    simp only [Text.unitLength, List.length_cons] at one
    omega

theorem units_sliceUnits (t : Text) (start stop : Option Int) :
    (t.sliceUnits start stop).units = cut t.units start stop := by
  rw [sliceUnits]
  split
  · exact units_ofUnits _
  · rename_i plain
    have flat : t.hasSupplementary = false := by simpa using plain
    have part : hasSupplementary (cut t start stop) = false := by
      simp only [hasSupplementary, List.any_eq_false] at flat ⊢
      intro c member
      exact flat c (mem_of_mem_cut member)
    rw [units_eq_map flat, units_eq_map part, cut_map]

@[simp] theorem units_dropUnits (t : Text) (n : Nat) : (t.dropUnits n).units = t.units.drop n := by
  rw [dropUnits, units_sliceUnits, cut_drop]

@[simp] theorem units_takeUnits (t : Text) (n : Nat) : (t.takeUnits n).units = t.units.take n := by
  rw [takeUnits, units_sliceUnits, cut_take]

/-! ## Trimming -/

theorem units_trimLeft (t : Text) : t.trimLeft.units = t.units.dropWhile CodeUnit.isTrimmed :=
  (dropWhile_flatMap CodePoint.units_ne_nil (fun _ _ => CodeUnit.isTrimmed_of_mem) t).symm

theorem units_trimRight (t : Text) :
    t.trimRight.units = dropWhileRight CodeUnit.isTrimmed t.units :=
  (dropWhileRight_flatMap CodePoint.units_ne_nil (fun _ _ => CodeUnit.isTrimmed_of_mem) t).symm

theorem units_trim (t : Text) :
    t.trim.units = dropWhileRight CodeUnit.isTrimmed (t.units.dropWhile CodeUnit.isTrimmed) := by
  rw [trim, units_trimRight, units_trimLeft]

/-! ## Padding -/

theorem units_missingSpaces (t : Text) (width : Nat) :
    (t.missingSpaces width).units = List.replicate (width - t.units.length) 0x20 := by
  rw [missingSpaces, length_units]
  generalize width - t.unitLength = n
  induction n with
  | zero => rfl
  | succ n ih =>
    rw [List.replicate_succ, units_cons, ih]
    rfl

theorem units_padLeft (t : Text) (width : Nat) :
    (t.padLeft width).units = List.replicate (width - t.units.length) 0x20 ++ t.units := by
  rw [padLeft, units_append, units_missingSpaces]

theorem units_padRight (t : Text) (width : Nat) :
    (t.padRight width).units = t.units ++ List.replicate (width - t.units.length) 0x20 := by
  rw [padRight, units_append, units_missingSpaces]

end Text

/-! ## Matching -/

namespace Comparator

variable (c : Comparator)

theorem folded_take (n : Nat) (us : List CodeUnit) :
    c.folded (us.take n) = (c.folded us).take n := by
  rw [folded, List.map_take]
  rfl

theorem folded_drop (n : Nat) (us : List CodeUnit) :
    c.folded (us.drop n) = (c.folded us).drop n := by
  rw [folded, List.map_drop]
  rfl

theorem all_unitsEqual_iff {as bs : List CodeUnit} (lengths : as.length = bs.length) :
    ((as.zip bs).all fun p => c.unitsEqual p.1.val p.2.val) = true ↔ c.folded as = c.folded bs := by
  induction as generalizing bs with
  | nil =>
    cases bs with
    | nil => simp
    | cons b bs => simp at lengths
  | cons a as ih =>
    cases bs with
    | nil => simp at lengths
    | cons b bs =>
      have rest : as.length = bs.length := by simpa using lengths
      rw [List.zip_cons_cons, List.all_cons, Bool.and_eq_true, ih rest, unitsEqual_iff, folded_cons,
        folded_cons, List.cons.injEq]

theorem matchesAt_iff (as bs : List CodeUnit) (i j length : Nat) :
    c.matchesAt as i bs j length = true ↔ i + length ≤ as.length ∧ j + length ≤ bs.length ∧
      c.folded ((as.drop i).take length) = c.folded ((bs.drop j).take length) := by
  simp only [matchesAt, Bool.and_eq_true, decide_eq_true_eq, and_assoc]
  constructor
  · rintro ⟨first, second, same⟩
    refine ⟨first, second, (c.all_unitsEqual_iff ?_).mp same⟩
    simp only [List.length_take, List.length_drop]
    omega
  · rintro ⟨first, second, same⟩
    refine ⟨first, second, (c.all_unitsEqual_iff ?_).mpr same⟩
    simp only [List.length_take, List.length_drop]
    omega

/-- All of a sequence matches the beginning of another one exactly when its folded form is a
    beginning of the other's. -/
theorem matchesAt_start_iff (as bs : List CodeUnit) :
    c.matchesAt as 0 bs 0 bs.length = true ↔ c.folded bs <+: c.folded as := by
  rw [matchesAt_iff, List.drop_zero, List.drop_zero, List.take_length, folded_take,
    List.prefix_iff_eq_take, length_folded]
  constructor
  · rintro ⟨_, _, same⟩
    exact same.symm
  · intro same
    have counted := congrArg List.length same
    rw [List.length_take, length_folded, length_folded] at counted
    exact ⟨by omega, by omega, same.symm⟩

theorem matchesAt_end_iff (as bs : List CodeUnit) :
    (bs.length ≤ as.length ∧ c.matchesAt as (as.length - bs.length) bs 0 bs.length = true) ↔
      c.folded bs <:+ c.folded as := by
  rw [matchesAt_iff, List.drop_zero, List.take_length, List.suffix_iff_eq_drop, length_folded,
    length_folded, folded_take, folded_drop]
  -- What is dropped at the front leaves just as many units as are to be taken.
  have rest : bs.length ≤ as.length →
      ((c.folded as).drop (as.length - bs.length)).take bs.length =
        (c.folded as).drop (as.length - bs.length) := by
    intro fits
    apply List.take_of_length_le
    rw [List.length_drop, length_folded]
    omega
  constructor
  · rintro ⟨fits, _, _, same⟩
    rw [rest fits] at same
    exact same.symm
  · intro same
    have counted := congrArg List.length same
    rw [List.length_drop, length_folded, length_folded] at counted
    refine ⟨by omega, by omega, by omega, ?_⟩
    rw [rest (by omega)]
    exact same.symm

end Comparator

namespace Text

theorem hasPrefix_iff (t affix : Text) (m : Comparison) :
    t.hasPrefix affix m = true ↔
      m.comparator.folded affix.units <+: m.comparator.folded t.units := by
  rw [hasPrefix, ← length_units, Comparator.matchesAt_start_iff]

theorem hasSuffix_iff (t affix : Text) (m : Comparison) :
    t.hasSuffix affix m = true ↔
      m.comparator.folded affix.units <:+ m.comparator.folded t.units := by
  rw [hasSuffix, ← length_units, ← length_units, Bool.and_eq_true, decide_eq_true_eq,
    Comparator.matchesAt_end_iff]

theorem length_le_of_hasPrefix {t affix : Text} {m : Comparison}
    (there : t.hasPrefix affix m = true) : affix.units.length ≤ t.units.length := by
  have counted := ((hasPrefix_iff t affix m).mp there).length_le
  rwa [Comparator.length_folded, Comparator.length_folded] at counted

theorem length_le_of_hasSuffix {t affix : Text} {m : Comparison}
    (there : t.hasSuffix affix m = true) : affix.units.length ≤ t.units.length := by
  have counted := ((hasSuffix_iff t affix m).mp there).length_le
  rwa [Comparator.length_folded, Comparator.length_folded] at counted

/-- An affix as long as the text is there exactly when the two are equal. -/
theorem hasPrefix_iff_equals {t affix : Text} {m : Comparison}
    (lengths : affix.units.length = t.units.length) :
    t.hasPrefix affix m = true ↔ m.equals (some t) (some affix) = true := by
  rw [hasPrefix_iff, Comparison.equals_some_iff]
  constructor
  · intro there
    exact (there.eq_of_length (by simp [lengths])).symm
  · intro same
    exact same ▸ List.prefix_refl _

theorem hasSuffix_iff_equals {t affix : Text} {m : Comparison}
    (lengths : affix.units.length = t.units.length) :
    t.hasSuffix affix m = true ↔ m.equals (some t) (some affix) = true := by
  rw [hasSuffix_iff, Comparison.equals_some_iff]
  constructor
  · intro there
    exact (there.eq_of_length (by simp [lengths])).symm
  · intro same
    exact same ▸ List.suffix_refl _

/-! ## Removing an affix -/

/-- The shortcuts of a removal agree with removing the affix where it is there: an affix as long as
    the text is there if the two are equal, a longer one never, and the empty one leaves the text. -/
theorem units_removeAffix {t affix : Text} {m : Comparison} {present : Text → Bool}
    {remove : Nat → Text}
    (fits : present affix = true → affix.units.length ≤ t.units.length)
    (whole : affix.units.length = t.units.length →
      (present affix = true ↔ m.equals (some t) (some affix) = true))
    (all : affix.units.length = t.units.length → (remove affix.units.length).units = [])
    (nothing : affix = [] → (remove affix.units.length).units = t.units) :
    (t.removeAffix (some affix) m present remove).units =
      if present affix then (remove affix.units.length).units else t.units := by
  simp only [removeAffix, ← length_units]
  split
  · rename_i unchanged
    rcases unchanged with empty | longer
    · have isEmpty : affix = [] := by simpa using empty
      rw [nothing isEmpty, ite_self]
    · rw [if_neg fun there => absurd (fits there) (by omega)]
  · split
    · rename_i _ lengths
      by_cases there : present affix = true
      · rw [if_pos there, if_pos ((whole lengths.symm).mp there), all lengths.symm, units_nil]
      · rw [if_neg there, if_neg (mt (whole lengths.symm).mpr there)]
    · split <;> rfl

theorem units_removeLeft (t affix : Text) (m : Comparison) :
    (t.removeLeft (some affix) m).units =
      if t.hasPrefix affix m then t.units.drop affix.units.length else t.units := by
  rw [removeLeft, units_removeAffix length_le_of_hasPrefix hasPrefix_iff_equals, units_dropUnits]
  · intro lengths
    rw [units_dropUnits, lengths, List.drop_length]
  · rintro rfl
    rw [units_dropUnits, units_nil, List.length_nil, List.drop_zero]

theorem units_removeRight (t affix : Text) (m : Comparison) :
    (t.removeRight (some affix) m).units =
      if t.hasSuffix affix m then t.units.take (t.units.length - affix.units.length)
      else t.units := by
  rw [removeRight, units_removeAffix length_le_of_hasSuffix hasSuffix_iff_equals, units_takeUnits,
    length_units t]
  · intro lengths
    rw [units_takeUnits, lengths, length_units, Nat.sub_self, List.take_zero]
  · rintro rfl
    rw [units_takeUnits, units_nil, List.length_nil, Nat.sub_zero, ← length_units, List.take_length]

end Text

end UnitText
