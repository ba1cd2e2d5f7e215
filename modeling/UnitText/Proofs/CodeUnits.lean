import UnitText.Proofs.Ordinal
import Mathlib.Data.List.Chain

/-!
# The codec between texts and code units

`Text.ofUnits` reads greedily, with one unit of lookahead, and `Text.units` writes. Writing undoes
reading on every sequence of units. Reading undoes writing on the texts that hold no surrogate pair
as two code points (`Text.IsPaired`), and on no others, since reading never leaves such a pair.
-/

namespace UnitText

/-- A computation that goes on after a first step succeeds exactly when both parts do. -/
theorem bind_eq_ok_iff {ε α β : Type} {x : Except ε α} {f : α → Except ε β} {b : β} :
    x >>= f = .ok b ↔ ∃ a, x = .ok a ∧ f a = .ok b := by
  cases x <;> simp [bind, Except.bind]

theorem mapError_eq_ok_iff {ε ε' α : Type} {x : Except ε α} {f : ε → ε'} {a : α} :
    x.mapError f = .ok a ↔ x = .ok a := by
  cases x with
  | error e => exact iff_of_false (fun read => by cases read) (fun read => by cases read)
  | ok b => exact ⟨fun read => congrArg Except.ok (Except.ok.inj read),
      fun read => congrArg Except.ok (Except.ok.inj read)⟩

namespace CodePoint

/-- Whether a code point is a surrogate of the kind that comes first in a pair. -/
def isHigh (c : CodePoint) : Bool := decide (0xD800 ≤ c.val ∧ c.val ≤ 0xDBFF)

/-- Whether a code point is a surrogate of the kind that comes second in a pair. -/
def isLow (c : CodePoint) : Bool := decide (0xDC00 ≤ c.val ∧ c.val ≤ 0xDFFF)

/-- Outside the supplementary planes a code point is its own unit. -/
theorem units_of_lt {c : CodePoint} (h : c.val < 0x10000) : c.units = [⟨c.val, h⟩] := by
  rw [units, dif_pos h]

end CodePoint

namespace CodeUnit

@[simp] theorem units_toCodePoint (u : CodeUnit) : u.toCodePoint.units = [u] := by
  exact CodePoint.units_of_lt u.isLt

@[simp] theorem isHigh_toCodePoint (u : CodeUnit) : u.toCodePoint.isHigh = u.isHigh := rfl

@[simp] theorem isLow_toCodePoint (u : CodeUnit) : u.toCodePoint.isLow = u.isLow := rfl

theorem val_pair (u v : CodeUnit) :
    (pair u v).val = 0x10000 + (u.val % 0x400) * 0x400 + v.val % 0x400 := rfl

/-- A pair is neither half of a further pair. -/
@[simp] theorem isHigh_pair (u v : CodeUnit) : (pair u v).isHigh = false := by
  rw [CodePoint.isHigh, decide_eq_false_iff_not, val_pair]
  omega

@[simp] theorem isLow_pair (u v : CodeUnit) : (pair u v).isLow = false := by
  rw [CodePoint.isLow, decide_eq_false_iff_not, val_pair]
  omega

/-- A pair is written as the two units that it was read from. -/
theorem units_pair {u v : CodeUnit} (high : u.isHigh = true) (low : v.isLow = true) :
    (pair u v).units = [u, v] := by
  simp only [isHigh, isLow, decide_eq_true_eq] at high low
  have above : ¬ (pair u v).val < 0x10000 := by
    rw [val_pair]
    omega
  rw [CodePoint.units, dif_neg above]
  simp only [List.cons.injEq, Fin.ext_iff, val_pair, and_true]
  constructor <;> omega

end CodeUnit

/-- A supplementary code point is written as a high unit and a low one, which encode it. -/
theorem CodePoint.exists_pair {c : CodePoint} (h : ¬ c.val < 0x10000) :
    ∃ u v : CodeUnit, u.isHigh = true ∧ v.isLow = true ∧ c.units = [u, v] ∧
      CodeUnit.pair u v = c := by
  have bound := c.isLt
  rw [units, dif_neg h]
  refine ⟨_, _, ?_, ?_, rfl, ?_⟩
  · simp only [CodeUnit.isHigh, decide_eq_true_eq]
    omega
  · simp only [CodeUnit.isLow, decide_eq_true_eq]
    omega
  · simp only [Fin.ext_iff, CodeUnit.val_pair]
    omega

namespace Text

/-- No high surrogate of the text is followed at once by a low one. -/
def IsPaired (t : Text) : Prop := t.IsChain fun c d => ¬ (c.isHigh = true ∧ d.isLow = true)

instance instDecidableIsPaired (t : Text) : Decidable t.IsPaired :=
  inferInstanceAs (Decidable (t.IsChain fun c d => ¬ (c.isHigh = true ∧ d.isLow = true)))

/-- A text is paired when it cannot be cut between a high surrogate and a low one. -/
theorem isPaired_iff (t : Text) :
    t.IsPaired ↔ ¬ ∃ before high low after, t = before ++ high :: low :: after ∧
      high.isHigh = true ∧ low.isLow = true := by
  rw [IsPaired, List.isChain_iff_forall_rel_of_append_cons_cons]
  constructor
  · rintro chain ⟨before, high, low, after, split, isHigh, isLow⟩
    exact chain split ⟨isHigh, isLow⟩
  · rintro absent high low before after split ⟨isHigh, isLow⟩
    exact absent ⟨before, high, low, after, split, isHigh, isLow⟩

/-- Every sequence of units is written back as it was read. -/
@[simp] theorem units_ofUnits (us : List CodeUnit) : units (ofUnits us) = us := by
  fun_induction ofUnits us with
  | case1 => rfl
  | case2 u => simp
  | case3 u v rest pairs ih =>
    simp only [Bool.and_eq_true] at pairs
    rw [units_cons, CodeUnit.units_pair pairs.1 pairs.2, ih]
    rfl
  | case4 u v rest alone ih =>
    rw [units_cons, CodeUnit.units_toCodePoint, ih]
    rfl

theorem ofUnits_pair {u v : CodeUnit} (high : u.isHigh = true) (low : v.isLow = true)
    (rest : List CodeUnit) : ofUnits (u :: v :: rest) = CodeUnit.pair u v :: ofUnits rest := by
  rw [ofUnits, if_pos (by simp [high, low])]

/-- A unit that makes no pair with the next one is read on its own. -/
theorem ofUnits_alone {u : CodeUnit} {us : List CodeUnit}
    (alone : ∀ v ∈ us.head?, ¬ (u.isHigh = true ∧ v.isLow = true)) :
    ofUnits (u :: us) = u.toCodePoint :: ofUnits us := by
  cases us with
  | nil => rfl
  | cons v rest =>
    have apart := alone v rfl
    rw [ofUnits, if_neg (by simpa using apart)]

/-- Reading cannot start with a low surrogate unless the units do: a pair is none. -/
theorem isLow_of_head_ofUnits {us : List CodeUnit} {d : CodePoint}
    (first : d ∈ (ofUnits us).head?) (low : d.isLow = true) : ∃ v ∈ us.head?, v.isLow = true := by
  cases us with
  | nil => simp [ofUnits] at first
  | cons v rest =>
    refine ⟨v, rfl, ?_⟩
    cases rest with
    | nil =>
      obtain rfl : v.toCodePoint = d := by simpa [ofUnits] using first
      simpa using low
    | cons w rest =>
      rw [ofUnits] at first
      split at first
      · obtain rfl : CodeUnit.pair v w = d := by simpa using first
        simp at low
      · obtain rfl : v.toCodePoint = d := by simpa using first
        simpa using low

/-- Reading leaves no pair apart. -/
theorem isPaired_ofUnits (us : List CodeUnit) : IsPaired (ofUnits us) := by
  fun_induction ofUnits us with
  | case1 => exact .nil
  | case2 u => exact .singleton _
  | case3 u v rest pairs ih =>
    refine List.isChain_cons.mpr ⟨?_, ih⟩
    rintro d _ ⟨high, _⟩
    simp at high
  | case4 u v rest alone ih =>
    refine List.isChain_cons.mpr ⟨?_, ih⟩
    rintro d first ⟨high, low⟩
    -- What comes next starts low only if the unit `v` was low, and then `u` would have paired.
    obtain ⟨w, next, isLow⟩ := isLow_of_head_ofUnits first low
    obtain rfl : v = w := by simpa using next
    exact alone (by simpa [isLow] using high)

/-- A text whose units start with a low surrogate starts with that surrogate. -/
theorem isLow_of_head_units {t : Text} {v : CodeUnit} (first : v ∈ t.units.head?)
    (low : v.isLow = true) : ∃ d ∈ t.head?, d.isLow = true := by
  cases t with
  | nil => simp at first
  | cons d t =>
    refine ⟨d, rfl, ?_⟩
    by_cases h : d.val < 0x10000
    · rw [units_cons, CodePoint.units_of_lt h] at first
      obtain rfl : ⟨d.val, h⟩ = v := by simpa using first
      exact low
    · obtain ⟨u, w, isHigh, _, written, _⟩ := CodePoint.exists_pair h
      rw [units_cons, written] at first
      obtain rfl : u = v := by simpa using first
      simp only [CodeUnit.isHigh, CodeUnit.isLow, decide_eq_true_eq] at isHigh low
      omega

/-- A text without pairs that stand apart is read back as it was written. -/
theorem ofUnits_units {t : Text} (paired : t.IsPaired) : ofUnits t.units = t := by
  induction t with
  | nil => rfl
  | cons c t ih =>
    obtain ⟨next, rest⟩ := List.isChain_cons.mp paired
    by_cases h : c.val < 0x10000
    · rw [units_cons, CodePoint.units_of_lt h]
      change ofUnits (_ :: units t) = _
      -- Nothing that follows can take part in a pair with `c`, also not the half of a further pair.
      rw [ofUnits_alone, ih rest]
      · rfl
      · rintro v first ⟨high, low⟩
        obtain ⟨d, isNext, isLow⟩ := isLow_of_head_units first low
        exact next d isNext ⟨high, isLow⟩
    · obtain ⟨u, v, high, low, written, encodes⟩ := CodePoint.exists_pair h
      rw [units_cons, written]
      change ofUnits (u :: v :: units t) = _
      rw [ofUnits_pair high low, encodes, ih rest]

/-- Exactly the texts without pairs that stand apart survive writing and reading. -/
theorem ofUnits_units_iff (t : Text) : ofUnits t.units = t ↔ t.IsPaired := by
  constructor
  · intro back
    rw [← back]
    exact isPaired_ofUnits t.units
  · exact ofUnits_units

example : ¬ IsPaired [0x41, 0xD83D, 0xDE00] ∧ IsPaired [0xDE00, 0xD83D, 0x1F600] := by decide

/-- Units that are read alike are the same units. -/
theorem ofUnits_injective : Function.Injective ofUnits := by
  intro us vs same
  rw [← units_ofUnits us, same, units_ofUnits]

/-! ## Units as plain numbers -/

/-- The units of a text as numbers, in the form in which `ofUnitValues` takes them. -/
def unitValues (t : Text) : List Int := t.units.map fun u => (u.val : Int)

theorem unitOfInt_eq_ok_iff {n : Int} {u : CodeUnit} : unitOfInt n = .ok u ↔ n = u.val := by
  unfold unitOfInt
  split
  · rename_i inside
    rw [Except.ok.injEq, Fin.ext_iff]
    change n.toNat = u.val ↔ n = u.val
    omega
  · rename_i outside
    simp only [reduceCtorEq, false_iff]
    intro same
    have bound := u.isLt
    omega

/-- Numbers are read exactly when they are the values of units. -/
theorem mapM_unitOfInt_eq_ok_iff {ns : List Int} {us : List CodeUnit} :
    ns.mapM unitOfInt = .ok us ↔ ns = us.map fun u => (u.val : Int) := by
  induction ns generalizing us with
  | nil => cases us <;> simp [pure, Except.pure]
  | cons n ns ih =>
    rw [List.mapM_cons, bind_eq_ok_iff]
    constructor
    · rintro ⟨u, first, tail⟩
      obtain ⟨vs, rest, whole⟩ := bind_eq_ok_iff.mp tail
      obtain rfl : u :: vs = us := Except.ok.inj whole
      rw [unitOfInt_eq_ok_iff.mp first, ih.mp rest, List.map_cons]
    · intro values
      cases us with
      | nil => simp at values
      | cons u us =>
        obtain ⟨first, rest⟩ := List.cons.inj values
        refine ⟨u, unitOfInt_eq_ok_iff.mpr first, bind_eq_ok_iff.mpr ⟨us, ih.mpr rest, rfl⟩⟩

theorem ofUnitValues_map_val (us : List CodeUnit) :
    ofUnitValues (us.map fun u => (u.val : Int)) = .ok (ofUnits us) := by
  rw [ofUnitValues, mapM_unitOfInt_eq_ok_iff.mpr rfl]
  rfl

theorem ofUnitValues_unitValues (t : Text) :
    ofUnitValues t.unitValues = .ok (ofUnits t.units) := ofUnitValues_map_val t.units

/-- The numbers of a text's units are code units, one for each unit counted. -/
theorem mem_unitValues_bounds {t : Text} {n : Int} (h : n ∈ t.unitValues) :
    0 ≤ n ∧ n ≤ 0xFFFF := by
  obtain ⟨u, _, rfl⟩ := List.mem_map.mp h
  have bound := u.isLt
  omega

theorem length_unitValues (t : Text) : t.unitValues.length = t.unitLength := by
  rw [unitValues, List.length_map, length_units]

/-- Numbers in the range of code units are the units of a text. -/
theorem exists_units_of_bounds {ns : List Int} (inside : ∀ n ∈ ns, 0 ≤ n ∧ n ≤ 0xFFFF) :
    ∃ us : List CodeUnit, ns = us.map fun u => (u.val : Int) := by
  induction ns with
  | nil => exact ⟨[], rfl⟩
  | cons n ns ih =>
    obtain ⟨low, high⟩ := inside n (List.mem_cons_self ..)
    obtain ⟨us, rest⟩ := ih fun m hm => inside m (List.mem_cons_of_mem n hm)
    refine ⟨⟨n.toNat, by omega⟩ :: us, ?_⟩
    rw [List.map_cons, ← rest]
    congr 1
    exact (Int.toNat_of_nonneg low).symm

/-- Reading numbers fails exactly when one of them is no code unit. -/
theorem ofUnitValues_eq_error_iff (ns : List Int) :
    (∃ e, ofUnitValues ns = .error e) ↔ ∃ n ∈ ns, ¬ (0 ≤ n ∧ n ≤ 0xFFFF) := by
  constructor
  · rintro ⟨e, failed⟩
    by_contra absent
    push Not at absent
    obtain ⟨us, rfl⟩ := exists_units_of_bounds absent
    rw [ofUnitValues_map_val] at failed
    cases failed
  · rintro ⟨n, member, outside⟩
    cases read : ns.mapM unitOfInt with
    | error e => exact ⟨e, by rw [ofUnitValues, read]; rfl⟩
    | ok us =>
      rw [mapM_unitOfInt_eq_ok_iff] at read
      have written : n ∈ (ofUnits us).unitValues := by rwa [unitValues, units_ofUnits, ← read]
      exact absurd (mem_unitValues_bounds written) outside

/-- Two texts are read back alike exactly when they have the same units. -/
theorem ofUnitValues_unitValues_eq_iff (s t : Text) :
    ofUnitValues s.unitValues = ofUnitValues t.unitValues ↔ s.units = t.units := by
  rw [ofUnitValues_unitValues, ofUnitValues_unitValues, Except.ok.injEq]
  exact ofUnits_injective.eq_iff

/-- Texts and code units form a codec. Numbers are refused exactly when one of them is no code
    unit, and otherwise the text that they give has these numbers as its units. The units of a text
    are as many as are counted, and give back the text exactly when no high surrogate in it is
    followed at once by a low one. Texts that the exact comparison takes for equal are those that
    are read back alike. -/
theorem ofUnitValues_codec :
    (∀ ns : List Int,
      ((∃ e, ofUnitValues ns = .error e) ↔ ∃ n ∈ ns, ¬ (0 ≤ n ∧ n ≤ 0xFFFF)) ∧
      ((∀ n ∈ ns, 0 ≤ n ∧ n ≤ 0xFFFF) → ∃ t, ofUnitValues ns = .ok t ∧ t.unitValues = ns)) ∧
    (∀ t : Text,
      (∀ n ∈ t.unitValues, 0 ≤ n ∧ n ≤ 0xFFFF) ∧
      t.unitValues.length = t.unitLength ∧
      (ofUnitValues t.unitValues = .ok t ↔ ¬ ∃ before high low after,
        t = before ++ high :: low :: after ∧ high.isHigh = true ∧ low.isLow = true)) ∧
    (∀ s t : Text, textEquals (some s) (some t) (.named .exact) = .ok true ↔
      ofUnitValues s.unitValues = ofUnitValues t.unitValues) := by
  refine ⟨?_, ?_, ?_⟩
  · intro ns
    refine ⟨ofUnitValues_eq_error_iff ns, ?_⟩
    intro inside
    obtain ⟨us, rfl⟩ := exists_units_of_bounds inside
    refine ⟨ofUnits us, ofUnitValues_map_val us, ?_⟩
    rw [unitValues, units_ofUnits]
  · intro t
    refine ⟨fun n member => mem_unitValues_bounds member, length_unitValues t, ?_⟩
    rw [ofUnitValues_unitValues, Except.ok.injEq, ofUnits_units_iff, isPaired_iff]
  · intro s t
    rw [textEquals_named, Except.ok.injEq, Comparison.exact_equals_some_iff,
      ofUnitValues_unitValues_eq_iff]

/-- Two high surrogates before a low one, and a low one that stands alone. -/
theorem ofUnitValues_high_high_low :
    (∀ n ∈ [0xD83D, 0xD83D, 0xDE00, 0xDE00], 0 ≤ n ∧ n ≤ (0xFFFF : Int)) ∧
    ∃ t, ofUnitValues [0xD83D, 0xD83D, 0xDE00, 0xDE00] = .ok t ∧
      t.unitValues = [0xD83D, 0xD83D, 0xDE00, 0xDE00] := by
  have inside : ∀ n ∈ [0xD83D, 0xD83D, 0xDE00, 0xDE00], 0 ≤ n ∧ n ≤ (0xFFFF : Int) := by decide
  exact ⟨inside, (ofUnitValues_codec.1 _).2 inside⟩

end Text

end UnitText
