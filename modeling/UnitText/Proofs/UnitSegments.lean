import UnitText.Proofs.Splitting

/-!
# Segments seen through the units

A split looks for delimiters among the code points of a text. To look for them among its units gives the
units of the same segments, unless one half of a pair that is one code point is a delimiter: then there
is a unit to be cut at which no code point shows. The number of segments tells the two apart, since
it counts the delimiters.
-/

namespace UnitText

/-! ## Lists of words -/

section Words

variable {α β : Type} {word : α → List β} {p : α → Bool} {q : β → Bool}

theorem splitOnP_append_plain {before : List β} (plain : ∀ b ∈ before, q b = false)
    (rest : List β) :
    (before ++ rest).splitOnP q = (rest.splitOnP q).modifyHead (before ++ ·) := by
  induction before with
  | nil =>
    obtain ⟨first, others, found⟩ := List.exists_cons_of_ne_nil (List.splitOnP_ne_nil q rest)
    rw [List.nil_append, found]
    rfl
  | cons b before ih =>
    have first := plain b (List.mem_cons_self ..)
    rw [List.cons_append, List.splitOnP_cons_eq_if_modifyHead, if_neg (by simp [first]),
      ih fun d member => plain d (List.mem_cons_of_mem b member), List.modifyHead_modifyHead]
    rfl

variable (single : ∀ a, p a = true → ∃ b, word a = [b] ∧ q b = true)

include single

/-- Where a word that is a delimiter is one entry, and no other word holds a delimiter, cutting between
    entries is cutting between words. -/
theorem splitOnP_flatMap {l : List α} (plain : ∀ a ∈ l, p a = false → ∀ b ∈ word a, q b = false) :
    (l.flatMap word).splitOnP q = (l.splitOnP p).map (·.flatMap word) := by
  induction l with
  | nil => simp
  | cons a l ih =>
    have later := ih fun b member => plain b (List.mem_cons_of_mem a member)
    rw [List.flatMap_cons, List.splitOnP_cons_eq_if_modifyHead]
    cases delimiter : p a with
    | true =>
      obtain ⟨b, alone, hit⟩ := single a delimiter
      rw [alone, List.singleton_append, List.splitOnP_cons_eq_if_modifyHead, if_pos hit, later]
      rfl
    | false =>
      obtain ⟨first, others, found⟩ := List.exists_cons_of_ne_nil (List.splitOnP_ne_nil p l)
      rw [splitOnP_append_plain (plain a (List.mem_cons_self ..) delimiter), later, found]
      simp

theorem countP_le_countP_flatMap (l : List α) : l.countP p ≤ (l.flatMap word).countP q := by
  induction l with
  | nil => simp
  | cons a l ih =>
    rw [List.flatMap_cons, List.countP_append, List.countP_cons]
    split
    · rename_i delimiter
      obtain ⟨b, alone, hit⟩ := single a delimiter
      rw [alone, List.countP_singleton, if_pos hit]
      omega
    · omega

/-- A delimiter in a word that is none itself is one more. -/
theorem countP_lt_countP_flatMap {l : List α} {a : α} {b : β} (member : a ∈ l) (plain : p a = false)
    (inside : b ∈ word a) (hit : q b = true) : l.countP p < (l.flatMap word).countP q := by
  obtain ⟨before, after, rfl⟩ := List.append_of_mem member
  have front := countP_le_countP_flatMap single before
  have back := countP_le_countP_flatMap single after
  have within : 0 < (word a).countP q := List.countP_pos_iff.mpr ⟨b, inside, hit⟩
  have none : ¬ p a = true := by simp [plain]
  rw [List.flatMap_append, List.flatMap_cons, List.countP_append, List.countP_append,
    List.countP_append, List.countP_cons_of_neg none]
  omega

/-- Cutting between entries is cutting between words exactly if no word that is no delimiter holds
    one. -/
theorem splitOnP_flatMap_iff (l : List α) :
    (l.splitOnP p).map (·.flatMap word) = (l.flatMap word).splitOnP q ↔
      ∀ a ∈ l, p a = false → ∀ b ∈ word a, q b = false := by
  constructor
  · intro same a member plain b inside
    by_contra hit
    have more := countP_lt_countP_flatMap single member plain inside (by simpa using hit)
    have counted := congrArg List.length same
    rw [List.length_map, length_splitOnP, length_splitOnP] at counted
    omega
  · intro plain
    exact (splitOnP_flatMap single plain).symm

end Words

/-! ## Units of segments -/

section Units

variable (ds : List CodeUnit)

theorem units_of_isAmong {c : CodePoint} (delimiter : isAmong ds c = true) :
    ∃ u, c.units = [u] ∧ ds.contains u = true := by
  obtain ⟨d, member, rfl⟩ := isAmong_iff.mp delimiter
  exact ⟨d, CodeUnit.units_toCodePoint d, by simpa using member⟩

/-- Only half of a pair can be a delimiter where the code point is none. -/
theorem forall_units_iff (c : CodePoint) :
    (isAmong ds c = false → ∀ u ∈ c.units, ds.contains u = false) ↔
      (c.isSupplementary = true → ∀ u ∈ c.units, u ∉ ds) := by
  simp only [List.contains_eq_mem, decide_eq_false_iff_not]
  by_cases flat : c.val < 0x10000
  · have plane : ¬ c.isSupplementary = true := by simpa [CodePoint.isSupplementary] using flat
    refine iff_of_true ?_ fun supplementary => absurd supplementary plane
    intro notAmong u inside delimiter
    rw [CodePoint.units_of_lt flat, List.mem_singleton] at inside
    have among : isAmong ds c = true := isAmong_iff.mpr ⟨u, delimiter, by rw [inside]; rfl⟩
    rw [among] at notAmong
    cases notAmong
  · have supplementary : c.isSupplementary = true := by
      simpa [CodePoint.isSupplementary] using flat
    have notAmong : isAmong ds c = false := by
      by_contra among
      obtain ⟨d, _, rfl⟩ := isAmong_iff.mp (by simpa using among)
      exact flat d.isLt
    simp [supplementary, notAmong]

theorem map_units_segments_iff (t : Text) :
    (segments (isAmong ds) t).map Text.units = t.units.splitOnP ds.contains ↔
      ∀ c ∈ t, c.isSupplementary = true → ∀ u ∈ c.units, u ∉ ds := by
  have words : (t.splitOnP (isAmong ds)).map (·.flatMap CodePoint.units) =
      (t.flatMap CodePoint.units).splitOnP ds.contains ↔ _ :=
    splitOnP_flatMap_iff (fun _ => units_of_isAmong ds) t
  rw [segments_eq_splitOnP]
  refine words.trans (forall₂_congr fun c _ => ?_)
  exact forall_units_iff ds c

end Units

/-- The segments of a text have the units that come from cutting its units at every delimiter exactly if no
    half of a supplementary code point of the text is a delimiter. -/
theorem Request.split_units_iff (ds : List CodeUnit) {t : Text} (nonempty : t ≠ []) :
    ∃ parts : List Text,
      (split (some t) (some (delimiterValues ds)) false).run = .ok (.texts parts) ∧
      (parts.map Text.units = t.units.splitOnP ds.contains ↔
        ∀ c ∈ t, c.isSupplementary = true → ∀ u ∈ c.units, u ∉ ds) := by
  refine ⟨segments (isAmong ds) t, ?_, map_units_segments_iff ds t⟩
  rw [run_split, Option.getD_some, Scan.run_of_ne_nil t nonempty]
  rfl

/-- A delimiter that is the first half of a pair cuts the units of the pair, and one that only stands alone
    cuts nothing else. -/
theorem Request.split_units_iff_half :
    (([0xD83D, 0x1F600] : Text) ≠ [] ∧ ∃ parts : List Text,
      (split (some [0xD83D, 0x1F600]) (some (delimiterValues [0xD83D])) false).run =
        .ok (.texts parts) ∧
      parts.map Text.units ≠
        (Text.units [0xD83D, 0x1F600]).splitOnP [0xD83D].contains) ∧
    (([0xD83E, 0x1F600] : Text) ≠ [] ∧ ∃ parts : List Text,
      (split (some [0xD83E, 0x1F600]) (some (delimiterValues [0xD83E])) false).run =
        .ok (.texts parts) ∧
      parts.map Text.units =
        (Text.units [0xD83E, 0x1F600]).splitOnP [0xD83E].contains) := by
  have first : ([0xD83D, 0x1F600] : Text) ≠ [] := by decide
  have second : ([0xD83E, 0x1F600] : Text) ≠ [] := by decide
  obtain ⟨parts, found, apart⟩ := split_units_iff [0xD83D] first
  obtain ⟨others, foundToo, together⟩ := split_units_iff [0xD83E] second
  refine ⟨⟨first, parts, found, ?_⟩, second, others, foundToo, together.mpr ?_⟩
  · intro same
    exact apart.mp same 0x1F600 (by simp) (by decide) 0xD83D (by decide) (by decide)
  · intro c member supplementary u inside
    rcases List.mem_pair.mp member with rfl | rfl
    · exact absurd supplementary (by decide)
    · have halves : CodePoint.units 0x1F600 = [0xD83D, 0xDE00] := by decide
      rw [halves] at inside
      rcases List.mem_pair.mp inside with rfl | rfl <;> decide

end UnitText
