import UnitText.Proofs.EdgeRuns
import UnitText.Proofs.RoundTrip
import UnitText.Proofs.StepwiseOperations

/-!
# The texts that spell a truth value

A truth value is spelled by ten words, five for each value, in any mixture of capital and small ASCII
letters and with anything up to U+0020 around it. Three things could have made it more than that: a
capital letter of another alphabet may become an ASCII letter in lower case, one unit is compared in
another way than several are, and what is blank is decided before the trimming and by another class of
units. The letters that come from outside ASCII are `i` and `k`, and no word has one of them.
-/

namespace UnitText

/-! ## Lower case and ASCII -/

/-- The run of the ASCII letters. -/
def asciiRun : CaseRun := ⟨0x41, 0x5A, 1, 0x20⟩

theorem asciiRun_covers_iff (n : Nat) : asciiRun.covers n = true ↔ 0x41 ≤ n ∧ n ≤ 0x5A := by
  rw [CaseRun.covers_iff]
  simp [asciiRun, Nat.mod_one]

/-- Beyond the ASCII letters two others have one of them as their lower-case form: the dotted capital I
    and the Kelvin sign. -/
theorem caseRuns_around_ascii : ∀ r ∈ caseRuns, r = asciiRun ∨
    (0x80 ≤ r.first ∧ (0x80 ≤ (r.first : Int) + r.shift ∨
      (r.first = r.last ∧ ((r.first : Int) + r.shift = 0x69 ∨ (r.first : Int) + r.shift = 0x6B)))) := by
  decide +kernel

theorem simpleLower_of_ascii {n : Nat} (ascii : n < 0x80) :
    simpleLower n = if 0x41 ≤ n ∧ n ≤ 0x5A then n + 0x20 else n := by
  rcases simpleLower_cases n with ⟨r, member, covered, lower⟩ | ⟨uncovered, stays⟩
  · rcases caseRuns_around_ascii r member with rfl | ⟨far, _⟩
    · rw [if_pos ((asciiRun_covers_iff n).mp covered), lower]
      rfl
    · rw [CaseRun.covers_iff] at covered
      omega
  · have noCapital : ¬ (0x41 ≤ n ∧ n ≤ 0x5A) := fun capital =>
      uncovered asciiRun List.mem_cons_self ((asciiRun_covers_iff n).mpr capital)
    rw [if_neg noCapital, stays]

theorem simpleLower_beyond_ascii {n : Nat} (beyond : 0x80 ≤ n) :
    0x80 ≤ simpleLower n ∨ simpleLower n = 0x69 ∨ simpleLower n = 0x6B := by
  rcases simpleLower_cases n with ⟨r, member, covered, lower⟩ | ⟨_, stays⟩
  · rcases caseRuns_around_ascii r member with rfl | ⟨_, target⟩
    · rw [asciiRun_covers_iff] at covered
      omega
    · rw [CaseRun.covers_iff] at covered
      omega
  · omega

/-- Whether a code point is ASCII, no capital letter, and the lower-case form of nothing beyond ASCII. -/
def isPlain (c : CodePoint) : Bool :=
  decide (c.val < 0x80) && !(decide (0x41 ≤ c.val) && decide (c.val ≤ 0x5A)) && c.val != 0x69 &&
    c.val != 0x6B

theorem lt_of_isPlain {d : CodePoint} (plain : isPlain d = true) : d.val < 0x80 := by
  simp only [isPlain, Bool.and_eq_true, decide_eq_true_eq] at plain
  exact plain.1.1.1

/-- What looks like a plain code point to the comparison that ignores case is that code point or its
    ASCII capital. -/
theorem fold_eq_iff_of_isPlain {d : CodePoint} (plain : isPlain d = true) (c : CodePoint) :
    Comparison.exactIgnoreCase.comparator.fold c.val =
      Comparison.exactIgnoreCase.comparator.fold d.val ↔ lowerAscii c = d := by
  refine Int.ofNat_inj.trans ?_
  have ascii := lt_of_isPlain plain
  simp only [isPlain, Bool.and_eq_true, Bool.not_eq_true', decide_eq_true_eq, bne_iff_ne,
    Bool.and_eq_false_iff, decide_eq_false_iff_not] at plain
  obtain ⟨⟨⟨_, small⟩, noI⟩, noK⟩ := plain
  have kept : simpleLower d.val = d.val := by
    rw [simpleLower_of_ascii ascii, if_neg (by omega)]
  rw [kept, Fin.ext_iff, lowerAscii_val]
  by_cases beyond : 0x80 ≤ c.val
  · have target := simpleLower_beyond_ascii beyond
    rw [if_neg (by omega)]
    omega
  · rw [simpleLower_of_ascii (by omega)]

/-- A text looks like a plain one to the comparison that ignores case if it is that text in ASCII letters
    of either case. -/
theorem folded_units_eq_iff {w : Text} (plain : ∀ d ∈ w, isPlain d = true) (t : Text) :
    Comparison.exactIgnoreCase.comparator.folded t.units =
      Comparison.exactIgnoreCase.comparator.folded w.units ↔ t.map lowerAscii = w := by
  induction t generalizing w with
  | nil =>
    rw [Comparator.folded, Comparator.folded, Text.units_nil, List.map_nil, List.map_nil, eq_comm,
      List.map_eq_nil_iff, Text.units_eq_nil_iff, eq_comm]
  | cons c t ih =>
    cases w with
    | nil => simp [Comparator.folded, CodePoint.units_ne_nil]
    | cons d w =>
      obtain ⟨first, later⟩ := List.forall_mem_cons.mp plain
      have ascii := lt_of_isPlain first
      rw [List.map_cons, List.cons.injEq, Text.units_cons, Text.units_cons,
        CodePoint.units_of_lt (c := d) (by omega), List.singleton_append, Comparator.folded_cons]
      by_cases flat : c.val < 0x10000
      · rw [CodePoint.units_of_lt flat, List.singleton_append, Comparator.folded_cons,
          List.cons.injEq, fold_eq_iff_of_isPlain first, ih later]
      · -- The two halves of a pair stay what they are in lower case.
        obtain ⟨high, low, isHigh, _, written, _⟩ := CodePoint.exists_pair flat
        rw [written, List.cons_append, Comparator.folded_cons, List.cons.injEq]
        have far : ∀ e : CodePoint, 0x80 ≤ e.val → lowerAscii e ≠ d := by
          intro e beyond same
          rw [Fin.ext_iff, lowerAscii_val, if_neg (by omega)] at same
          omega
        have above : 0x80 ≤ high.toCodePoint.val := by
          simp only [CodeUnit.isHigh, decide_eq_true_eq] at isHigh
          exact Nat.le_trans (by decide) isHigh.1
        constructor
        · rintro ⟨alike, _⟩
          exact absurd ((fold_eq_iff_of_isPlain first high.toCodePoint).mp alike) (far _ above)
        · rintro ⟨alike, _⟩
          exact absurd alike (far c (by omega))

/-! ## The ten words -/

/-- The way in which a truth value is spelled. -/
def Spelling.ofTruth : Bool → Spelling
  | true => .affirmative
  | false => .negative

theorem isPlain_of_mem_truthSpellings {b : Bool} {w : Text} (member : w ∈ truthSpellings b) :
    ∀ d ∈ w, isPlain d = true := by
  have all : ((truthSpellings b).all fun w => w.all isPlain) = true := by cases b <;> decide
  intro d inside
  exact List.all_eq_true.mp (List.all_eq_true.mp all w member) d inside

/-- The words for the two truth values as the comparison that ignores case sees them. -/
theorem map_folded_truthSpellings (b : Bool) :
    (truthSpellings b).map (fun w => Comparison.exactIgnoreCase.comparator.folded w.units) =
      (Spelling.ofTruth b).words.map
          (fun w => Comparison.exactIgnoreCase.comparator.folded w.units) ++
        (Spelling.ofTruth b).letters.map fun n : Nat => [(n : Int)] := by
  cases b <;> rfl

theorem length_words {b : Bool} {w : Text} (member : w ∈ (Spelling.ofTruth b).words) :
    1 < w.unitLength := by
  have all : ((Spelling.ofTruth b).words.all fun w => decide (1 < w.unitLength)) = true := by
    cases b <;> decide
  simpa using List.all_eq_true.mp all w member

/-- A text spells a truth value if, once trimmed, it looks like one of the words for it. Whether it is one
    unit or more makes no difference, and no text that is blank does. -/
theorem accepts_iff_folded (b : Bool) (t : Text) :
    (Spelling.ofTruth b).accepts (some t) = true ↔
      isBlank (some t) = false ∧
        Comparison.exactIgnoreCase.comparator.folded t.trim.units ∈
          (truthSpellings b).map
            fun w => Comparison.exactIgnoreCase.comparator.folded w.units := by
  rw [map_folded_truthSpellings, List.mem_append]
  cases blank : isBlank (some t) with
  | true => simp [Spelling.accepts, blank]
  | false =>
    rw [Stepwise.accepts_some _ t blank]
    split
    · rename_i one
      obtain ⟨u, _, units⟩ := Text.exists_toCodePoint_of_unitLength one
      have noWord : Comparison.exactIgnoreCase.comparator.folded [u] ∉
          (Spelling.ofTruth b).words.map
            fun w => Comparison.exactIgnoreCase.comparator.folded w.units := by
        intro member
        obtain ⟨w, isWord, same⟩ := List.mem_map.mp member
        have longer := length_words isWord
        have counted := congrArg List.length same
        rw [Comparator.length_folded, Text.length_units, Comparator.length_folded,
          List.length_singleton] at counted
        omega
      simp only [units, noWord, false_or, true_and, List.any_cons, List.any_nil, Bool.or_false,
        List.contains_iff_mem, List.mem_map]
      constructor
      · intro member
        exact ⟨_, member, rfl⟩
      · rintro ⟨n, member, same⟩
        have letter : n = simpleLower u.val := Int.ofNat.inj (List.cons.inj same).1
        exact letter ▸ member
    · rename_i several
      have noLetter : Comparison.exactIgnoreCase.comparator.folded t.trim.units ∉
          (Spelling.ofTruth b).letters.map fun n : Nat => [(n : Int)] := by
        intro member
        obtain ⟨n, _, same⟩ := List.mem_map.mp member
        have counted := congrArg List.length same
        rw [Comparator.length_folded, Text.length_units, List.length_singleton] at counted
        omega
      simp only [noLetter, or_false, true_and, List.any_eq_true, Comparison.equals_some_iff,
        List.mem_map]
      constructor
      · rintro ⟨w, member, same⟩
        exact ⟨w, member, same.symm⟩
      · rintro ⟨w, member, same⟩
        exact ⟨w, member, same.symm⟩

theorem isBlank_trim {t : Text} (blank : isBlank (some t) = true) : isBlank (some t.trim) = true := by
  obtain ⟨lead, trail, whole, _⟩ := t.exists_blanks_around
  rw [whole, isBlank_append, isBlank_append, Bool.and_eq_true, Bool.and_eq_true] at blank
  exact blank.1.2

/-- The texts that spell a truth value. -/
theorem accepts_iff (b : Bool) (t : Text) :
    (Spelling.ofTruth b).accepts (some t) = true ↔
      t.trim.map lowerAscii ∈ truthSpellings b := by
  have looks : Comparison.exactIgnoreCase.comparator.folded t.trim.units ∈
      (truthSpellings b).map (fun w => Comparison.exactIgnoreCase.comparator.folded w.units) ↔
        t.trim.map lowerAscii ∈ truthSpellings b := by
    rw [List.mem_map]
    constructor
    · rintro ⟨w, member, same⟩
      have spelled := (folded_units_eq_iff (isPlain_of_mem_truthSpellings member) t.trim).mp same.symm
      exact spelled ▸ member
    · intro member
      have same := (folded_units_eq_iff (isPlain_of_mem_truthSpellings member) t.trim).mpr rfl
      exact ⟨_, member, same.symm⟩
  rw [accepts_iff_folded, looks]
  constructor
  · exact And.right
  · intro member
    refine ⟨?_, member⟩
    have word := isWord_of_map_lowerAscii (Setting.truth?_of_truthSpellings member).1
    have marked := isBlank_of_isWord word
    rw [Bool.eq_false_iff]
    intro blank
    rw [isBlank_trim blank] at marked
    cases marked

/-- No text spells both truth values. -/
theorem eq_of_accepts {b b' : Bool} {value : Option Text}
    (first : (Spelling.ofTruth b).accepts value = true)
    (second : (Spelling.ofTruth b').accepts value = true) : b = b' := by
  cases value with
  | none => cases first
  | some t =>
    have spelled := Setting.truth?_of_truthSpellings ((accepts_iff b t).mp first)
    have spelled' := Setting.truth?_of_truthSpellings ((accepts_iff b' t).mp second)
    exact Option.some.inj (spelled.2.symm.trans spelled'.2)

/-- The two tests of a truth value can be made in either order. -/
theorem truth?_eq_swapped (t : Text) :
    Environment.truth? t =
      if spellsFalse (some t) then some false
      else if spellsTrue (some t) then some true else none := by
  unfold Environment.truth?
  cases yes : spellsTrue (some t) with
  | false => cases spellsFalse (some t) <;> rfl
  | true =>
    cases no : spellsFalse (some t) with
    | false => rfl
    | true => exact absurd (@eq_of_accepts true false _ yes no) (by decide)

/-- Nothing beyond ASCII is in a text that spells a truth value, neither within the word nor around
    it. -/
theorem lt_of_accepts {b : Bool} {t : Text} (accepted : (Spelling.ofTruth b).accepts (some t) = true) :
    ∀ c ∈ t, c.val < 0x80 := by
  have word := isWord_of_map_lowerAscii
    (Setting.truth?_of_truthSpellings ((accepts_iff b t).mp accepted)).1
  obtain ⟨lead, trail, whole, around⟩ := t.exists_blanks_around
  intro c member
  rw [whole, List.append_assoc, List.mem_append, List.mem_append] at member
  rcases member with before | within | behind
  · exact Nat.lt_of_le_of_lt (around c (List.mem_append_left trail before)) (by decide)
  · exact Nat.lt_trans (word.2 c within).2 (by decide)
  · exact Nat.lt_of_le_of_lt (around c (List.mem_append_right lead behind)) (by decide)

theorem unitLength_eq_one_iff (t : Text) :
    t.unitLength = 1 ↔ ∃ u : CodeUnit, t = [u.toCodePoint] := by
  constructor
  · intro one
    obtain ⟨u, single, _⟩ := Text.exists_toCodePoint_of_unitLength one
    exact ⟨u, single⟩
  · rintro ⟨u, rfl⟩
    rw [← Text.length_units, Text.units_cons, CodeUnit.units_toCodePoint]
    rfl

namespace Request

/-- The request whether a text spells a truth value. -/
def spells (b : Bool) (value : Option Text) : Request :=
  if b then .spellsTrue value else .spellsFalse value

theorem run_spells (b : Bool) (value : Option Text) :
    (spells b value).run = .ok (.flag ((Spelling.ofTruth b).accepts value)) := by
  cases b <;> rfl

/-- The texts that spell a truth value are those that are one of five words for it once they are trimmed
    and their ASCII capitals are made small. No text spells both values, so a variable is read in the same
    way if the two tests are swapped, and nothing beyond ASCII is in such a text. Taken step by step, the
    test ends in no fault: it asks for the number of the only code point of the trimmed text if that has
    one unit, and then it is one code point. -/
theorem spells_iff_mem_truthSpellings :
    (∀ (b : Bool) (value : Option Text), ∃ accepted : Bool,
      (spells b value).run = .ok (.flag accepted) ∧
      (accepted = true ↔ ∃ t, value = some t ∧ t.trim.map lowerAscii ∈ truthSpellings b)) ∧
    (∀ value, ¬ ((spells true value).run = .ok (.flag true) ∧
      (spells false value).run = .ok (.flag true))) ∧
    (∀ (b : Bool) (t : Text), (spells b (some t)).run = .ok (.flag true) → ∀ c ∈ t, c.val < 0x80) ∧
    (∀ (env : Environment) (var : Text), env.getBool var = env.readBy var "boolean" fun t =>
      if UnitText.spellsFalse (some t) then some false
      else if UnitText.spellsTrue (some t) then some true else none) ∧
    (∀ (b : Bool) (value : Option Text), Stepwise.accepts (Spelling.ofTruth b) value =
      .ok ((Spelling.ofTruth b).accepts value)) ∧
    ∀ t : Text, t.trim.unitLength = 1 ↔ ∃ u : CodeUnit, t.trim = [u.toCodePoint] := by
  have answered_iff (b : Bool) (value : Option Text) :
      (spells b value).run = .ok (.flag true) ↔ (Spelling.ofTruth b).accepts value = true := by
    rw [run_spells, Except.ok.injEq, Answer.flag.injEq]
  refine ⟨?_, ?_, ?_, ?_, ?_, ?_⟩
  · intro b value
    refine ⟨_, run_spells b value, ?_⟩
    cases value with
    | none => simp [Spelling.accepts]
    | some t => simp [accepts_iff]
  · intro value both
    rw [answered_iff, answered_iff] at both
    exact absurd (eq_of_accepts both.1 both.2) (by decide)
  · intro b t answered
    exact lt_of_accepts ((answered_iff b (some t)).mp answered)
  · intro env var
    rw [Environment.getBool, funext truth?_eq_swapped]
  · intro b value
    exact Stepwise.accepts_eq _ value
  · intro t
    exact unitLength_eq_one_iff t.trim

/-- A word in mixed letters, with a control and blanks around it. -/
theorem spells_iff_mem_truthSpellings_mixed :
    (spells true (some (text "\x01\tYeS "))).run = .ok (.flag true) ∧
      ∀ c ∈ text "\x01\tYeS ", c.val < 0x80 := by
  have whole := spells_iff_mem_truthSpellings
  have answered : (spells true (some (text "\x01\tYeS "))).run = .ok (.flag true) := by
    obtain ⟨accepted, answered, spelled⟩ := whole.1 true (some (text "\x01\tYeS "))
    rw [answered, spelled.mpr ⟨_, rfl, by decide⟩]
  exact ⟨answered, whole.2.2.1 true _ answered⟩

/-- The long s is no s, though its capital is. -/
example : UnitText.spellsTrue (some [0x79, 0x65, 0x17F]) = false := by decide

end Request

end UnitText
