import UnitText.Proofs.CodeUnits
import UnitText.Request

/-!
# Hashes and equality

Each named comparison has a hash, which reads a text only through the folded units of that
comparison. Texts that the comparison takes for equal therefore have the same hash. The hash that
ignores case is the plain hash of the text in lower case: the lower-case form of a code unit is a
code unit again.
-/

namespace UnitText

/-- No run of letters is carried out of the Basic Multilingual Plane. -/
theorem caseRuns_bound : ∀ r ∈ caseRuns, (r.last : Int) + r.shift < 0x10000 := by
  decide +kernel

theorem CaseRun.covers_iff (r : CaseRun) (n : Nat) :
    r.covers n = true ↔ r.first ≤ n ∧ n ≤ r.last ∧ (n - r.first) % r.stride = 0 := by
  simp [covers, and_assoc]

/-- A number is moved by a run that it belongs to, or it belongs to none and stays. -/
theorem simpleLower_cases (n : Nat) :
    (∃ r ∈ caseRuns, r.covers n = true ∧ simpleLower n = (n + r.shift).toNat) ∨
      ((∀ r ∈ caseRuns, ¬ r.covers n = true) ∧ simpleLower n = n) := by
  unfold simpleLower
  cases found : caseRuns.find? (·.covers n) with
  | some r =>
    have covered : r.covers n = true := by simpa using List.find?_some found
    exact .inl ⟨r, List.mem_of_find?_eq_some found, covered, rfl⟩
  | none => exact .inr ⟨List.find?_eq_none.mp found, rfl⟩

/-- The lower-case form of a code unit is a code unit. -/
theorem simpleLower_lt {n : Nat} (h : n < 0x10000) : simpleLower n < 0x10000 := by
  rcases simpleLower_cases n with ⟨r, member, covered, lower⟩ | ⟨_, stays⟩
  · have bound := caseRuns_bound r member
    rw [CaseRun.covers_iff] at covered
    omega
  · omega

/-- The lower-case form of a code unit, as a code unit. -/
def CodeUnit.lower (u : CodeUnit) : CodeUnit := ⟨simpleLower u.val, simpleLower_lt u.isLt⟩

namespace Text

/-- The hash that belongs to a named comparison. -/
def hashUnder (m : Comparison) (t : Text) : Int :=
  match m with
  | .exact => t.hash
  | .exactIgnoreCase => t.hashIgnoreCase

theorem hashUnder_exact (t : Text) : t.hashUnder .exact = t.hash := rfl

theorem hashUnder_exactIgnoreCase (t : Text) :
    t.hashUnder .exactIgnoreCase = t.hashIgnoreCase := rfl

/-- The hash depends only on the form under which its comparison sees the text. -/
theorem hashUnder_eq (m : Comparison) (t : Text) :
    t.hashUnder m = hashNumbers ((m.comparator.folded t.units).map Int.toNat) := by
  cases m <;>
    simp [hashUnder, hash, hashIgnoreCase, Comparator.folded, Comparison.comparator,
      Function.comp_def]

/-- Equal texts have the same hash; an absent text is hashed like the empty one. -/
theorem hashUnder_eq_of_equals {m : Comparison} {a b : Option Text} (equal : m.equals a b = true) :
    (a.getD []).hashUnder m = (b.getD []).hashUnder m := by
  cases a with
  | none =>
    cases b with
    | none => rfl
    | some t => simp [Comparison.equals] at equal
  | some s =>
    cases b with
    | none => simp [Comparison.equals] at equal
    | some t =>
      rw [Comparison.equals_some_iff] at equal
      simp only [Option.getD_some, hashUnder_eq, equal]

/-- Ignoring case is hashing the text in lower case. -/
theorem hash_ofUnits_lower (t : Text) :
    (ofUnits (t.units.map CodeUnit.lower)).hash = t.hashIgnoreCase := by
  rw [hash, units_ofUnits, List.map_map]
  rfl

end Text

namespace Request

theorem run_equals_named (m : Comparison) (a b : Option Text) :
    (Request.equals a b (.named m)).run = .ok (.flag (m.equals a b)) := rfl

/-- A request for equality is answered with yes exactly when the comparison takes the two texts for
    equal. -/
theorem run_equals_named_true_iff {m : Comparison} {a b : Option Text} :
    (Request.equals a b (.named m)).run = .ok (.flag true) ↔ m.equals a b = true := by
  rw [run_equals_named, Except.ok.injEq, Answer.flag.injEq]

theorem run_hash (a : Option Text) :
    (Request.hash a).run = .ok (.number (a.getD []).hash) := rfl

theorem run_hashIgnoreCase (a : Option Text) :
    (Request.hashIgnoreCase a).run = .ok (.number (a.getD []).hashIgnoreCase) := rfl

/-- Reading the values of units always succeeds. -/
theorem run_ofUnits_map_val (us : List CodeUnit) :
    (Request.ofUnits (us.map fun u => (u.val : Int))).run = .ok (.text (Text.ofUnits us)) := by
  rw [run, Text.ofUnitValues_map_val]
  rfl

/-- Texts that a comparison takes for equal, absent ones included, have the same hash for it, and
    the hash that ignores case is the hash of the text whose units are the lower-case forms. -/
theorem hash_eq_of_equals :
    (∀ a b : Option Text, (Request.equals a b (.named .exact)).run = .ok (.flag true) →
      ∃ h, (Request.hash a).run = .ok (.number h) ∧ (Request.hash b).run = .ok (.number h)) ∧
    (∀ a b : Option Text, (Request.equals a b (.named .exactIgnoreCase)).run = .ok (.flag true) →
      ∃ h, (Request.hashIgnoreCase a).run = .ok (.number h) ∧
        (Request.hashIgnoreCase b).run = .ok (.number h)) ∧
    (∀ t : Text, ∃ lowered h,
      (Request.ofUnits (t.units.map fun u => (simpleLower u.val : Int))).run =
        .ok (.text lowered) ∧
      (Request.hashIgnoreCase (some t)).run = .ok (.number h) ∧
      (Request.hash (some lowered)).run = .ok (.number h)) := by
  refine ⟨?_, ?_, ?_⟩
  · intro a b answer
    have same := Text.hashUnder_eq_of_equals (run_equals_named_true_iff.mp answer)
    rw [Text.hashUnder_exact, Text.hashUnder_exact] at same
    exact ⟨_, run_hash a, by rw [run_hash, same]⟩
  · intro a b answer
    have same := Text.hashUnder_eq_of_equals (run_equals_named_true_iff.mp answer)
    rw [Text.hashUnder_exactIgnoreCase, Text.hashUnder_exactIgnoreCase] at same
    exact ⟨_, run_hashIgnoreCase a, by rw [run_hashIgnoreCase, same]⟩
  · intro t
    refine ⟨Text.ofUnits (t.units.map CodeUnit.lower), t.hashIgnoreCase, ?_, rfl, ?_⟩
    · rw [← run_ofUnits_map_val, List.map_map]
      rfl
    · rw [run_hash, Option.getD_some, Text.hash_ofUnits_lower]

/-- One pair in its two spellings, and the dotted capital I against the plain one. -/
theorem hash_eq_of_equals_spellings :
    ((Request.equals (some [0x1F600]) (some [0xD83D, 0xDE00]) (.named .exact)).run =
        .ok (.flag true) ∧
      ∃ h, (Request.hash (some [0x1F600])).run = .ok (.number h) ∧
        (Request.hash (some [0xD83D, 0xDE00])).run = .ok (.number h)) ∧
    ((Request.equals (some [0x130]) (some [0x49]) (.named .exactIgnoreCase)).run =
        .ok (.flag true) ∧
      ∃ h, (Request.hashIgnoreCase (some [0x130])).run = .ok (.number h) ∧
        (Request.hashIgnoreCase (some [0x49])).run = .ok (.number h)) := by
  have exact : (Request.equals (some [0x1F600]) (some [0xD83D, 0xDE00]) (.named .exact)).run =
      .ok (.flag true) := by rfl
  have folded : (Request.equals (some [0x130]) (some [0x49]) (.named .exactIgnoreCase)).run =
      .ok (.flag true) := by rfl
  exact ⟨⟨exact, hash_eq_of_equals.1 _ _ exact⟩, folded, hash_eq_of_equals.2.1 _ _ folded⟩

end Request

end UnitText
