import UnitText.Proofs.CodeUnits
import UnitText.Text.Escape

/-!
# Escapes can be told apart

An escape replaces every unit by a word. No word is the beginning of another one, in either of the
two escapes, so an escaped text determines the units it was made from. Between double quotes it even
determines where it ends: no word begins with a double quote, so the first one that begins no word
closes the text, whatever follows.
-/

namespace UnitText

/-! ## Self-delimiting codes -/

/-- A word of the code and what follows it determine each other: no word is the beginning of
    another one. -/
def SelfDelimiting {α β : Type} (code : α → List β) : Prop :=
  ∀ a b s t, code a ++ s = code b ++ t → a = b ∧ s = t

namespace SelfDelimiting

variable {α β : Type} {code : α → List β}

/-- A sequence of words ends at an entry with which no word begins. -/
theorem flatMap_append_cons_inj (delimiting : SelfDelimiting code) {stop : β}
    (noStart : ∀ a, stop ∉ (code a).head?) (nonempty : ∀ a, code a ≠ []) {l m : List α}
    {s t : List β} (same : l.flatMap code ++ stop :: s = m.flatMap code ++ stop :: t) :
    l = m ∧ s = t := by
  -- A word that stood where the other sequence has its end would begin with the end mark.
  have apart : ∀ (a : α) (rest x : List β), stop :: x ≠ code a ++ rest := by
    intro a rest x same
    obtain ⟨b, word, split⟩ := List.exists_cons_of_ne_nil (nonempty a)
    rw [split, List.cons_append] at same
    apply noStart a
    rw [split, (List.cons.inj same).1]
    rfl
  induction l generalizing m with
  | nil =>
    cases m with
    | nil => exact ⟨rfl, (List.cons.inj same).2⟩
    | cons b m =>
      rw [List.flatMap_cons, List.append_assoc] at same
      exact absurd same (apart b _ s)
  | cons a l ih =>
    cases m with
    | nil =>
      rw [List.flatMap_cons, List.append_assoc] at same
      exact absurd same.symm (apart a _ t)
    | cons b m =>
      rw [List.flatMap_cons, List.flatMap_cons, List.append_assoc, List.append_assoc] at same
      obtain ⟨rfl, rest⟩ := delimiting a b _ _ same
      obtain ⟨rfl, tail⟩ := ih rest
      exact ⟨rfl, tail⟩

theorem flatMap_injective (delimiting : SelfDelimiting code) (nonempty : ∀ a, code a ≠ []) :
    Function.Injective fun l : List α => l.flatMap code := by
  intro l
  induction l with
  | nil =>
    intro m same
    cases m with
    | nil => rfl
    | cons b m => simp [nonempty b] at same
  | cons a l ih =>
    intro m same
    cases m with
    | nil => simp [nonempty a] at same
    | cons b m =>
      obtain ⟨rfl, rest⟩ := delimiting a b _ _ same
      rw [ih rest]

end SelfDelimiting

/-! ## Hexadecimal numbers -/

theorem hexDigit_inj {d e : Nat} (hd : d < 16) (he : e < 16) (same : hexDigit d = hexDigit e) :
    d = e := by
  unfold hexDigit at same
  simp only [Fin.ext_iff] at same
  split at same <;> split at same <;> simp only at same <;> omega

/-- Digits of a fixed width determine the part of the number that they can hold. -/
theorem fixedHex_inj {width m n : Nat} (same : fixedHex width m = fixedHex width n) :
    m % Nat.pow 16 width = n % Nat.pow 16 width := by
  induction width generalizing m n with
  | zero => exact (Nat.mod_one m).trans (Nat.mod_one n).symm
  | succ width ih =>
    rw [fixedHex, fixedHex] at same
    obtain ⟨upper, last⟩ := List.append_inj same (by simp)
    have low : m % 16 = n % 16 := by
      apply hexDigit_inj (Nat.mod_lt _ (by decide)) (Nat.mod_lt _ (by decide))
      simpa using last
    have widened : Nat.pow 16 (width + 1) = 16 * Nat.pow 16 width := Nat.mul_comm _ _
    rw [widened, Nat.mod_mul, Nat.mod_mul, low, ih upper]

theorem range_of_mem_fixedHex {width n : Nat} {c : CodePoint} (member : c ∈ fixedHex width n) :
    0x30 ≤ c.val ∧ c.val ≤ 0x66 := by
  induction width generalizing n with
  | zero => simp [fixedHex] at member
  | succ width ih =>
    rw [fixedHex, List.mem_append, List.mem_singleton] at member
    rcases member with upper | rfl
    · exact ih upper
    · unfold hexDigit
      split <;> simp only <;> omega

theorem unitNumber_append_inj {u v : CodeUnit} {s t : Text}
    (same : unitNumber u ++ s = unitNumber v ++ t) : u = v ∧ s = t := by
  rw [unitNumber, unitNumber, List.append_assoc, List.append_assoc] at same
  obtain ⟨digits, rest⟩ := List.append_inj (List.append_cancel_left same) (by simp)
  have value : u.val % 0x10000 = v.val % 0x10000 := fixedHex_inj digits
  have first := u.isLt
  have second := v.isLt
  exact ⟨Fin.ext (by omega), rest⟩

/-! ## The words of an escape -/

/-- The number of the unit that a backslash and a code point stand for. -/
def shortValue (c : CodePoint) : Nat :=
  match c.val with
  | 0x74 => 0x09
  | 0x62 => 0x08
  | 0x6E => 0x0A
  | 0x72 => 0x0D
  | 0x66 => 0x0C
  | 0x30 => 0x00
  | n => n

/-- A word for a unit: a backslash and one code point, a number with a closing text, or the unit
    itself. What comes after the backslash tells a number from all else. -/
inductive EscapeWord (closing : Text) (u : CodeUnit) : Text → Prop
  | short {c : CodePoint} (value : shortValue c = u.val) (other : c ≠ 0x75) :
      EscapeWord closing u [0x5C, c]
  | number : EscapeWord closing u (unitNumber u ++ closing)
  | itself (other : u.val ≠ 0x5C) : EscapeWord closing u [u.toCodePoint]

theorem unitNumber_eq (u : CodeUnit) : unitNumber u = 0x5C :: 0x75 :: fixedHex 4 u.val := rfl

namespace EscapeWord

variable {closing : Text} {u v : CodeUnit} {w x : Text}

theorem ne_nil (word : EscapeWord closing u w) : w ≠ [] := by
  cases word <;> simp [unitNumber_eq]

theorem append_inj (first : EscapeWord closing u w) (second : EscapeWord closing v x) {s t : Text}
    (same : w ++ s = x ++ t) : u = v ∧ s = t := by
  have backslash : ∀ {u : CodeUnit}, u.val ≠ 0x5C → (0x5C : CodePoint) ≠ u.toCodePoint := by
    intro u other same
    exact other (congrArg Fin.val same).symm
  -- Words of two kinds already differ in the first code point or in the one behind the backslash.
  cases first with
  | @short c value other =>
    cases second with
    | short value' _ =>
      obtain ⟨rfl, rest⟩ : c = _ ∧ s = t := by simpa using same
      exact ⟨Fin.ext (value.symm.trans value'), rest⟩
    | number => exact absurd (List.cons.inj (List.cons.inj same).2).1 other
    | itself other' => exact absurd (List.cons.inj same).1 (backslash other')
  | number =>
    cases second with
    | short _ other' => exact absurd (List.cons.inj (List.cons.inj same).2).1.symm other'
    | number =>
      rw [List.append_assoc, List.append_assoc] at same
      obtain ⟨rfl, rest⟩ := unitNumber_append_inj same
      exact ⟨rfl, List.append_cancel_left rest⟩
    | itself other' => exact absurd (List.cons.inj same).1 (backslash other')
  | itself other =>
    cases second with
    | short _ _ => exact absurd (List.cons.inj same).1.symm (backslash other)
    | number => exact absurd (List.cons.inj same).1.symm (backslash other)
    | itself _ =>
      obtain ⟨point, rest⟩ := List.cons.inj same
      exact ⟨Fin.ext (congrArg (fun c : CodePoint => c.val) point), rest⟩

end EscapeWord

theorem structuralEscape?_eq_some {u : CodeUnit} {t : Text} (found : structuralEscape? u = some t) :
    ∃ c : CodePoint, t = [0x5C, c] ∧ shortValue c = u.val ∧ c ≠ 0x75 ∧
      0x20 ≤ c.val ∧ c.val ≤ 0x7E := by
  unfold structuralEscape? at found
  split at found
  case h_8 => cases found
  all_goals
    rename_i number
    rw [number]
    cases found
    exact ⟨_, rfl, by decide⟩

theorem structuralEscape?_eq_none {u : CodeUnit} (absent : structuralEscape? u = none) :
    u.val ≠ 0x22 ∧ u.val ≠ 0x5C := by
  constructor <;>
  · intro number
    simp [structuralEscape?, number] at absent

theorem escapeWord_escapeUnitInText (u : CodeUnit) :
    EscapeWord (text ";") u (escapeUnitInText u) := by
  unfold escapeUnitInText
  split
  · rename_i t found
    obtain ⟨c, rfl, value, other, _⟩ := structuralEscape?_eq_some found
    exact .short value other
  · rename_i absent
    split
    · exact .number
    · exact .itself (structuralEscape?_eq_none absent).2

theorem escapeWord_escapeUnit (u : CodeUnit) : EscapeWord [] u (escapeUnit u) := by
  unfold escapeUnit
  split
  · rename_i t found
    obtain ⟨c, rfl, value, other, _⟩ := structuralEscape?_eq_some found
    exact .short value other
  · rename_i absent
    split
    · rename_i null
      exact .short (c := 0x30) null.symm (by decide)
    · split
      · rw [← List.append_nil (unitNumber u)]
        exact .number
      · exact .itself (structuralEscape?_eq_none absent).2

theorem selfDelimiting_escapeUnitInText : SelfDelimiting escapeUnitInText := by
  intro u v s t same
  exact (escapeWord_escapeUnitInText u).append_inj (escapeWord_escapeUnitInText v) same

theorem selfDelimiting_escapeUnit : SelfDelimiting escapeUnit := by
  intro u v s t same
  exact (escapeWord_escapeUnit u).append_inj (escapeWord_escapeUnit v) same

theorem quote_notMem_head_escapeUnitInText (u : CodeUnit) :
    (0x22 : CodePoint) ∉ (escapeUnitInText u).head? := by
  unfold escapeUnitInText
  split
  · rename_i t found
    obtain ⟨c, rfl, _⟩ := structuralEscape?_eq_some found
    simp
  · rename_i absent
    split
    · simp [unitNumber_eq]
    · intro first
      obtain same : u.toCodePoint = 0x22 := by simpa using first
      exact (structuralEscape?_eq_none absent).1 (congrArg Fin.val same)

namespace Text

theorem escape_false (t : Text) : t.escape false = t.units.flatMap escapeUnitInText := rfl

theorem escape_true (t : Text) :
    t.escape true = 0x22 :: (t.units.flatMap escapeUnitInText ++ [0x22]) := rfl

theorem escape_false_inj (s t : Text) : s.escape false = t.escape false ↔ s.units = t.units := by
  rw [escape_false, escape_false]
  exact (selfDelimiting_escapeUnitInText.flatMap_injective
    fun u => (escapeWord_escapeUnitInText u).ne_nil).eq_iff

theorem escapeMessage_inj (s t : Text) : s.escapeMessage = t.escapeMessage ↔ s.units = t.units :=
  (selfDelimiting_escapeUnit.flatMap_injective fun u => (escapeWord_escapeUnit u).ne_nil).eq_iff

theorem escape_true_append_inj (s t after after' : Text) :
    s.escape true ++ after = t.escape true ++ after' ↔ s.units = t.units ∧ after = after' := by
  constructor
  · intro same
    rw [escape_true, escape_true, List.cons_append, List.cons_append, List.append_assoc,
      List.append_assoc] at same
    exact selfDelimiting_escapeUnitInText.flatMap_append_cons_inj
      quote_notMem_head_escapeUnitInText (fun u => (escapeWord_escapeUnitInText u).ne_nil)
      (List.cons.inj same).2
  · rintro ⟨units, rfl⟩
    rw [escape_true, escape_true, units]

/-- An escaped text between double quotes tells its units and where it ends, whatever comes after
    it; without the quotes it tells its units. -/
theorem escape_lossless :
    (∀ s t after after' : Text, s.escape true ++ after = t.escape true ++ after' ↔
      s.units = t.units ∧ after = after') ∧
    (∀ s t : Text, s.escape false = t.escape false ↔ s.units = t.units) :=
  ⟨escape_true_append_inj, escape_false_inj⟩

example : escape [0x22, 0x0A, 0x00, 0xE9] true = text "\"\\\"\\n\x00\\u00e9;\"" := by decide

end Text

end UnitText
