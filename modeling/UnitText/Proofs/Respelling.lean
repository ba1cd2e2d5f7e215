import UnitText.Proofs.Hashing
import UnitText.Proofs.UnitView

/-!
# Spellings of the same units

A pair of surrogates and the code point that they encode are two spellings of the same units. An
operation that is defined over units must not tell them apart: put another spelling in the place of
any of its texts, and the answer is the same, or is a text that has the same units. A request that is
rejected is rejected for the same reason.
-/

namespace UnitText

/-- Two texts are spellings of the same units. -/
def Text.SameUnits (s t : Text) : Prop := s.units = t.units

/-- Two texts that may be absent are both absent, or spellings of the same units. -/
abbrev SameUnits (a b : Option Text) : Prop := Option.Rel Text.SameUnits a b

namespace SameUnits

variable {a b : Option Text}

theorem units_getD (same : SameUnits a b) : (a.getD []).units = (b.getD []).units := by
  cases same with
  | none => rfl
  | some same => exact same

theorem isAbsentOrEmpty (same : SameUnits a b) :
    UnitText.isAbsentOrEmpty a = UnitText.isAbsentOrEmpty b := by
  have empty : a.getD [] = [] ↔ b.getD [] = [] := by
    rw [← Text.units_eq_nil_iff, ← Text.units_eq_nil_iff, same.units_getD]
  rw [Bool.eq_iff_iff, UnitText.isAbsentOrEmpty, UnitText.isAbsentOrEmpty, List.isEmpty_iff,
    List.isEmpty_iff, empty]

theorem isBlank (same : SameUnits a b) : UnitText.isBlank a = UnitText.isBlank b := by
  rw [UnitText.isBlank, UnitText.isBlank, same.units_getD]

theorem compare {a' b' : Option Text} (c : Comparator) (first : SameUnits a a')
    (second : SameUnits b b') : c.compare a b = c.compare a' b' := by
  cases first with
  | none =>
    cases second with
    | none => rfl
    | some _ => rfl
  | some first =>
    cases second with
    | none => rfl
    | some second => rw [Comparator.compare, Comparator.compare, first, second]

/-- The shortcuts of a named comparison, one of which looks at code points, tell no spellings
    apart, since the comparison agrees with its comparator. -/
theorem equals {a' b' : Option Text} (m : Comparison) (first : SameUnits a a')
    (second : SameUnits b b') : m.equals a b = m.equals a' b' := by
  cases first with
  | none =>
    cases second with
    | none => rfl
    | some _ => rfl
  | some first =>
    cases second with
    | none => rfl
    | some second =>
      rw [Bool.eq_iff_iff, Comparison.equals_some_iff, Comparison.equals_some_iff, first, second]

end SameUnits

namespace Text.SameUnits

variable {s t : Text}

theorem units_eq (same : s.SameUnits t) : s.units = t.units := same

theorem present (same : s.SameUnits t) : UnitText.SameUnits (some s) (some t) := .some same

theorem unitLength (same : s.SameUnits t) : s.unitLength = t.unitLength := by
  rw [← length_units, ← length_units, same]

theorem sliceUnits (same : s.SameUnits t) (start stop : Option Int) :
    (s.sliceUnits start stop).SameUnits (t.sliceUnits start stop) := by
  rw [Text.SameUnits, units_sliceUnits, units_sliceUnits, same]

theorem trim (same : s.SameUnits t) : s.trim.SameUnits t.trim := by
  rw [Text.SameUnits, units_trim, units_trim, same]

theorem trimSide (same : s.SameUnits t) (side : Side) : (side.trim s).SameUnits (side.trim t) := by
  cases side with
  | left =>
    show s.trimLeft.units = t.trimLeft.units
    rw [units_trimLeft, units_trimLeft, same]
  | right =>
    show s.trimRight.units = t.trimRight.units
    rw [units_trimRight, units_trimRight, same]

theorem pad (same : s.SameUnits t) (side : Side) (width : Nat) :
    (side.pad s width).SameUnits (side.pad t width) := by
  cases side with
  | left =>
    show (s.padLeft width).units = (t.padLeft width).units
    rw [units_padLeft, units_padLeft, same]
  | right =>
    show (s.padRight width).units = (t.padRight width).units
    rw [units_padRight, units_padRight, same]

theorem hasPrefix {p q : Text} (same : s.SameUnits t) (affix : p.SameUnits q) (m : Comparison) :
    s.hasPrefix p m = t.hasPrefix q m := by
  rw [Text.hasPrefix, Text.hasPrefix, same, affix, affix.unitLength]

theorem hasSuffix {p q : Text} (same : s.SameUnits t) (affix : p.SameUnits q) (m : Comparison) :
    s.hasSuffix p m = t.hasSuffix q m := by
  rw [Text.hasSuffix, Text.hasSuffix, same, affix, affix.unitLength, same.unitLength]

theorem removeAffix {p q : Option Text} (same : s.SameUnits t) (affix : UnitText.SameUnits p q)
    (side : Side) (m : Comparison) :
    (side.removeAffix false s p m).SameUnits (side.removeAffix false t q m) := by
  cases affix with
  | none =>
    cases side with
    | left => exact same
    | right => exact same
  | some affix =>
    cases side with
    | left =>
      have there := hasPrefix same affix m
      rw [Text.SameUnits, Side.removeAffix, Side.removeAffix, units_removeLeft, units_removeLeft,
        there, same, affix]
    | right =>
      have there := hasSuffix same affix m
      rw [Text.SameUnits, Side.removeAffix, Side.removeAffix, units_removeRight, units_removeRight,
        there, same, affix]

end Text.SameUnits

namespace SameUnits

variable {a a' b b' : Option Text}

/-- What spells a truth value is read off the units of the trimmed text, and compared without looking
    at case. -/
theorem accepts (p : Spelling) (same : SameUnits a b) : p.accepts a = p.accepts b := by
  cases same with
  | none => rfl
  | @some s t same =>
    have blank : UnitText.isBlank (some s) = UnitText.isBlank (some t) := same.present.isBlank
    have trimmed : s.trim.units = t.trim.units := same.trim
    have words : ∀ w : Text, Comparison.exactIgnoreCase.equals (some s.trim) (some w) =
        Comparison.exactIgnoreCase.equals (some t.trim) (some w) := by
      intro w
      exact SameUnits.equals .exactIgnoreCase same.trim.present (.some rfl)
    simp only [Spelling.accepts, blank, trimmed, words]

theorem textMatchesAt (first : SameUnits a a') (second : SameUnits b b')
    (offset comparandOffset length : Option Int) (choice : Comparison.Choice) :
    textMatchesAt a offset b comparandOffset length choice =
      textMatchesAt a' offset b' comparandOffset length choice := by
  cases first with
  | none => rfl
  | some first =>
    cases second with
    | none => rfl
    | some second =>
      simp only [UnitText.textMatchesAt, required, bind, Except.bind, first.units_eq,
        second.units_eq]

-- An absent text or affix is rejected alike on both sides, so only present ones are compared.
theorem textHasAffix (first : SameUnits a a') (second : SameUnits b b') (side : Side)
    (m : Comparison) : textHasAffix side a b m = textHasAffix side a' b' m := by
  cases first with
  | none => cases side <;> cases second <;> rfl
  | some first =>
    cases second with
    | none => cases side <;> rfl
    | some second =>
      cases side with
      | left => exact congrArg Except.ok (first.hasPrefix second m)
      | right => exact congrArg Except.ok (first.hasSuffix second m)

end SameUnits

namespace Request

/-- The same operation on other spellings, for the operations that answer something that has no
    spelling, or whose answer is written in ASCII. -/
inductive Respelled : Request → Request → Prop
  | unitLength {s t : Text} : s.SameUnits t → Respelled (.unitLength s) (.unitLength t)
  | equals {a a' b b' : Option Text} (choice : Comparison.Choice) : SameUnits a a' →
      SameUnits b b' → Respelled (.equals a b choice) (.equals a' b' choice)
  | compare {a a' b b' : Option Text} (choice : Comparison.Choice) : SameUnits a a' →
      SameUnits b b' → Respelled (.compare a b choice) (.compare a' b' choice)
  | hash {a b : Option Text} : SameUnits a b → Respelled (.hash a) (.hash b)
  | hashIgnoreCase {a b : Option Text} : SameUnits a b →
      Respelled (.hashIgnoreCase a) (.hashIgnoreCase b)
  | matchesAt {a a' b b' : Option Text} (offset comparandOffset length : Option Int)
      (choice : Comparison.Choice) : SameUnits a a' → SameUnits b b' →
      Respelled (.matchesAt a offset b comparandOffset length choice)
        (.matchesAt a' offset b' comparandOffset length choice)
  | hasAffix {a a' b b' : Option Text} (side : Side) (m : Comparison) : SameUnits a a' →
      SameUnits b b' → Respelled (.hasAffix side a b m) (.hasAffix side a' b' m)
  | isAbsentOrEmpty {a b : Option Text} : SameUnits a b →
      Respelled (.isAbsentOrEmpty a) (.isAbsentOrEmpty b)
  | isBlank {a b : Option Text} : SameUnits a b → Respelled (.isBlank a) (.isBlank b)
  | spellsTrue {a b : Option Text} : SameUnits a b → Respelled (.spellsTrue a) (.spellsTrue b)
  | spellsFalse {a b : Option Text} : SameUnits a b → Respelled (.spellsFalse a) (.spellsFalse b)
  | byteEstimate {a b : Option Text} : SameUnits a b →
      Respelled (.byteEstimate a) (.byteEstimate b)
  | escape {a b : Option Text} (quote : Bool) : SameUnits a b →
      Respelled (.escape a quote) (.escape b quote)
  | escapeMessage {s t : Text} : s.SameUnits t → Respelled (.escapeMessage s) (.escapeMessage t)

/-- The same operation on other spellings, for the operations that answer a text made of the units
    of their own. -/
inductive RespelledPart : Request → Request → Prop
  | slice {s t : Text} (start stop : Option Int) : s.SameUnits t →
      RespelledPart (.slice s start stop) (.slice t start stop)
  | removeAffix {a a' b b' : Option Text} (side : Side) (m : Comparison) : SameUnits a a' →
      SameUnits b b' → RespelledPart (.removeAffix side false a b m) (.removeAffix side false a' b' m)
  | trim {a b : Option Text} : SameUnits a b → RespelledPart (.trim a) (.trim b)
  | trimSide {a b : Option Text} (side : Side) : SameUnits a b →
      RespelledPart (.trimSide side a) (.trimSide side b)
  | pad {a b : Option Text} (side : Side) (width : Option Int) : SameUnits a b →
      RespelledPart (.pad side a width) (.pad side b width)

/-- Two outcomes are the same failure, or texts that are spellings of the same units. -/
inductive SameOutcome : Except Failure Answer → Except Failure Answer → Prop
  | failure (f : Failure) : SameOutcome (.error f) (.error f)
  | text {s t : Text} : s.SameUnits t → SameOutcome (.ok (.text s)) (.ok (.text t))

theorem run_eq_of_respelled {r s : Request} (same : Respelled r s) : r.run = s.run := by
  cases same with
  | unitLength same => rw [run, run, same.unitLength]
  | equals choice first second => simp only [run, textEquals, SameUnits.equals _ first second]
  | compare choice first second => simp only [run, textCompare, SameUnits.compare _ first second]
  | hash same => rw [run, run, Text.hash, Text.hash, same.units_getD]
  | hashIgnoreCase same =>
    rw [run, run, Text.hashIgnoreCase, Text.hashIgnoreCase, same.units_getD]
  | matchesAt _ _ _ _ first second => rw [run, run, first.textMatchesAt second]
  | hasAffix side m first second => rw [run, run, first.textHasAffix second]
  | isAbsentOrEmpty same => rw [run, run, same.isAbsentOrEmpty]
  | isBlank same => rw [run, run, same.isBlank]
  | spellsTrue same => rw [run, run, UnitText.spellsTrue, UnitText.spellsTrue, same.accepts]
  | spellsFalse same => rw [run, run, UnitText.spellsFalse, UnitText.spellsFalse, same.accepts]
  | byteEstimate same =>
    cases same with
    | none => rfl
    | some same => simp only [run, required, bind, Except.bind, Text.byteEstimate, same.units_eq]
  | escape quote same =>
    cases same with
    | none => rfl
    | some same => simp only [run, required, bind, Except.bind, Text.escape, same.units_eq]
  | escapeMessage same => rw [run, run, Text.escapeMessage, Text.escapeMessage, same]

theorem sameOutcome_of_respelledPart {r s : Request} (same : RespelledPart r s) :
    SameOutcome r.run s.run := by
  cases same with
  | slice start stop same => exact .text (same.sliceUnits start stop)
  | removeAffix side m first second =>
    cases first with
    | none => exact .failure _
    | some first => exact .text (first.removeAffix second side m)
  | trim same =>
    cases same with
    | none => exact .failure _
    | some same => exact .text same.trim
  | trimSide side same =>
    cases same with
    | none => exact .failure _
    | some same => exact .text (same.trimSide side)
  | pad side width same =>
    cases same with
    | none => exact .failure _
    | some same =>
      -- The width is checked after the text, and no failure mentions more of the text than its length.
      cases checked : requiredNat (text "width") width with
      | error e =>
        simp only [run, required, bind, Except.bind, checked, Except.mapError]
        exact .failure _
      | ok w =>
        simp only [run, required, bind, Except.bind, checked, Except.mapError, same.unitLength]
        cases checkCopies (w - Text.unitLength _) with
        | error f => exact .failure f
        | ok _ => exact .text (same.pad side w)

/-- No operation over units tells spellings apart. With other spellings of the same units in the
    place of its texts a request has the same answer or is rejected for the same reason; where the
    answer is a part of the text or a padded text, it is a text with the same units. -/
theorem run_respelled :
    (∀ r s : Request, Respelled r s → r.run = s.run) ∧
    (∀ r s : Request, RespelledPart r s → SameOutcome r.run s.run) :=
  ⟨fun _ _ => run_eq_of_respelled, fun _ _ => sameOutcome_of_respelledPart⟩

/-- A pair and its two halves, asked for a prefix that ends inside the pair and cut behind it. -/
theorem run_respelled_half_pair :
    let whole : Option Text := some [0x1F600, 0x41]
    let apart : Option Text := some [0xD83D, 0xDE00, 0x41]
    let half : Option Text := some [0xD83D]
    (Respelled (.hasAffix .left whole half .exact) (.hasAffix .left apart half .exact) ∧
      (Request.hasAffix .left whole half .exact).run =
        (Request.hasAffix .left apart half .exact).run) ∧
    (RespelledPart (.removeAffix .left false whole half .exact)
        (.removeAffix .left false apart half .exact) ∧
      SameOutcome (Request.removeAffix .left false whole half .exact).run
        (Request.removeAffix .left false apart half .exact).run) := by
  intro whole apart half
  have same : SameUnits whole apart := .some rfl
  have asked := Respelled.hasAffix .left .exact same (Option.Rel.some (a := [0xD83D]) rfl)
  have removed := RespelledPart.removeAffix .left .exact same (Option.Rel.some (a := [0xD83D]) rfl)
  exact ⟨⟨asked, run_respelled.1 _ _ asked⟩, removed, run_respelled.2 _ _ removed⟩

end Request

end UnitText
