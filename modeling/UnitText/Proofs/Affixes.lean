import UnitText.Proofs.Respelling

/-!
# Affixes at either end

An affix is there if its folded units stand at the end of the folded units of the text. What removing
it leaves are then the units beside it, wherever it may cut through a surrogate pair; in all other
cases the text is left as it is, spelling included. The shortcut for an affix as long as the text
says no more than that.
-/

namespace UnitText

namespace Side

/-! ## Ends of lists -/

section Lists

variable {α β : Type}

/-- Whether a list stands at this end of another one. -/
def IsAt (side : Side) (p l : List α) : Prop :=
  match side with
  | .left => p <+: l
  | .right => p <:+ l

/-- What is left of a list beside its `n` entries at this end. -/
def beside (side : Side) (n : Nat) (l : List α) : List α :=
  match side with
  | .left => l.drop n
  | .right => l.take (l.length - n)

/-- A list with another one put to this end. -/
def attach (side : Side) (p l : List α) : List α :=
  match side with
  | .left => p ++ l
  | .right => l ++ p

variable (side : Side)

theorem isAt_attach (p l : List α) : side.IsAt p (side.attach p l) := by
  cases side with
  | left => exact List.prefix_append p l
  | right => exact List.suffix_append l p

@[simp] theorem length_attach (p l : List α) :
    (side.attach p l).length = p.length + l.length := by
  cases side with
  | left => simp [attach]
  | right => simp [attach, Nat.add_comm]

@[simp] theorem map_attach (f : α → β) (p l : List α) :
    (side.attach p l).map f = side.attach (p.map f) (l.map f) := by
  cases side <;> simp [attach]

@[simp] theorem length_beside (n : Nat) (l : List α) :
    (side.beside n l).length = l.length - n := by
  cases side with
  | left => simp [beside]
  | right => simp [beside]

theorem beside_attach (p l : List α) : side.beside p.length (side.attach p l) = l := by
  cases side with
  | left => exact List.drop_left
  | right => simp [beside, attach]

theorem isAt_map_iff {f : α → β} (injective : Function.Injective f) (p l : List α) :
    side.IsAt (p.map f) (l.map f) ↔ side.IsAt p l := by
  cases side with
  | left => exact List.prefix_map_iff_of_injective injective
  | right => exact List.suffix_map_iff_of_injective injective

end Lists

theorem units_attach (side : Side) (s t : Text) :
    Text.units (side.attach s t) = side.attach s.units t.units := by
  cases side <;> simp [attach]

/-! ## Affixes of texts -/

/-- Whether a text has an affix at this end. -/
def hasAffix (side : Side) (t affix : Text) (m : Comparison) : Bool :=
  match side with
  | .left => t.hasPrefix affix m
  | .right => t.hasSuffix affix m

section Affixes

variable (side : Side) (t affix : Text) (m : Comparison)

theorem textHasAffix_some :
    textHasAffix side (some t) (some affix) m = .ok (side.hasAffix t affix m) := by
  cases side <;> rfl

theorem hasAffix_iff :
    side.hasAffix t affix m = true ↔
      side.IsAt (m.comparator.folded affix.units) (m.comparator.folded t.units) := by
  cases side with
  | left => exact Text.hasPrefix_iff t affix m
  | right => exact Text.hasSuffix_iff t affix m

/-- Without folding, an affix is there if its units are. -/
theorem hasAffix_exact_iff :
    side.hasAffix t affix .exact = true ↔ side.IsAt affix.units t.units := by
  rw [hasAffix_iff]
  apply isAt_map_iff
  intro u v same
  exact Fin.ext (Int.ofNat.inj same)

theorem hasAffix_attach : side.hasAffix (side.attach affix t) affix m = true := by
  rw [hasAffix_iff, units_attach, Comparator.folded, Comparator.folded, map_attach]
  exact side.isAt_attach _ _

variable {t affix}

theorem hasAffix_eq_equals (lengths : affix.unitLength = t.unitLength) :
    side.hasAffix t affix m = m.equals (some t) (some affix) := by
  rw [← Text.length_units, ← Text.length_units] at lengths
  rw [Bool.eq_iff_iff]
  cases side with
  | left => exact Text.hasPrefix_iff_equals lengths
  | right => exact Text.hasSuffix_iff_equals lengths

/-! ## Removing an affix -/

theorem units_removeAffix :
    (side.removeAffix false t (some affix) m).units =
      if side.hasAffix t affix m then side.beside affix.unitLength t.units else t.units := by
  rw [← Text.length_units]
  cases side with
  | left => exact Text.units_removeLeft t affix m
  | right => exact Text.units_removeRight t affix m

theorem units_removeAffix_of_hasAffix {m : Comparison} (there : side.hasAffix t affix m = true) :
    (side.removeAffix false t (some affix) m).units = side.beside affix.unitLength t.units := by
  rw [units_removeAffix, if_pos there]

/-- The affixes whose removal leaves a text: none, the empty one, one that is longer than the text, and
    one that is not there. -/
inductive Leaves (side : Side) (t : Text) (m : Comparison) : Option Text → Prop
  | absent : Leaves side t m none
  | empty : Leaves side t m (some [])
  | longer {p : Text} : t.unitLength < p.unitLength → Leaves side t m (some p)
  | notThere {p : Text} : textHasAffix side (some t) (some p) m = .ok false →
      Leaves side t m (some p)

/-- An affix that is not there is not removed by the shortcut either. -/
theorem removeAffix_of_not_hasAffix (notThere : side.hasAffix t affix m = false) :
    side.removeAffix false t (some affix) m = t := by
  have unequal : t.unitLength = affix.unitLength →
      m.equals (some t) (some affix) = false := by
    intro lengths
    rw [← side.hasAffix_eq_equals m lengths.symm, notThere]
  have kept : ∀ present remove, present affix = false →
      t.removeAffix (some affix) m present remove = t := by
    intro present remove absent
    simp only [Text.removeAffix]
    split
    · rfl
    · split
      · rename_i lengths
        simp [unequal lengths]
      · simp [absent]
  cases side with
  | left => exact kept (t.hasPrefix · m) (fun n => t.dropUnits n) notThere
  | right => exact kept (t.hasSuffix · m) (fun n => t.takeUnits (t.unitLength - n)) notThere

theorem removeAffix_of_leaves {affix : Option Text} (leaves : side.Leaves t m affix) :
    side.removeAffix false t affix m = t := by
  cases leaves with
  | absent => cases side <;> rfl
  | empty =>
    cases side with
    | left => simp [removeAffix, Text.removeLeft, Text.removeAffix]
    | right => simp [removeAffix, Text.removeRight, Text.removeAffix]
  | longer exceeds =>
    cases side with
    | left => simp [removeAffix, Text.removeLeft, Text.removeAffix, exceeds]
    | right => simp [removeAffix, Text.removeRight, Text.removeAffix, exceeds]
  | notThere refused =>
    apply removeAffix_of_not_hasAffix
    exact Except.ok.inj (side.textHasAffix_some t _ m ▸ refused)

end Affixes

/-- Removing an affix at an end. The affix is there exactly if its folded units stand at that end of the
    folded units of the text, which for an affix as long as the text is what equality says. If it is
    absent, empty, too long or not there, the text itself is left; otherwise its units beside the
    affix are. So what was attached is taken off again. -/
theorem removeAffix_at_end (side : Side) (t : Text) (m : Comparison) :
    (∀ p : Text, ∃ there, textHasAffix side (some t) (some p) m = .ok there ∧
      (there = true ↔ side.IsAt (m.comparator.folded p.units) (m.comparator.folded t.units)) ∧
      (p.unitLength = t.unitLength → textEquals (some t) (some p) (.named m) = .ok there)) ∧
    (∀ p : Text, textHasAffix side (some t) (some p) .exact = .ok true ↔
      side.IsAt p.units t.units) ∧
    (∀ affix, side.Leaves t m affix → side.removeAffix false t affix m = t) ∧
    (∀ affix, ¬ side.Leaves t m affix → ∃ p, affix = some p ∧
      (side.removeAffix false t affix m).units = side.beside p.unitLength t.units) ∧
    ∀ p rest : Text, (side.removeAffix false (side.attach p rest) (some p) m).units =
      rest.units := by
  refine ⟨?_, ?_, ?_, ?_, ?_⟩
  · intro p
    refine ⟨_, side.textHasAffix_some t p m, side.hasAffix_iff t p m, ?_⟩
    intro lengths
    rw [textEquals_named, side.hasAffix_eq_equals m lengths]
  · intro p
    rw [textHasAffix_some, Except.ok.injEq, hasAffix_exact_iff]
  · intro affix leaves
    exact side.removeAffix_of_leaves m leaves
  · intro affix takes
    cases affix with
    | none => exact absurd .absent takes
    | some p =>
      refine ⟨p, rfl, ?_⟩
      have there : side.hasAffix t p m = true := by
        by_contra refused
        apply takes
        apply Leaves.notThere
        rw [textHasAffix_some, Bool.eq_false_iff.mpr refused]
      exact side.units_removeAffix_of_hasAffix there
  · intro p rest
    rw [side.units_removeAffix_of_hasAffix (side.hasAffix_attach rest p m), units_attach,
      ← Text.length_units, beside_attach]

/-- Of the pair at the end of a text the second half can be taken off, and the first half cannot. -/
theorem removeAffix_at_end_half :
    (¬ Side.right.Leaves [0x41, 0x1F600] .exact (some [0xDE00]) ∧
      ∃ p, some [0xDE00] = some p ∧
        (Side.right.removeAffix false [0x41, 0x1F600] (some [0xDE00]) .exact).units =
          Side.right.beside (Text.unitLength p) (Text.units [0x41, 0x1F600])) ∧
    (Side.right.Leaves [0x41, 0x1F600] .exact (some [0xD83D]) ∧
      Side.right.removeAffix false [0x41, 0x1F600] (some [0xD83D]) .exact = [0x41, 0x1F600]) := by
  have takes : ¬ Side.right.Leaves [0x41, 0x1F600] .exact (some [0xDE00]) := by
    intro leaves
    cases leaves with
    | longer exceeds => exact absurd exceeds (by decide)
    | notThere refused =>
      rw [textHasAffix_some, Except.ok.injEq] at refused
      exact absurd refused (by decide)
  have leaves : Side.right.Leaves [0x41, 0x1F600] .exact (some [0xD83D]) := by
    apply Leaves.notThere
    rw [textHasAffix_some, Except.ok.injEq]
    decide
  have whole := removeAffix_at_end .right [0x41, 0x1F600] .exact
  exact ⟨⟨takes, whole.2.2.2.1 _ takes⟩, leaves, whole.2.2.1 _ leaves⟩

end Side

end UnitText
