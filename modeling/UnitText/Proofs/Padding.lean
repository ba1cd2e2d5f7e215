import UnitText.Proofs.BothAffixes
import UnitText.Proofs.EdgeRuns

/-!
# Padding

Padding puts spaces to one end of a text until it has as many units as are asked for. What it adds is a
run of blanks at that end, so trimming there takes it off again together with the blanks of the text,
and at the other end the padded text has the text. The width is counted in units, while spaces are put
to code points and taken off them; a space is one of either and never half of a pair, so the counts
agree. Only a width that takes more spaces than a machine word counts is not answered.
-/

namespace UnitText

namespace Text

@[simp] theorem unitLength_missingSpaces (t : Text) (width : Nat) :
    (t.missingSpaces width).unitLength = width - t.unitLength := by
  rw [← length_units, units_missingSpaces, List.length_replicate, length_units]

theorem isTrimmed_of_mem_missingSpaces {t : Text} {width : Nat} {c : CodePoint}
    (member : c ∈ t.missingSpaces width) : isTrimmed c = true := by
  rw [List.eq_of_mem_replicate member]
  rfl

end Text

namespace Side

/-! ## Putting a list to an end -/

section Lists

variable {α : Type} (side : Side)

/-- Of two lists put together, each is put to an end of the other. -/
theorem attach_eq_opposite_attach (p l : List α) : side.attach p l = side.opposite.attach l p := by
  cases side <;> rfl

theorem attach_replicate (m n : Nat) (a : α) :
    side.attach (List.replicate m a) (List.replicate n a) = List.replicate (m + n) a := by
  cases side with
  | left => exact List.replicate_append_replicate
  | right => exact List.replicate_append_replicate.trans (by rw [Nat.add_comm])

/-- A run of entries that come off goes with those behind it. -/
theorem dropRun_attach {p : α → Bool} {run : List α} (all : ∀ a ∈ run, p a = true) (l : List α) :
    side.dropRun p (side.attach run l) = side.dropRun p l := by
  -- The run and what comes off behind it are one run, and what stops it is the same as before.
  have stripped := side.isStripped_dropRun p l
  obtain ⟨taken, split, takenAll⟩ := stripped.exists_run
  refine dropRun_eq ⟨⟨side.attach run taken, ?_, ?_⟩, stripped.stops⟩
  · rw [attach_assoc, ← split]
  · intro a member
    rcases mem_attach.mp member with added | there
    · exact all a added
    · exact takenAll a there

end Lists

/-! ## Padding an end -/

section Texts

variable (side : Side) (t : Text)

theorem pad_eq_attach (width : Nat) :
    side.pad t width = side.attach (t.missingSpaces width) t := by
  cases side <;> rfl

/-- A padded text is as wide as is asked for, unless the text is wider. -/
theorem unitLength_pad (width : Nat) : (side.pad t width).unitLength = max width t.unitLength := by
  rw [pad_eq_attach, ← Text.length_units, units_attach, length_attach, Text.length_units,
    Text.length_units, Text.unitLength_missingSpaces]
  omega

/-- Of two paddings of an end the wider one decides. -/
theorem pad_pad (first second : Nat) :
    side.pad (side.pad t first) second = side.pad t (max first second) := by
  have missing : second - max first t.unitLength + (first - t.unitLength) =
      max first second - t.unitLength := by omega
  have spaces : side.attach ((side.pad t first).missingSpaces second) (t.missingSpaces first) =
      t.missingSpaces (max first second) := by
    rw [Text.missingSpaces, Text.missingSpaces, Text.missingSpaces, attach_replicate,
      unitLength_pad, missing]
  calc side.pad (side.pad t first) second
      = side.attach ((side.pad t first).missingSpaces second)
          (side.attach (t.missingSpaces first) t) := by rw [pad_eq_attach, pad_eq_attach]
    _ = side.pad t (max first second) := by rw [← attach_assoc, spaces, pad_eq_attach]

theorem trim_pad (width : Nat) : side.trim (side.pad t width) = side.trim t := by
  rw [pad_eq_attach, trim_eq_dropRun, trim_eq_dropRun]
  exact side.dropRun_attach (fun c member => Text.isTrimmed_of_mem_missingSpaces member) t

/-- At the end that is not padded there is the text, however units are compared. -/
theorem hasAffix_opposite_pad (width : Nat) (m : Comparison) :
    side.opposite.hasAffix (side.pad t width) t m = true := by
  rw [pad_eq_attach, attach_eq_opposite_attach]
  exact side.opposite.hasAffix_attach _ t m

end Texts

end Side

namespace Request

/-- The request that pads an end of a text. -/
def padding (side : Side) (width : Nat) (t : Text) : Request := .pad side (some t) (some width)

/-- The request for the part of a padded text that is beside the spaces. -/
def besideSpaces (side : Side) (width : Nat) (t padded : Text) : Request :=
  match side with
  | .left => .slice padded (some (max 0 (width - t.unitLength))) none
  | .right => .slice padded (some 0) (some t.unitLength)

theorem run_padding (side : Side) (width : Nat) (t : Text) :
    (padding side width t).run =
      if maxCopies < width - t.unitLength then .error .tooManyCopies
      else .ok (.text (side.pad t width)) := by
  have natural : requiredNat (text "width") (some (width : Int)) = .ok width :=
    Stepwise.requiredNat_natCast (text "width") width
  rw [padding, run, required, natural]
  simp only [Except.mapError, Stepwise.ok_bind, checkCopies]
  split <;> rfl

theorem run_padding_of_le {side : Side} {width : Nat} {t : Text}
    (countable : width - t.unitLength ≤ maxCopies) :
    (padding side width t).run = .ok (.text (side.pad t width)) := by
  rw [run_padding, if_neg (by omega)]

/-- Beside the spaces there are the units of the text. -/
theorem run_besideSpaces (side : Side) (width : Nat) (t : Text) :
    ∃ part : Text, (besideSpaces side width t (side.pad t width)).run = .ok (.text part) ∧
      part.units = t.units := by
  cases side with
  | left =>
    refine ⟨_, rfl, ?_⟩
    have spaces : max 0 ((width : Int) - t.unitLength) = (width - t.units.length : Nat) := by
      rw [Text.length_units]
      omega
    rw [Text.units_sliceUnits, spaces, cut_drop]
    change (t.padLeft width).units.drop _ = _
    rw [Text.units_padLeft]
    exact List.drop_left' List.length_replicate
  | right =>
    refine ⟨_, rfl, ?_⟩
    rw [Text.units_sliceUnits, cut_take]
    change (t.padRight width).units.take _ = _
    rw [Text.units_padRight]
    exact List.take_left' (Text.length_units t)

/-- What a text is to the text that padding makes of it: the width is the one that is asked for unless
    the text is wider, trimming the padded end makes no difference between the two, the other end is the
    text, and beside the spaces there are its units. -/
structure IsWidened (side : Side) (width : Nat) (t padded : Text) : Prop where
  width_eq : (unitLength padded).run = .ok (.number (max width t.unitLength : Nat))
  trims : ∃ trimmed : Text, (trimSide side (some padded)).run = .ok (.text trimmed) ∧
    (trimSide side (some t)).run = .ok (.text trimmed)
  keeps : ∀ m, (hasAffix side.opposite (some padded) (some t) m).run = .ok (.flag true)
  beside : ∃ part : Text, (besideSpaces side width t padded).run = .ok (.text part) ∧
    part.units = t.units

theorem isWidened_pad (side : Side) (width : Nat) (t : Text) :
    IsWidened side width t (side.pad t width) := by
  refine ⟨?_, ?_, ?_, run_besideSpaces side width t⟩
  · rw [run, side.unitLength_pad]
  · refine ⟨side.trim t, ?_, rfl⟩
    rw [← side.trim_pad t width]
    rfl
  · intro m
    rw [run, Side.textHasAffix_some, side.hasAffix_opposite_pad]
    rfl

/-- Padding an end of a text. A width for which a machine word counts the spaces that are missing gives
    a text that is widened and nothing else, and a second padding of that end comes to what the wider one
    gives at once. A width that takes more spaces is refused. -/
theorem padding_widens (side : Side) (t : Text) :
    (∀ width : Nat, width - t.unitLength ≤ maxCopies → ∃ padded : Text,
      (padding side width t).run = .ok (.text padded) ∧ IsWidened side width t padded) ∧
    (∀ first second : Nat, max first second - t.unitLength ≤ maxCopies → ∃ once twice : Text,
      pipeline t [padding side first, padding side second] =
        [.ok (.text once), .ok (.text twice)] ∧
      (padding side (max first second) t).run = .ok (.text twice)) ∧
    ∀ width : Nat, maxCopies < width - t.unitLength →
      (padding side width t).run = .error .tooManyCopies := by
  refine ⟨?_, ?_, ?_⟩
  · intro width countable
    exact ⟨_, run_padding_of_le countable, isWidened_pad side width t⟩
  · intro first second countable
    have firstCountable : first - t.unitLength ≤ maxCopies := by omega
    have secondCountable : second - (side.pad t first).unitLength ≤ maxCopies := by
      rw [side.unitLength_pad]
      omega
    refine ⟨side.pad t first, side.pad t (max first second), ?_, run_padding_of_le countable⟩
    rw [pipeline, run_padding_of_le firstCountable]
    simp only
    rw [pipeline, run_padding_of_le secondCountable, side.pad_pad]
    rfl
  · intro width beyond
    rw [run_padding, if_pos beyond]

/-- A text of a space, a pair and half of a pair, widened from four units to seven, in one step and in
    two. -/
theorem padding_widens_pair_and_half :
    7 - Text.unitLength [0x20, 0x1F600, 0xD83D] ≤ maxCopies ∧
    (∃ padded : Text, (padding .left 7 [0x20, 0x1F600, 0xD83D]).run = .ok (.text padded) ∧
      IsWidened .left 7 [0x20, 0x1F600, 0xD83D] padded) ∧
    max 5 7 - Text.unitLength [0x20, 0x1F600, 0xD83D] ≤ maxCopies ∧
    (∃ once twice : Text,
      pipeline [0x20, 0x1F600, 0xD83D] [padding .left 5, padding .left 7] =
        [.ok (.text once), .ok (.text twice)] ∧
      (padding .left (max 5 7) [0x20, 0x1F600, 0xD83D]).run = .ok (.text twice)) ∧
    maxCopies < 0x8000000000000004 - Text.unitLength [0x20, 0x1F600, 0xD83D] ∧
    (padding .left 0x8000000000000004 [0x20, 0x1F600, 0xD83D]).run = .error .tooManyCopies := by
  have countable : 7 - Text.unitLength [0x20, 0x1F600, 0xD83D] ≤ maxCopies := by decide
  have bothCountable : max 5 7 - Text.unitLength [0x20, 0x1F600, 0xD83D] ≤ maxCopies := by decide
  have beyond : maxCopies < 0x8000000000000004 - Text.unitLength [0x20, 0x1F600, 0xD83D] := by
    decide
  obtain ⟨widened, again, refused⟩ := padding_widens .left [0x20, 0x1F600, 0xD83D]
  exact ⟨countable, widened 7 countable, bothCountable, again 5 7 bothCountable, beyond,
    refused _ beyond⟩

/-- A width that is one more than a machine word counts: the text is not widened. -/
theorem padding_not_answered_beyond_count :
    (padding .left 0x8000000000000000 []).run = .error .tooManyCopies ∧
    ¬ ∃ padded : Text, (padding .left 0x8000000000000000 []).run = .ok (.text padded) ∧
      padded.unitLength = max 0x8000000000000000 (Text.unitLength []) := by
  have outcome : (padding .left 0x8000000000000000 []).run = .error .tooManyCopies := rfl
  refine ⟨outcome, ?_⟩
  rintro ⟨padded, answered, _⟩
  rw [outcome] at answered
  cases answered

end Request

end UnitText
