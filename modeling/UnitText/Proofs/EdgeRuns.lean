import UnitText.Proofs.StepwiseOperations
import UnitText.Proofs.TrimmedAffixes

/-!
# Runs at the ends of a text

Trimming an end and removing members at it are one operation, for different sets of code points: each
takes the longest run of them away. `Side.IsStripped` says so without a word on how the run is found.
There is only one list that it can hold of, and most of what follows comes from that: that nothing is
left to be done a second time, that the two ends can be taken in either order, and that trimming is the
removal of the code points up to U+0020. Between two trimmings, members that were not there have left
the text as it was, and then it has no blank at that end.
-/

namespace UnitText

namespace Side

/-! ## The longest run at an end -/

section Runs

variable {α : Type}

/-- `rest` is left of a list when the longest run of entries with a property is taken off this end. -/
structure IsStripped (side : Side) (p : α → Prop) (l rest : List α) : Prop where
  /-- What has been taken off is a run of such entries. -/
  exists_run : ∃ run, l = side.attach run rest ∧ ∀ a ∈ run, p a
  /-- The run goes on no further. -/
  stops : ∀ a, side.IsAt [a] rest → ¬ p a

@[simp] theorem attach_nil (side : Side) (l : List α) : side.attach [] l = l := by
  cases side <;> simp [attach]

@[simp] theorem mem_attach {side : Side} {a : α} {run l : List α} :
    a ∈ side.attach run l ↔ a ∈ run ∨ a ∈ l := by
  cases side with
  | left => exact List.mem_append
  | right => exact List.mem_append.trans Or.comm

/-- Of two lists at the same end one goes on where the other one ends. -/
theorem attach_eq_attach {side : Side} {run run' l l' : List α}
    (same : side.attach run l = side.attach run' l') :
    (∃ more, run' = side.attach run more ∧ l = side.attach more l') ∨
      ∃ more, run = side.attach run' more ∧ l' = side.attach more l := by
  cases side with
  | left => exact List.append_eq_append_iff.mp same
  | right =>
    rcases List.append_eq_append_iff.mp same with ⟨more, rest, longer⟩ | ⟨more, rest, longer⟩
    · exact .inr ⟨more, longer, rest⟩
    · exact .inl ⟨more, longer, rest⟩

namespace IsStripped

variable {side : Side} {p : α → Prop} {l rest rest' : List α}

/-- No run of such entries is longer. -/
theorem length_le (stripped : side.IsStripped p l rest) {run : List α}
    (split : l = side.attach run rest') (all : ∀ a ∈ run, p a) : rest.length ≤ rest'.length := by
  obtain ⟨taken, split', _⟩ := stripped.exists_run
  rcases attach_eq_attach (split'.symm.trans split) with ⟨more, rfl, rfl⟩ | ⟨more, _, rfl⟩
  · -- A run that went on would begin with an entry where the longest one stops.
    by_cases none : more = []
    · simp [none]
    · obtain ⟨a, others, rfl⟩ := side.exists_attach none
      refine absurd (all a (by simp)) (stripped.stops a ?_)
      rw [attach_assoc]
      exact side.isAt_attach _ _
  · simp

theorem eq_of_length (stripped : side.IsStripped p l rest) (same : rest.length = l.length) :
    rest = l := by
  obtain ⟨run, rfl, _⟩ := stripped.exists_run
  have none : run = [] := by simpa using same
  simp [none]

theorem unique (stripped : side.IsStripped p l rest) (stripped' : side.IsStripped p l rest') :
    rest = rest' := by
  obtain ⟨run, split, all⟩ := stripped.exists_run
  obtain ⟨run', split', all'⟩ := stripped'.exists_run
  have same : rest.length = rest'.length :=
    Nat.le_antisymm (stripped.length_le split' all') (stripped'.length_le split all)
  cases side with
  | left => exact (List.append_inj' (split.symm.trans split') same).2
  | right => exact (List.append_inj (split.symm.trans split') same).1

/-- Nothing comes off where the run has been taken off. -/
theorem again (stripped : side.IsStripped p l rest) : side.IsStripped p rest rest := by
  refine ⟨⟨[], ?_, ?_⟩, stripped.stops⟩
  · simp
  · simp

end IsStripped

/-- The list without the longest run at this end whose entries satisfy `p`. -/
def dropRun (side : Side) (p : α → Bool) (l : List α) : List α :=
  match side with
  | .left => l.dropWhile p
  | .right => dropWhileRight p l

variable (side : Side) (p q : α → Bool) (l : List α)

theorem isStripped_dropRun : side.IsStripped (p · = true) l (side.dropRun p l) := by
  cases side with
  | left =>
    refine ⟨⟨l.takeWhile p, List.takeWhile_append_dropWhile.symm, ?_⟩, ?_⟩
    · intro a member
      exact List.mem_takeWhile_imp member
    · rintro a ⟨others, first⟩ satisfied
      have stopped := List.head?_dropWhile_not p l
      rw [show l.dropWhile p = a :: others from first.symm] at stopped
      simp [satisfied] at stopped
  | right =>
    refine ⟨⟨l.rtakeWhile p, List.rdropWhile_append_rtakeWhile.symm, ?_⟩, ?_⟩
    · intro a member
      exact List.mem_rtakeWhile_imp member
    · rintro a ⟨others, last⟩ satisfied
      have nonempty : l.rdropWhile p ≠ [] := by
        intro empty
        have none : others ++ [a] = [] := last.trans empty
        simp at none
      apply List.rdropWhile_last_not p l nonempty
      have final : (l.rdropWhile p).getLast nonempty = a := by
        have whole : l.rdropWhile p = others ++ [a] := last.symm
        simp [whole]
      rw [final, satisfied]

variable {side p l} in
theorem dropRun_eq {rest : List α} (stripped : side.IsStripped (p · = true) l rest) :
    side.dropRun p l = rest :=
  (side.isStripped_dropRun p l).unique stripped

theorem dropRun_dropRun : side.dropRun p (side.dropRun p l) = side.dropRun p l :=
  dropRun_eq (side.isStripped_dropRun p l).again

/-- The ends can be taken in either order, also if one run reaches into the other one. -/
theorem dropRun_comm :
    left.dropRun p (right.dropRun q l) = right.dropRun q (left.dropRun p l) := by
  have rightFirst := right.isStripped_dropRun q l
  have thenLeft := left.isStripped_dropRun p (right.dropRun q l)
  obtain ⟨trail, split, trailAll⟩ := rightFirst.exists_run
  obtain ⟨lead, split', leadAll⟩ := thenLeft.exists_run
  generalize left.dropRun p (right.dropRun q l) = middle at *
  have whole : l = lead ++ (middle ++ trail) := by
    rw [← List.append_assoc]
    exact split.trans (congrArg (· ++ trail) split')
  by_cases none : middle = []
  · -- What the left run leaves of the right one goes with it.
    subst none
    have left_rest : left.dropRun p l = trail.dropWhile p := by
      rw [whole]
      exact List.dropWhile_append_of_pos leadAll
    rw [left_rest]
    refine (dropRun_eq ⟨⟨trail.dropWhile p, rfl, ?_⟩, ?_⟩).symm
    · intro a member
      exact trailAll a ((List.dropWhile_suffix p).subset member)
    · rintro a ⟨others, last⟩
      simp at last
  · have left_rest : left.dropRun p l = middle ++ trail := by
      refine dropRun_eq ⟨⟨lead, whole, leadAll⟩, ?_⟩
      rintro a ⟨others, first⟩
      obtain ⟨b, rest, rfl⟩ := List.exists_cons_of_ne_nil none
      obtain ⟨rfl, _⟩ := List.cons.inj first
      exact thenLeft.stops a ⟨rest, rfl⟩
    rw [left_rest]
    refine (dropRun_eq ⟨⟨trail, rfl, trailAll⟩, ?_⟩).symm
    rintro a ⟨others, rfl⟩
    apply rightFirst.stops a
    rw [split']
    exact ⟨lead ++ others, List.append_assoc ..⟩

end Runs

/-! ## Members and blanks -/

theorem dropMembers_eq_dropRun (side : Side) (t : Text) (members : List Text) :
    side.dropMembers false t members = side.dropRun (isMember members) t := by
  cases side <;> rfl

theorem trim_eq_dropRun (side : Side) (t : Text) : side.trim t = side.dropRun isTrimmed t := by
  cases side <;> rfl

theorem isStripped_dropMembers (side : Side) (t : Text) (members : List Text) :
    side.IsStripped (fun c => [c] ∈ members) t (side.dropMembers false t members) := by
  rw [dropMembers_eq_dropRun]
  simpa [isMember] using side.isStripped_dropRun (isMember members) t

/-- The code points up to U+0020, each as a text of its own. -/
def trimmedTexts : List Text := (List.finRange 0x21).map fun n => [n.castLE (by decide)]

theorem mem_trimmedTexts {c : CodePoint} : [c] ∈ trimmedTexts ↔ c.val ≤ 0x20 := by
  constructor
  · intro member
    obtain ⟨n, _, same⟩ := List.mem_map.mp member
    obtain rfl := List.singleton_inj.mp same
    exact Nat.le_of_lt_succ n.isLt
  · intro low
    exact List.mem_map.mpr ⟨⟨c.val, by omega⟩, List.mem_finRange _, rfl⟩

theorem isMember_trimmedTexts : isMember trimmedTexts = isTrimmed := by
  funext c
  rw [Bool.eq_iff_iff, isMember, List.contains_iff_mem, mem_trimmedTexts, isTrimmed,
    decide_eq_true_iff]

theorem trim_eq_dropMembers (side : Side) (t : Text) :
    side.trim t = side.dropMembers false t trimmedTexts := by
  rw [trim_eq_dropRun, dropMembers_eq_dropRun, isMember_trimmedTexts]

/-- The second trimming is made unless the removal has left as many code points. -/
theorem dropMembers_true_eq (side : Side) (t : Text) (members : List Text) :
    side.dropMembers true t members =
      if (side.dropMembers false t.trim members).length = t.trim.length then t.trim
      else side.trim (side.dropMembers false t.trim members) := by
  cases side <;> rfl

/-- Where the second trimming is left out, it would find nothing. -/
theorem dropMembers_true (side : Side) (t : Text) (members : List Text) :
    side.dropMembers true t members = side.trim (side.dropMembers false t.trim members) := by
  rw [dropMembers_true_eq]
  split
  · rename_i same
    rw [(side.isStripped_dropMembers t.trim members).eq_of_length same, trim_trim]
  · rfl

end Side

/-- A text is the trimmed text between code points up to U+0020. -/
theorem Text.exists_blanks_around (t : Text) :
    ∃ lead trail, t = lead ++ t.trim ++ trail ∧ ∀ c ∈ lead ++ trail, c.val ≤ 0x20 := by
  obtain ⟨lead, split, leadAll⟩ := (Side.left.isStripped_dropRun isTrimmed t).exists_run
  obtain ⟨trail, split', trailAll⟩ := (Side.right.isStripped_dropRun isTrimmed t.trimLeft).exists_run
  refine ⟨lead, trail, ?_, ?_⟩
  · rw [List.append_assoc]
    exact split.trans (congrArg (lead ++ ·) split')
  · intro c member
    rcases List.mem_append.mp member with before | behind
    · exact of_decide_eq_true (leadAll c before)
    · exact of_decide_eq_true (trailAll c behind)

theorem Text.lt_of_isAt_trim {side : Side} {c : CodePoint} {t : Text}
    (there : side.IsAt [c] t.trim) : 0x20 < c.val := by
  have stripped := side.isStripped_dropRun isTrimmed t.trim
  rw [← side.trim_eq_dropRun, side.trim_trim] at stripped
  have stops := stripped.stops c there
  rw [isTrimmed, decide_eq_true_iff] at stops
  omega

/-- The units of a text are those of the trimmed text between units up to U+0020. -/
theorem Text.units_between_blanks (t : Text) :
    ∃ lead trail, t.units = lead ++ t.trim.units ++ trail ∧ (∀ u ∈ lead ++ trail, u.val ≤ 0x20) ∧
      ∀ (side : Side) (u : CodeUnit), side.IsAt [u] t.trim.units → 0x20 < u.val := by
  have trimmed : t.trim.units =
      Side.right.dropRun CodeUnit.isTrimmed (Side.left.dropRun CodeUnit.isTrimmed t.units) :=
    units_trim t
  have leftFirst := Side.left.isStripped_dropRun CodeUnit.isTrimmed t.units
  have thenRight := Side.right.isStripped_dropRun CodeUnit.isTrimmed
    (Side.left.dropRun CodeUnit.isTrimmed t.units)
  have thenLeft := Side.left.isStripped_dropRun CodeUnit.isTrimmed
    (Side.right.dropRun CodeUnit.isTrimmed t.units)
  rw [Side.dropRun_comm, ← trimmed] at thenLeft
  rw [← trimmed] at thenRight
  obtain ⟨lead, split, leadAll⟩ := leftFirst.exists_run
  obtain ⟨trail, split', trailAll⟩ := thenRight.exists_run
  simp only [CodeUnit.isTrimmed, decide_eq_true_iff] at leadAll trailAll thenLeft thenRight
  refine ⟨lead, trail, ?_, ?_, ?_⟩
  · rw [List.append_assoc]
    exact split.trans (congrArg (lead ++ ·) split')
  · intro u member
    rcases List.mem_append.mp member with before | behind
    · exact leadAll u before
    · exact trailAll u behind
  · intro side u there
    apply Nat.lt_of_not_le
    cases side with
    | left => exact thenLeft.stops u there
    | right => exact thenRight.stops u there

/-- Removing members at an end takes the longest run of them off, and then there is nothing more to be
    removed. The two ends can be taken in either order, for any two sets, whether the runs meet or not.
    Trimming is the removal of the code points up to U+0020, which takes the units up to U+0020 off both
    ends; around a removal it is made before and after. The loops over the positions of a text, with the
    second trimming left out where the length is the same, come to no other outcome. -/
theorem Side.dropMembers_strips (t : Text) (members members' : List Text) :
    (∀ side : Side,
      (∀ trimming, Stepwise.changeAt side trimming (Stepwise.dropMembers side members) t =
        .ok (side.dropMembers trimming t members)) ∧
      Stepwise.trimSide side t = .ok (side.trim t) ∧
      side.IsStripped (fun c => [c] ∈ members) t (side.dropMembers false t members) ∧
      side.dropMembers false (side.dropMembers false t members) members =
        side.dropMembers false t members ∧
      side.trim t = side.dropMembers false t trimmedTexts ∧
      side.dropMembers true t members = side.trim (side.dropMembers false t.trim members)) ∧
    left.dropMembers false (right.dropMembers false t members') members =
      right.dropMembers false (left.dropMembers false t members) members' ∧
    Stepwise.trim t = .ok t.trim ∧
    ∃ lead trail, t.units = lead ++ t.trim.units ++ trail ∧ (∀ u ∈ lead ++ trail, u.val ≤ 0x20) ∧
      ∀ (side : Side) (u : CodeUnit), side.IsAt [u] t.trim.units → 0x20 < u.val := by
  refine ⟨?_, ?_, Stepwise.trim_eq t, t.units_between_blanks⟩
  · intro side
    refine ⟨?_, Stepwise.trimSide_eq side t, side.isStripped_dropMembers t members, ?_,
      side.trim_eq_dropMembers t, side.dropMembers_true t members⟩
    · intro trimming
      exact Stepwise.changeAt_dropMembers side trimming members t
    · simp only [dropMembers_eq_dropRun, dropRun_dropRun]
  · simp only [dropMembers_eq_dropRun]
    exact dropRun_comm _ _ t

/-- The trailing run takes the whole text, and the leading one begins it. -/
theorem Side.dropMembers_strips_overlap :
    left.dropMembers false (right.dropMembers false [0x2D, 0x2B, 0x2D] [[0x2B], [0x2D]]) [[0x2D]] =
      right.dropMembers false (left.dropMembers false [0x2D, 0x2B, 0x2D] [[0x2D]])
        [[0x2B], [0x2D]] ∧
    right.dropMembers false [0x2D, 0x2B, 0x2D] [[0x2B], [0x2D]] = [] ∧
    left.dropMembers false [0x2D, 0x2B, 0x2D] [[0x2D]] = [0x2B, 0x2D] ∧
    left.IsAt [0x2D] (Text.units (Text.trim [0x2D, 0x2B, 0x2D])) ∧
    0x20 < (0x2D : CodeUnit).val := by
  obtain ⟨_, either, _, lead, trail, _, _, above⟩ :=
    dropMembers_strips [0x2D, 0x2B, 0x2D] [[0x2D]] [[0x2B], [0x2D]]
  have there : left.IsAt [0x2D] (Text.units (Text.trim [0x2D, 0x2B, 0x2D])) :=
    ⟨[0x2B, 0x2D], by decide⟩
  exact ⟨either, by decide, by decide, there, above left _ there⟩

/-- Without the second trimming a space would be left before the letter. -/
example : Side.left.dropMembers true [0x20, 0x2D, 0x20, 0x61] [[0x2D]] = [0x61] := by decide

end UnitText
