import UnitText.Proofs.Splitting

/-!
# Joining what was split

A join writes its entries one after the other. It notes that something has been written, and from then
on puts the separator before each entry that is there. A split cuts at positions instead. With one
code unit both as separator and as delimiter they undo each other, with one exception: the empty text
has no segments, so one empty part is not found again.
-/

namespace UnitText

/-! ## Writing entries one after the other -/

/-- Where a join stands. -/
structure Writing where
  /-- The texts that have been written. -/
  parts : List Text
  /-- Whether an entry has been written, so that a separator is due before the next one. -/
  due : Bool

namespace Writing

variable (separator : Option Text)

/-- Goes on to an entry. An absent entry changes nothing, and an empty separator is not written. -/
def step (w : Writing) (entry : Value) : Writing :=
  match entry.entry? with
  | none => w
  | some t =>
    let before := if w.due ∧ separatorText separator ≠ [] then w.parts ++ [separatorText separator]
      else w.parts
    { parts := before ++ [t], due := true }

/-- The text that a join writes. -/
def run (entries : List Value) : Text := (entries.foldl (step separator) ⟨[], false⟩).parts.flatten

/-- What a join knows after the entries `before`: it has written those that are there, with the separator
    between them, and a separator is due if there were any. -/
def IsAt (before : List Value) (w : Writing) : Prop :=
  w.parts.flatten = Value.separated (separatorText separator) (before.filterMap Value.entry?) ∧
  (w.due = true ↔ before.filterMap Value.entry? ≠ [])

theorem separated_append_singleton (mark t : Text) (ts : List Text) :
    Value.separated mark (ts ++ [t]) =
      if ts = [] then t else Value.separated mark ts ++ mark ++ t := by
  cases ts with
  | nil => simp [Value.separated]
  | cons first rest =>
    rw [if_neg (by simp), List.cons_append, separated_cons, separated_cons, List.flatMap_append]
    simp

theorem isAt_nil : IsAt separator [] ⟨[], false⟩ := ⟨rfl, by simp⟩

variable {separator}

theorem isAt_step {before : List Value} {w : Writing} (standing : IsAt separator before w)
    (entry : Value) : IsAt separator (before ++ [entry]) (step separator w entry) := by
  obtain ⟨written, due⟩ := standing
  rw [IsAt, List.filterMap_append, step]
  split
  · rename_i absent
    simp [absent, written, due]
  · rename_i t there
    have only : [entry].filterMap Value.entry? = [t] := by simp [there]
    refine ⟨?_, by simp [only]⟩
    rw [only, separated_append_singleton, ← written]
    -- An empty separator is left out, which is no other text than with it.
    by_cases first : before.filterMap Value.entry? = []
    · have nothing : w.parts.flatten = [] := by
        rw [written, first]
        rfl
      simp [due, first, nothing]
    · by_cases silent : separatorText separator = []
      · simp [first, silent]
      · simp [due, first, silent]

theorem isAt_foldl {before : List Value} {w : Writing} (standing : IsAt separator before w)
    (entries : List Value) :
    IsAt separator (before ++ entries) (entries.foldl (step separator) w) := by
  induction entries generalizing before w with
  | nil => simpa using standing
  | cons entry entries ih =>
    have further := ih (isAt_step standing entry)
    rwa [List.append_assoc, List.singleton_append] at further

theorem run_eq (entries : List Value) : run separator entries = joinWritten separator entries :=
  (isAt_foldl (isAt_nil separator) entries).1

end Writing

theorem filterMap_entry?_map_text (parts : List Text) :
    (parts.map Value.text).filterMap Value.entry? = parts := by
  rw [List.filterMap_map]
  exact List.filterMap_some

theorem allWritable_map_text (parts : List Text) :
    Value.allWritable (parts.map Value.text) = true := by
  induction parts with
  | nil => rfl
  | cons part parts ih => simp [Value.allWritable, Value.isWritable, ih]

/-! ## One code unit as separator and as delimiter -/

section OneUnit

variable (d : CodeUnit)

theorem isAmong_singleton : isAmong [d] = (· == d.toCodePoint) := by
  funext c
  rw [Bool.eq_iff_iff, isAmong_iff, beq_iff_eq]
  simp only [List.mem_singleton, exists_eq_left]
  exact eq_comm

/-- The segments, joined by the delimiter, make the text. -/
theorem separated_segments (t : Text) :
    Value.separated [d.toCodePoint] (segments (isAmong [d]) t) = t := by
  rw [isAmong_singleton, segments_eq_splitOnP, ← List.splitOn_eq_splitOnP]
  exact List.intercalate_splitOn d.toCodePoint

theorem segments_separated_unit {parts : List Text} (nonempty : parts ≠ [])
    (apart : ∀ part ∈ parts, d.toCodePoint ∉ part) :
    segments (isAmong [d]) (Value.separated [d.toCodePoint] parts) = parts := by
  apply segments_separated _ nonempty
  · intro part member c inside
    rw [isAmong_singleton, beq_eq_false_iff_ne]
    rintro rfl
    exact apart part member inside
  · simp [isAmong_singleton]

/-- Texts without the delimiter that make the empty text are none, or one that is empty. -/
theorem eq_of_separated_eq_nil {parts : List Text} (apart : ∀ part ∈ parts, d.toCodePoint ∉ part)
    (empty : Value.separated [d.toCodePoint] parts = []) : parts = [] ∨ parts = [[]] := by
  by_cases none : parts = []
  · exact .inl none
  · right
    rw [← segments_separated_unit d none apart, empty]
    rfl

/-- A scan finds the parts again, as far as they are wanted, unless there is one part and it is empty. -/
theorem run_separated {parts : List Text} (apart : ∀ part ∈ parts, d.toCodePoint ∉ part)
    (notAlone : parts ≠ [[]]) (dropEmpty : Bool) :
    Scan.run (isAmong [d]) dropEmpty (Value.separated [d.toCodePoint] parts) =
      wanted dropEmpty parts := by
  by_cases empty : Value.separated [d.toCodePoint] parts = []
  · rcases eq_of_separated_eq_nil d apart empty with none | alone
    · rw [empty, none]
      cases dropEmpty <;> rfl
    · exact absurd alone notAlone
  · have nonempty : parts ≠ [] := by
      rintro rfl
      exact empty rfl
    rw [Scan.run_of_ne_nil _ empty, segments_separated_unit d nonempty apart]

end OneUnit

namespace Request

theorem run_joinWritten_texts (separator : Option Text) (parts : List Text) :
    (joinWritten separator (some (parts.map .text))).run =
      .ok (.text (Value.separated (separatorText separator) parts)) := by
  have writable : checkWritable (parts.map Value.text) = .ok () :=
    if_pos (allWritable_map_text parts)
  have joined : UnitText.joinWritten separator (parts.map .text) =
      Value.separated (separatorText separator) parts := by
    rw [UnitText.joinWritten, filterMap_entry?_map_text]
  rw [← joined, run, required, Except.mapError, Stepwise.ok_bind, writable]
  rfl

/-- Joining and splitting with one code unit. A join writes its entries one after the other, with the
    separator between them. Joining the segments of a text gives the text. Parts in which the unit does
    not occur are the segments of the text that they are joined to, unless there is one part and it is
    empty; and if empty segments are dropped, they are always found but for those that are empty. -/
theorem split_join_inverse (d : CodeUnit) :
    (∀ separator entries,
      UnitText.joinWritten separator entries = Writing.run separator entries) ∧
    (∀ t : Text, ∃ parts : List Text,
      (split (some t) (some (delimiterValues [d])) false).run = .ok (.texts parts) ∧
      (joinWritten (some [d.toCodePoint]) (some (parts.map .text))).run = .ok (.text t)) ∧
    ∀ parts : List Text, (∀ part ∈ parts, d.toCodePoint ∉ part) → ∃ t : Text,
      (joinWritten (some [d.toCodePoint]) (some (parts.map .text))).run = .ok (.text t) ∧
      ((split (some t) (some (delimiterValues [d])) false).run = .ok (.texts parts) ↔
        parts ≠ [[]]) ∧
      (split (some t) (some (delimiterValues [d])) true).run =
        .ok (.texts (parts.filter fun part => !part.isEmpty)) := by
  refine ⟨fun separator entries => (Writing.run_eq entries).symm, ?_, ?_⟩
  · intro t
    refine ⟨_, run_split (some t) [d] false, ?_⟩
    rw [run_joinWritten_texts]
    by_cases empty : t = []
    · rw [empty]
      rfl
    · rw [Option.getD_some, Scan.run_of_ne_nil t empty]
      exact congrArg (fun t => Except.ok (Answer.text t)) (separated_segments d t)
  · intro parts apart
    refine ⟨_, run_joinWritten_texts (some [d.toCodePoint]) parts, ?_⟩
    rw [run_split, run_split]
    by_cases alone : parts = [[]]
    · subst alone
      refine ⟨iff_of_false ?_ (by simp), rfl⟩
      intro found
      cases found
    · have found := run_separated d apart alone
      refine ⟨iff_of_true ?_ alone, ?_⟩
      · exact congrArg (fun parts => Except.ok (Answer.texts parts)) (found false)
      · exact congrArg (fun parts => Except.ok (Answer.texts parts)) (found true)

/-- Empty parts at both ends are found again, and one empty part alone is not. -/
theorem split_join_inverse_empty_parts :
    ((∀ part ∈ ([[], [0x61], []] : List Text), CodeUnit.toCodePoint 0x2C ∉ part) ∧
      ∃ t : Text,
        (joinWritten (some [CodeUnit.toCodePoint 0x2C])
          (some (([[], [0x61], []] : List Text).map .text))).run = .ok (.text t) ∧
        (split (some t) (some (delimiterValues [0x2C])) false).run =
          .ok (.texts [[], [0x61], []]) ∧
        (split (some t) (some (delimiterValues [0x2C])) true).run = .ok (.texts [[0x61]])) ∧
    ∃ t : Text,
      (joinWritten (some [CodeUnit.toCodePoint 0x2C]) (some (([[]] : List Text).map .text))).run =
        .ok (.text t) ∧
      (split (some t) (some (delimiterValues [0x2C])) false).run ≠ .ok (.texts [[]]) := by
  have apart : ∀ part ∈ ([[], [0x61], []] : List Text), CodeUnit.toCodePoint 0x2C ∉ part := by
    simp only [List.mem_cons, List.not_mem_nil, or_false, forall_eq_or_imp, forall_eq]
    decide
  have nothing : ∀ part ∈ ([[]] : List Text), CodeUnit.toCodePoint 0x2C ∉ part := by simp
  obtain ⟨t, joined, found, dropped⟩ := (split_join_inverse 0x2C).2.2 _ apart
  obtain ⟨s, alone, lost, _⟩ := (split_join_inverse 0x2C).2.2 _ nothing
  refine ⟨⟨apart, t, joined, found.mpr (by decide), dropped⟩, s, alone, ?_⟩
  intro kept
  exact lost.mp kept rfl

end Request

end UnitText
