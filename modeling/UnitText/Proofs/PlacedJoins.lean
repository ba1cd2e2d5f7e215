import UnitText.Proofs.Joining

/-!
# Separators by position

A join by position counts its entries, the absent ones too, and puts the separator before each entry
that is there and is not the first of all. The join of `Writing` asks what has been written instead. The
two agree after the first entry that is there, so they differ by one separator in front, which is
written if the first entry is absent and another one is not.
-/

namespace UnitText

/-! ## Writing entries by position -/

/-- Where a join by position stands. -/
structure Placing where
  /-- The texts that have been written. -/
  parts : List Text
  /-- The position of the next entry. -/
  position : Nat

namespace Placing

variable (separator : Option Text)

/-- Goes on to an entry. An absent entry only counts, and a separator is written unless none is given,
    be it empty or not. -/
def step (w : Placing) (entry : Option Text) : Placing :=
  match entry with
  | none => { w with position := w.position + 1 }
  | some t =>
    let before := match separator with
      | some mark => if w.position ≠ 0 then w.parts ++ [mark] else w.parts
      | none => w.parts
    { parts := before ++ [t], position := w.position + 1 }

/-- The text that a join by position writes. -/
def run (entries : List (Option Text)) : Text :=
  (entries.foldl (step separator) ⟨[], 0⟩).parts.flatten

/-- What a join by position knows after the entries `before`: how many there were, and the text that it
    has made of them. -/
def IsAt (before : List (Option Text)) (w : Placing) : Prop :=
  w.position = before.length ∧ w.parts.flatten = joinPlaced separator before

theorem joinAfter_append (xs ys : List (Option Text)) :
    joinAfter separator (xs ++ ys) = joinAfter separator xs ++ joinAfter separator ys := by
  induction xs with
  | nil => rfl
  | cons x xs ih =>
    cases x with
    | none => exact ih
    | some t => simp only [List.cons_append, joinAfter, ih, List.append_assoc]

/-- An entry at the end, and the separator before it if it is there and not the first one. -/
theorem joinPlaced_append_singleton (before : List (Option Text)) (entry : Option Text) :
    joinPlaced separator (before ++ [entry]) =
      joinPlaced separator before ++
        if before = [] then entry.getD [] else joinAfter separator [entry] := by
  cases before with
  | nil => simp [joinPlaced, joinAfter]
  | cons first rest =>
    rw [if_neg (List.cons_ne_nil first rest), List.cons_append, joinPlaced, joinPlaced,
      joinAfter_append, List.append_assoc]

theorem isAt_nil : IsAt separator [] ⟨[], 0⟩ := ⟨rfl, rfl⟩

variable {separator}

theorem isAt_step {before : List (Option Text)} {w : Placing} (standing : IsAt separator before w)
    (entry : Option Text) : IsAt separator (before ++ [entry]) (step separator w entry) := by
  obtain ⟨counted, written⟩ := standing
  have first : w.position = 0 ↔ before = [] := by
    rw [counted]
    exact List.length_eq_zero_iff
  rw [IsAt, joinPlaced_append_singleton, List.length_append, List.length_singleton, ← counted,
    ← written]
  cases entry with
  | none => exact ⟨rfl, by simp [step, joinAfter]⟩
  | some t =>
    refine ⟨rfl, ?_⟩
    -- A separator that is not given is not written, and stands for the empty one.
    cases separator with
    | none => by_cases none : before = [] <;> simp [step, joinAfter, separatorText, none]
    | some mark =>
      by_cases none : before = [] <;> simp [step, joinAfter, separatorText, first, none]

theorem isAt_foldl {before : List (Option Text)} {w : Placing} (standing : IsAt separator before w)
    (entries : List (Option Text)) :
    IsAt separator (before ++ entries) (entries.foldl (step separator) w) := by
  induction entries generalizing before w with
  | nil => simpa using standing
  | cons entry entries ih =>
    have further := ih (isAt_step standing entry)
    rwa [List.append_assoc, List.singleton_append] at further

theorem run_eq (entries : List (Option Text)) : run separator entries = joinPlaced separator entries :=
  (isAt_foldl (isAt_nil separator) entries).2

end Placing

/-! ## Absent entries -/

/-- A text that may be absent, as an entry. -/
def Value.ofEntry : Option Text → Value
  | none => .null
  | some t => .text t

/-- Whether an entry is not absent. -/
def Value.isPresent : Value → Bool
  | .null => false
  | _ => true

theorem Value.isSome_entry? (v : Value) : Option.isSome v.entry? = v.isPresent := by
  cases v <;> rfl

theorem Value.entry?_ofEntry (entry : Option Text) : Value.entry? (ofEntry entry) = entry := by
  cases entry <;> rfl

theorem filterMap_entry?_map_ofEntry (entries : List (Option Text)) :
    (entries.map Value.ofEntry).filterMap Value.entry? = entries.filterMap id := by
  rw [List.filterMap_map]
  congr 1
  funext entry
  exact Value.entry?_ofEntry entry

theorem allWritable_map_ofEntry (entries : List (Option Text)) :
    Value.allWritable (entries.map Value.ofEntry) = true := by
  induction entries with
  | nil => rfl
  | cons entry entries ih =>
    cases entry <;> simp [Value.allWritable, Value.isWritable, Value.ofEntry, ih]

theorem allWritable_append (xs ys : List Value) :
    Value.allWritable (xs ++ ys) = (Value.allWritable xs && Value.allWritable ys) := by
  induction xs with
  | nil => rfl
  | cons x xs ih => simp [Value.allWritable, ih, Bool.and_assoc]

theorem filterMap_ne_nil_iff {α β : Type} (f : α → Option β) (l : List α) :
    l.filterMap f ≠ [] ↔ l.any (fun a => (f a).isSome) = true := by
  simp [List.filterMap_eq_nil_iff, Option.isSome_iff_ne_none]

section Separators

variable (separator : Option Text)

theorem joinAfter_eq_flatMap (entries : List (Option Text)) :
    joinAfter separator entries =
      (entries.filterMap id).flatMap (separatorText separator ++ ·) := by
  induction entries with
  | nil => rfl
  | cons entry entries ih =>
    cases entry with
    | none => simpa [joinAfter] using ih
    | some t => simp [joinAfter, ih]

/-- What a join by position writes before anything else: the separator, if the first entry is absent and
    a later one is not. -/
def leadingSeparator (entries : List (Option Text)) : Text :=
  if entries.head? = some none ∧ entries.tail.any Option.isSome then separatorText separator else []

theorem joinPlaced_eq (entries : List (Option Text)) :
    joinPlaced separator entries =
      leadingSeparator separator entries ++
        Value.separated (separatorText separator) (entries.filterMap id) := by
  match entries with
  | [] => rfl
  | some t :: rest =>
    have noLead : leadingSeparator separator (some t :: rest) = [] := if_neg (by simp)
    have written : (some t :: rest).filterMap id = t :: rest.filterMap id := rfl
    rw [noLead, written, separated_cons, joinPlaced, joinAfter_eq_flatMap]
    rfl
  | none :: rest =>
    have written : (none :: rest).filterMap id = rest.filterMap id := rfl
    have later : rest.filterMap id ≠ [] ↔ rest.any Option.isSome = true :=
      filterMap_ne_nil_iff id rest
    rw [leadingSeparator, written, joinPlaced, joinAfter_eq_flatMap]
    cases there : rest.filterMap id with
    | nil =>
      have nothing : ¬ rest.any Option.isSome = true := fun some => later.mpr some there
      simp [nothing, Value.separated]
    | cons first others =>
      have something : rest.any Option.isSome = true := by
        apply later.mp
        rw [there]
        exact List.cons_ne_nil first others
      rw [if_pos ⟨rfl, something⟩, separated_cons, List.flatMap_cons, List.append_assoc]
      rfl

/-- Between two lists of texts a separator stands only if neither is empty. -/
theorem separated_append (mark : Text) (ss ts : List Text) :
    Value.separated mark (ss ++ ts) =
      Value.separated mark ss ++ (if ss ≠ [] ∧ ts ≠ [] then mark else []) ++
        Value.separated mark ts := by
  cases ss with
  | nil => simp [Value.separated]
  | cons s ss =>
    cases ts with
    | nil => simp [Value.separated]
    | cons t ts =>
      rw [if_pos (by simp), List.cons_append, separated_cons, separated_cons, separated_cons,
        List.flatMap_append, List.flatMap_cons]
      simp only [List.append_assoc]

theorem joinWritten_append (xs ys : List Value) :
    joinWritten separator (xs ++ ys) =
      joinWritten separator xs ++
        (if xs.any Value.isPresent ∧ ys.any Value.isPresent then separatorText separator else []) ++
        joinWritten separator ys := by
  rw [joinWritten, List.filterMap_append, separated_append]
  simp only [filterMap_ne_nil_iff, Value.isSome_entry?]
  rfl

end Separators

namespace Request

theorem run_joinWritten (separator : Option Text) (entries : List Value) :
    (joinWritten separator (some entries)).run =
      if Value.allWritable entries then .ok (.text (UnitText.joinWritten separator entries))
      else .error .longNumeral := by
  rw [run, required, Except.mapError, Stepwise.ok_bind, checkWritable]
  split <;> rfl

theorem run_joinWritten_eq_ok_iff {separator : Option Text} {entries : List Value} {t : Text} :
    (joinWritten separator (some entries)).run = .ok (.text t) ↔
      Value.allWritable entries = true ∧ UnitText.joinWritten separator entries = t := by
  rw [run_joinWritten]
  split
  · rename_i writable
    simp [writable]
  · rename_i unwritable
    simp [unwritable]

theorem run_joinWritten_ofEntry (separator : Option Text) (entries : List (Option Text)) :
    (joinWritten separator (some (entries.map Value.ofEntry))).run =
      .ok (.text (Value.separated (separatorText separator) (entries.filterMap id))) := by
  rw [run_joinWritten, if_pos (allWritable_map_ofEntry entries), UnitText.joinWritten,
    filterMap_entry?_map_ofEntry]

/-- Joining by position against joining what is written. Both are loops over the entries, and for texts
    that may be absent both answer: by position there is one separator more in front if the first entry
    is absent and a later one is not, so without a separator there is no difference. Joining two lists
    one after the other is possible if each of them can be joined, and puts the separator between the two
    answers if both lists have an entry that is there. -/
theorem joinPlaced_leads (separator : Option Text) :
    (∀ entries, UnitText.joinPlaced separator entries = Placing.run separator entries) ∧
    (∀ entries, UnitText.joinWritten separator entries = Writing.run separator entries) ∧
    (∀ entries : List (Option Text), ∃ joined : Text,
      (joinWritten separator (some (entries.map Value.ofEntry))).run = .ok (.text joined) ∧
      (joinPlaced separator entries).run =
        .ok (.text (leadingSeparator separator entries ++ joined))) ∧
    (∀ entries : List (Option Text), ∃ joined : Text,
      (concatEntries (some (entries.map Value.ofEntry))).run = .ok (.text joined) ∧
      (concatTexts entries).run = .ok (.text joined)) ∧
    ∀ (xs ys : List Value) (whole : Text),
      (joinWritten separator (some (xs ++ ys))).run = .ok (.text whole) ↔
        ∃ first second : Text,
          (joinWritten separator (some xs)).run = .ok (.text first) ∧
          (joinWritten separator (some ys)).run = .ok (.text second) ∧
          whole = first ++
            (if xs.any Value.isPresent ∧ ys.any Value.isPresent then separatorText separator
              else []) ++ second := by
  refine ⟨?_, ?_, ?_, ?_, ?_⟩
  · intro entries
    exact (Placing.run_eq entries).symm
  · intro entries
    exact (Writing.run_eq entries).symm
  · intro entries
    refine ⟨_, run_joinWritten_ofEntry separator entries, ?_⟩
    rw [run, joinPlaced_eq]
  · intro entries
    have noLead : leadingSeparator none entries = [] := ite_self []
    refine ⟨_, run_joinWritten_ofEntry none entries, ?_⟩
    rw [run, UnitText.concatTexts, joinPlaced_eq, noLead, List.nil_append]
  · intro xs ys whole
    simp only [run_joinWritten_eq_ok_iff, allWritable_append, Bool.and_eq_true, joinWritten_append]
    constructor
    · rintro ⟨⟨writable, writable'⟩, rfl⟩
      exact ⟨_, _, ⟨writable, rfl⟩, ⟨writable', rfl⟩, rfl⟩
    · rintro ⟨first, second, ⟨writable, rfl⟩, ⟨writable', rfl⟩, rfl⟩
      exact ⟨⟨writable, writable'⟩, rfl⟩

/-- An absent first entry leaves a separator in front; absent entries at the end leave none. -/
example : UnitText.joinPlaced (some [0x2C]) [none, some [0x61], none, some [0x62], none] =
    [0x2C, 0x61, 0x2C, 0x62] := by decide

end Request

end UnitText
