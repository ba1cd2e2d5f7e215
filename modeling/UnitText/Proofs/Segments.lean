import UnitText.Text.Segments
import UnitText.Value

/-!
# Segments of a text

The segments between the delimiters hold no delimiter, and texts without a delimiter that are joined
by one are the segments of what comes out.
-/

namespace UnitText

variable {isDelimiter : CodePoint → Bool}

theorem segments_ne_nil (t : Text) : segments isDelimiter t ≠ [] := by
  cases t with
  | nil => simp [segments]
  | cons c rest =>
    rw [segments]
    split
    · simp
    · split <;> simp

theorem not_isDelimiter_of_mem_segments {t s : Text} (member : s ∈ segments isDelimiter t) :
    ∀ c ∈ s, isDelimiter c = false := by
  induction t generalizing s with
  | nil =>
    rw [segments, List.mem_singleton] at member
    simp [member]
  | cons c rest ih =>
    rw [segments] at member
    split at member
    · rcases List.mem_cons.mp member with rfl | later
      · simp
      · exact ih later
    · rename_i plain
      split at member
      · rename_i absent
        exact absurd absent (segments_ne_nil rest)
      · rename_i first others found
        rw [found] at ih
        rcases List.mem_cons.mp member with rfl | later
        · intro d inside
          rcases List.mem_cons.mp inside with rfl | inside
          · simpa using plain
          · exact ih (List.mem_cons_self ..) d inside
        · exact ih (List.mem_cons_of_mem first later)

theorem segments_append_cons {line : Text} {mark : CodePoint}
    (inside : ∀ c ∈ line, isDelimiter c = false) (ends : isDelimiter mark = true) (rest : Text) :
    segments isDelimiter (line ++ mark :: rest) = line :: segments isDelimiter rest := by
  induction line with
  | nil => rw [List.nil_append, segments, if_pos ends]
  | cons c line ih =>
    have first := inside c (List.mem_cons_self ..)
    rw [List.cons_append, segments, if_neg (by simp [first]),
      ih fun d member => inside d (List.mem_cons_of_mem c member)]

theorem segments_of_not_isDelimiter {t : Text} (inside : ∀ c ∈ t, isDelimiter c = false) :
    segments isDelimiter t = [t] := by
  induction t with
  | nil => rfl
  | cons c rest ih =>
    have first := inside c (List.mem_cons_self ..)
    rw [segments, if_neg (by simp [first]), ih fun d member => inside d (List.mem_cons_of_mem c member)]

theorem separated_cons_cons (separator s t : Text) (rest : List Text) :
    Value.separated separator (s :: t :: rest) = s ++ separator ++ Value.separated separator (t :: rest) := by
  simp [Value.separated]

/-- Joining writes the first text, and each later one behind the separator. -/
theorem separated_cons (separator t : Text) (ts : List Text) :
    Value.separated separator (t :: ts) = t ++ ts.flatMap (separator ++ ·) := by
  induction ts generalizing t with
  | nil => simp [Value.separated]
  | cons next rest ih =>
    rw [separated_cons_cons, ih next, List.flatMap_cons, List.append_assoc, List.append_assoc]

/-- Texts without a delimiter, joined by one, are the segments. -/
theorem segments_separated {mark : CodePoint} (ends : isDelimiter mark = true) {parts : List Text}
    (nonempty : parts ≠ []) (inside : ∀ part ∈ parts, ∀ c ∈ part, isDelimiter c = false) :
    segments isDelimiter (Value.separated [mark] parts) = parts := by
  induction parts with
  | nil => exact absurd rfl nonempty
  | cons part rest ih =>
    have first := inside part (List.mem_cons_self ..)
    cases rest with
    | nil =>
      have alone : Value.separated [mark] [part] = part := by simp [Value.separated]
      rw [alone, segments_of_not_isDelimiter first]
    | cons next rest =>
      rw [separated_cons_cons, List.append_assoc, List.singleton_append,
        segments_append_cons first ends,
        ih (List.cons_ne_nil next rest) fun other member => inside other (List.mem_cons_of_mem part member)]

end UnitText
