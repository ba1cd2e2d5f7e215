import UnitText.Proofs.MatchedParts
import UnitText.Proofs.Segments

/-!
# Splitting at delimiters

A text is split by one scan from the left, which keeps the position where the current segment starts
and the segments that are complete. The scan serves both modes: it writes an empty segment only if
these are wanted, and the one behind a last delimiter it writes as soon as it meets that delimiter.
`Scan.IsAt` says what the scan knows between two code points. One step keeps it, and at the end it
says that the segments of the text have been written, or those of them that are not empty.

There is one segment more than there are delimiters, and the text is made of both in turn.
-/

namespace UnitText

/-! ## Segments and delimiters in turn -/

section Segments

variable (isDelimiter : CodePoint → Bool)

theorem segments_eq_splitOnP (t : Text) : segments isDelimiter t = t.splitOnP isDelimiter := by
  induction t with
  | nil => simp [segments]
  | cons c rest ih =>
    rw [segments, ih, List.splitOnP_cons_eq_if_modifyHead]
    split
    · rfl
    · obtain ⟨first, others, found⟩ :=
        List.exists_cons_of_ne_nil (List.splitOnP_ne_nil isDelimiter rest)
      rw [found, List.modifyHead_cons]

theorem length_splitOnP {α : Type} (p : α → Bool) (l : List α) :
    (l.splitOnP p).length = l.countP p + 1 := by
  induction l with
  | nil => simp
  | cons a l ih =>
    rw [List.splitOnP_cons_eq_if_modifyHead, List.countP_cons]
    split
    · rw [List.length_cons, ih]
    · rw [List.length_modifyHead, ih, Nat.add_zero]

/-- Texts and code points in turn: each text but the last one is followed by a code point. -/
def interleave (parts : List Text) (marks : List CodePoint) : Text :=
  (List.zipWith (· ++ ·) parts (marks.map ([·]) ++ [[]])).flatten

theorem interleave_segments (t : Text) :
    interleave (segments isDelimiter t) (t.filter isDelimiter) = t := by
  rw [segments_eq_splitOnP]
  exact List.splitOnP_spec t

end Segments

/-! ## The scan -/

/-- The segments that are wanted: all of them, or those that are not empty. -/
def wanted (dropEmpty : Bool) (parts : List Text) : List Text :=
  if dropEmpty then parts.filter (fun part => !part.isEmpty) else parts

theorem wanted_append_singleton (dropEmpty : Bool) (parts : List Text) (part : Text) :
    wanted dropEmpty (parts ++ [part]) =
      if part ≠ [] ∨ dropEmpty = false then wanted dropEmpty parts ++ [part]
      else wanted dropEmpty parts := by
  cases dropEmpty with
  | false => simp [wanted]
  | true => by_cases empty : part = [] <;> simp [wanted, empty]

/-- An empty segment at the end is written if it is wanted. -/
theorem wanted_append_empty (dropEmpty : Bool) (parts : List Text) (ends : Prop) [Decidable ends] :
    wanted dropEmpty (if ends then parts ++ [[]] else parts) =
      if dropEmpty = false ∧ ends then wanted dropEmpty parts ++ [[]] else wanted dropEmpty parts := by
  by_cases last : ends
  · rw [if_pos last, wanted_append_singleton]
    simp [last]
  · simp [last]

/-- Where a scan from the left stands. -/
structure Scan where
  /-- The position where the current segment starts. -/
  start : Nat
  /-- The segments that are complete. -/
  parts : List Text

namespace Scan

variable (isDelimiter : CodePoint → Bool) (dropEmpty : Bool) (t : Text)

/-- Goes on to the code point at a position. A delimiter completes the current segment. At the end of
    the text it also completes the empty one behind it. -/
def step (s : Scan) (e : CodePoint × Nat) : Scan :=
  if isDelimiter e.1 then
    let closed :=
      if e.2 ≠ s.start ∨ dropEmpty = false then
        s.parts ++ [cut t (some (s.start : Int)) (some (e.2 : Int))]
      else s.parts
    { start := e.2 + 1
      parts := if dropEmpty = false ∧ e.2 + 1 = t.length then closed ++ [[]] else closed }
  else s

/-- The segments at the end of the text, where the current one is complete unless it is empty. -/
def finish (s : Scan) : List Text :=
  if s.start < t.length then
    s.parts ++ [cut t (some (s.start : Int)) (some (t.length : Int))]
  else s.parts

/-- The segments that a scan along the whole text finds. -/
def run : List Text :=
  finish t (t.zipIdx.foldl (step isDelimiter dropEmpty t) ⟨0, []⟩)

/-- What a scan knows between `before` and `rest`. Its start is where `before` can be cut without
    cutting a segment, and no delimiter has come since. The segments up to there are complete as far as
    they are wanted. So is the empty one behind a delimiter that nothing follows. -/
def IsAt (before rest : Text) (s : Scan) : Prop :=
  ∃ (passed current : Text) (closed : List Text),
    before = passed ++ current ∧ s.start = passed.length ∧
    (∀ c ∈ current, isDelimiter c = false) ∧
    (∀ u, segments isDelimiter (passed ++ u) = closed ++ segments isDelimiter u) ∧
    s.parts = wanted dropEmpty
      (if rest = [] ∧ current = [] ∧ before ≠ [] then closed ++ [[]] else closed)

theorem isAt_nil (rest : Text) : IsAt isDelimiter dropEmpty [] rest ⟨0, []⟩ := by
  refine ⟨[], [], [], rfl, rfl, by simp, by simp, ?_⟩
  cases dropEmpty <;> simp [wanted]

theorem cut_between {α : Type} (before current after : List α) :
    cut (before ++ current ++ after) (some (before.length : Int))
      (some ((before ++ current).length : Int)) = current := by
  have range := cut_range (before ++ current ++ after) before.length current.length
  rw [List.append_assoc, List.drop_left, List.take_left] at range
  rw [List.append_assoc, List.length_append, Int.natCast_add, range]

variable {isDelimiter dropEmpty}

theorem isAt_step {before rest : Text} {c : CodePoint} {s : Scan}
    (standing : IsAt isDelimiter dropEmpty before (c :: rest) s) :
    IsAt isDelimiter dropEmpty (before ++ [c]) rest
      (step isDelimiter dropEmpty (before ++ c :: rest) s (c, before.length)) := by
  obtain ⟨passed, current, closed, rfl, start, plain, split, parts⟩ := standing
  rw [if_neg (by simp)] at parts
  rw [step]
  split
  · rename_i delimiter
    -- The current segment is complete, and `before` can be cut behind the delimiter from now on.
    refine ⟨passed ++ current ++ [c], [], closed ++ [current], by simp, ?_, by simp, ?_, ?_⟩
    · show (passed ++ current).length + [c].length = (passed ++ current ++ [c]).length
      exact List.length_append.symm
    · intro u
      rw [List.append_assoc, List.append_assoc, split, List.singleton_append,
        segments_append_cons plain delimiter, List.append_assoc, List.singleton_append]
    · have part : cut (passed ++ current ++ c :: rest) (some (s.start : Int))
          (some ((passed ++ current).length : Int)) = current := by
        rw [start]
        exact cut_between passed current (c :: rest)
      have inside : (passed ++ current).length ≠ s.start ↔ current ≠ [] := by
        rw [start, List.length_append, Ne, Nat.add_eq_left, List.length_eq_zero_iff]
      have last : (passed ++ current).length + 1 = (passed ++ current ++ c :: rest).length ↔
          rest = [] := by
        have total : (passed ++ current ++ c :: rest).length =
            (passed ++ current).length + (rest.length + 1) := List.length_append
        rw [total, Nat.add_left_cancel_iff, Nat.right_eq_add, List.length_eq_zero_iff]
      simp only [part, inside, last, parts, ← wanted_append_singleton, wanted_append_empty]
      simp
  · rename_i notDelimiter
    -- The current segment grows. It is not empty now, so no segment is due at the end.
    refine ⟨passed, current ++ [c], closed, by simp, start, ?_, split, ?_⟩
    · intro d member
      rcases List.mem_append.mp member with earlier | last
      · exact plain d earlier
      · rw [List.mem_singleton.mp last]
        simpa using notDelimiter
    · rw [parts, if_neg (by simp)]

/-- What holds between two code points holds at the end of the text. -/
theorem isAt_foldl {before rest : Text} {s : Scan}
    (standing : IsAt isDelimiter dropEmpty before rest s) :
    IsAt isDelimiter dropEmpty (before ++ rest) []
      ((rest.zipIdx before.length).foldl (step isDelimiter dropEmpty (before ++ rest)) s) := by
  -- What is left gets shorter by a code point that is added to `before`, so the whole stays the same.
  induction rest generalizing before s with
  | nil => simpa using standing
  | cons c rest ih =>
    have further := ih (isAt_step standing)
    rw [List.append_assoc, List.singleton_append, List.length_append, List.length_singleton]
      at further
    rw [List.zipIdx_cons, List.foldl_cons]
    exact further

theorem finish_of_isAt {s : Scan} (standing : IsAt isDelimiter dropEmpty t [] s)
    (nonempty : t ≠ []) : finish t s = wanted dropEmpty (segments isDelimiter t) := by
  obtain ⟨passed, current, closed, rfl, start, plain, split, parts⟩ := standing
  rw [split, segments_of_not_isDelimiter plain, finish, start, parts]
  by_cases empty : current = []
  · rw [if_neg (by simp [empty]), if_pos ⟨rfl, empty, nonempty⟩, empty]
  · have inside : passed.length < (passed ++ current).length := by
      rw [List.length_append]
      exact Nat.lt_add_of_pos_right (List.length_pos_iff.mpr empty)
    have part := cut_between passed current []
    rw [List.append_nil] at part
    rw [if_pos inside, if_neg (by simp [empty]), part, wanted_append_singleton,
      if_pos (.inl empty)]

theorem run_of_ne_nil (nonempty : t ≠ []) :
    run isDelimiter dropEmpty t = wanted dropEmpty (segments isDelimiter t) :=
  finish_of_isAt t (isAt_foldl (isAt_nil isDelimiter dropEmpty t)) nonempty

theorem run_nil : run isDelimiter dropEmpty [] = [] := rfl

end Scan

/-! ## Requests to split -/

/-- Whether a code point is one of some delimiters. -/
def isAmong (ds : List CodeUnit) (c : CodePoint) : Bool := ds.any fun d => d.val == c.val

/-- Delimiters as a caller gives them, each as a text of one code unit. -/
def delimiterValues (ds : List CodeUnit) : List Value := ds.map fun d => .text [d.toCodePoint]

theorem isAmong_iff {ds : List CodeUnit} {c : CodePoint} :
    isAmong ds c = true ↔ ∃ d ∈ ds, d.toCodePoint = c := by
  simp only [isAmong, List.any_eq_true, beq_iff_eq, Fin.ext_iff]
  rfl

theorem Text.split_eq_run (t : Text) (ds : List CodeUnit) (dropEmpty : Bool) :
    t.split ds dropEmpty = Scan.run (isAmong ds) dropEmpty t := by
  by_cases empty : t = []
  · rw [empty, Scan.run_nil]
    rfl
  · rw [Scan.run_of_ne_nil t empty, Text.split, if_neg (by simpa using empty)]
    rfl

theorem requiredUnit_toCodePoint (argument : Text) (u : CodeUnit) :
    requiredUnit argument (.text [u.toCodePoint]) = .ok u := dif_pos u.isLt

theorem requiredDelimiters_delimiterValues (ds : List CodeUnit) :
    requiredDelimiters (some (delimiterValues ds)) = .ok ds := by
  show (delimiterValues ds).mapM (requiredUnit (text "delimiters")) = .ok ds
  induction ds with
  | nil => rfl
  | cons d ds ih =>
    rw [delimiterValues, List.map_cons, List.mapM_cons, requiredUnit_toCodePoint]
    rw [delimiterValues] at ih
    rw [ih]
    rfl

namespace Request

theorem run_split (value : Option Text) (ds : List CodeUnit) (dropEmpty : Bool) :
    (split value (some (delimiterValues ds)) dropEmpty).run =
      .ok (.texts (Scan.run (isAmong ds) dropEmpty (value.getD []))) := by
  rw [run, splitAt, requiredDelimiters_delimiterValues, ← Text.split_eq_run]
  rfl

/-- Splitting at a set of delimiters. What a request answers is what the scan finds. If all segments are
    wanted, a text that is not empty has one segment more than delimiters, no delimiter is in a segment,
    and both in turn make the text again. Otherwise the same segments are found, in order, except for
    those that are empty. Where there is no text to split there is no segment either. -/
theorem split_interleaves (ds : List CodeUnit) :
    (∀ value dropEmpty, (split value (some (delimiterValues ds)) dropEmpty).run =
      .ok (.texts (Scan.run (isAmong ds) dropEmpty (value.getD [])))) ∧
    (∀ t : Text, t ≠ [] → ∃ parts : List Text,
      (split (some t) (some (delimiterValues ds)) false).run = .ok (.texts parts) ∧
      parts.length = t.countP (isAmong ds) + 1 ∧
      (∀ part ∈ parts, ∀ c ∈ part, isAmong ds c = false) ∧
      interleave parts (t.filter (isAmong ds)) = t ∧
      (split (some t) (some (delimiterValues ds)) true).run =
        .ok (.texts (parts.filter fun part => !part.isEmpty))) ∧
    ∀ dropEmpty, (split none (some (delimiterValues ds)) dropEmpty).run = .ok (.texts []) ∧
      (split (some []) (some (delimiterValues ds)) dropEmpty).run = .ok (.texts []) := by
  refine ⟨fun value dropEmpty => run_split value ds dropEmpty, ?_, ?_⟩
  · intro t nonempty
    have found := fun dropEmpty => run_split (some t) ds dropEmpty
    simp only [Option.getD_some, Scan.run_of_ne_nil t nonempty] at found
    refine ⟨segments (isAmong ds) t, found false, ?_, ?_, ?_, found true⟩
    · rw [segments_eq_splitOnP, length_splitOnP]
    · intro part member
      exact not_isDelimiter_of_mem_segments member
    · exact interleave_segments (isAmong ds) t
  · intro dropEmpty
    constructor
    · exact run_split none ds dropEmpty
    · exact run_split (some []) ds dropEmpty

/-- Delimiters at both ends, and two that are neighbours. -/
theorem split_interleaves_edges :
    ([0x2C, 0x61, 0x2C, 0x3B, 0x62, 0x2C] : Text) ≠ [] ∧
    ∃ parts : List Text,
      (split (some [0x2C, 0x61, 0x2C, 0x3B, 0x62, 0x2C]) (some (delimiterValues [0x2C, 0x3B]))
        false).run = .ok (.texts parts) ∧
      parts.length = 5 ∧
      (∀ part ∈ parts, ∀ c ∈ part, isAmong [0x2C, 0x3B] c = false) ∧
      interleave parts [0x2C, 0x2C, 0x3B, 0x2C] = [0x2C, 0x61, 0x2C, 0x3B, 0x62, 0x2C] ∧
      (split (some [0x2C, 0x61, 0x2C, 0x3B, 0x62, 0x2C]) (some (delimiterValues [0x2C, 0x3B]))
        true).run = .ok (.texts (parts.filter fun part => !part.isEmpty)) := by
  have nonempty : ([0x2C, 0x61, 0x2C, 0x3B, 0x62, 0x2C] : Text) ≠ [] := by decide
  exact ⟨nonempty, (split_interleaves [0x2C, 0x3B]).2.1 _ nonempty⟩

example : Scan.run (isAmong [0x2C, 0x3B]) true [0x2C, 0x61, 0x2C, 0x3B, 0x62, 0x2C] =
    [[0x61], [0x62]] := by decide

end Request

end UnitText
