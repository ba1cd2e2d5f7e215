import UnitText.Settings.Load
import UnitText.Proofs.EdgeRuns
import UnitText.Proofs.Joining

/-!
# Lists in variables

A variable is read as a list in two steps: its text is split, which drops the empty segments, and a loop
over the segments trims each and leaves it out if it is empty then. The second sieve makes the first
one idle, so the entries are the trimmed segments that are not empty. An entry has no separator, and a
visible code point at both ends. Such entries, joined by any of the separators, are read again as they
were, also if some of the separators are blanks.
-/

namespace UnitText.Environment

/-! ## Entries -/

/-- Goes on to a segment: it is trimmed, and what is left of it is an entry unless that is nothing. -/
def gather (found : List Text) (part : Text) : List Text :=
  if part.trim.isEmpty then found else found ++ [part.trim]

theorem foldl_gather (found parts : List Text) :
    parts.foldl gather found = found ++ entries parts := by
  induction parts generalizing found with
  | nil => simp [entries]
  | cons part parts ih =>
    rw [List.foldl_cons, ih, gather, entries, entries, List.map_cons]
    split
    · rename_i nothing
      rw [List.filter_cons_of_neg (by simp [nothing])]
    · rename_i left
      rw [List.filter_cons_of_pos (by simp [left]), List.append_assoc, List.singleton_append]

theorem entries_filter_nonempty (parts : List Text) :
    entries (parts.filter fun part => !part.isEmpty) = entries parts := by
  rw [entries, entries, List.filter_map, List.filter_map, List.filter_filter]
  congr 1
  refine List.filter_congr fun part _ => ?_
  cases part with
  | nil => rfl
  | cons c rest => exact Bool.and_true _

/-- The mode of the split makes no difference, nor does it that the empty text has no segments. -/
theorem entries_split (t : Text) (ds : List CodeUnit) (dropEmpty : Bool) :
    entries (t.split ds dropEmpty) = entries (segments (isAmong ds) t) := by
  cases t with
  | nil => rfl
  | cons c rest =>
    cases dropEmpty with
    | false => rfl
    | true => exact entries_filter_nonempty _

/-- What an entry is: a text that is not empty, has no separator, and has a visible code point at both
    ends. -/
structure IsEntry (ds : List CodeUnit) (t : Text) : Prop where
  nonempty : t ≠ []
  apart : ∀ d ∈ ds, d.toCodePoint ∉ t
  visible : ∀ (side : Side) (c : CodePoint), side.IsAt [c] t → 0x20 < c.val

theorem isEntry_of_mem_entries {ds : List CodeUnit} {t entry : Text}
    (member : entry ∈ entries (segments (isAmong ds) t)) : IsEntry ds entry := by
  obtain ⟨mapped, kept⟩ := List.mem_filter.mp member
  obtain ⟨part, segment, rfl⟩ := List.mem_map.mp mapped
  refine ⟨by simpa using kept, ?_, fun side c there => Text.lt_of_isAt_trim there⟩
  intro d delimiter inside
  obtain ⟨lead, trail, whole, _⟩ := part.exists_blanks_around
  have hit : isAmong ds d.toCodePoint = true := isAmong_iff.mpr ⟨d, delimiter, rfl⟩
  have plain := not_isDelimiter_of_mem_segments segment d.toCodePoint
    (by rw [whole]; simp [inside])
  rw [hit] at plain
  cases plain

/-- Trimming leaves an entry as it is. -/
theorem IsEntry.trim_eq {ds : List CodeUnit} {t : Text} (entry : IsEntry ds t) : t.trim = t := by
  have fixed (side : Side) : side.dropRun isTrimmed t = t := by
    refine Side.dropRun_eq ⟨⟨[], by simp, by simp⟩, ?_⟩
    intro c there
    have visible := entry.visible side c there
    rw [isTrimmed, decide_eq_true_iff]
    omega
  have both : t.trim = Side.right.dropRun isTrimmed (Side.left.dropRun isTrimmed t) := rfl
  rw [both, fixed, fixed]

theorem entries_of_isEntry {ds : List CodeUnit} {ts : List Text} (all : ∀ t ∈ ts, IsEntry ds t) :
    entries ts = ts := by
  have trimmed : ts.map Text.trim = ts := by
    rw [List.map_congr_left fun t member => (all t member).trim_eq]
    exact List.map_id' ts
  rw [entries, trimmed, List.filter_eq_self]
  intro t member
  simpa using (all t member).nonempty

/-- Entries that are joined by a separator are found again. -/
theorem entries_segments_separated {ds : List CodeUnit} {d : CodeUnit} (separator : d ∈ ds)
    {ts : List Text} (all : ∀ t ∈ ts, IsEntry ds t) :
    entries (segments (isAmong ds) (Value.separated [d.toCodePoint] ts)) = ts := by
  by_cases none : ts = []
  · rw [none]
    rfl
  · rw [segments_separated (isAmong_iff.mpr ⟨d, separator, rfl⟩) none, entries_of_isEntry all]
    intro t member c inside
    rw [Bool.eq_false_iff]
    intro hit
    obtain ⟨e, delimiter, rfl⟩ := isAmong_iff.mp hit
    exact (all t member).apart e delimiter inside

/-! ## Reading a variable -/

variable {env : Environment} {var value : Text}

theorem getList_of_get? (ds : List CodeUnit) (given : env.get? var = some value) :
    env.getList var (some (delimiterValues ds)) =
      .ok (some (entries (segments (isAmong ds) value))) := by
  rw [getList, given]
  simp only [splitAt, requiredDelimiters_delimiterValues, Stepwise.ok_bind, Option.getD_some,
    pure, Except.pure, entries_split]

/-- A variable as a list. The loop over the segments that are not empty finds all segments of the text,
    trimmed, in order, without those that are empty then. Every entry has something in it, no
    separator, and neither a blank nor a control at an end. Joined by any of the separators, the entries
    make a text as which the variable is the same list again, in whatever environment. -/
theorem getList_trimmed_segments (ds : List CodeUnit) (given : env.get? var = some value) :
    ∃ parts found : List Text,
      (Request.split (some value) (some (delimiterValues ds)) false).run = .ok (.texts parts) ∧
      env.getList var (some (delimiterValues ds)) = .ok (some found) ∧
      found = (value.split ds true).foldl gather [] ∧
      found = (parts.map Text.trim).filter (fun entry => !entry.isEmpty) ∧
      (∀ entry ∈ found, IsEntry ds entry) ∧
      ∀ d ∈ ds, ∃ joined : Text,
        (Request.joinWritten (some [d.toCodePoint]) (some (found.map .text))).run =
          .ok (.text joined) ∧
        ∀ env' : Environment, env'.get? var = some joined →
          env'.getList var (some (delimiterValues ds)) = .ok (some found) := by
  have all : ∀ entry ∈ entries (segments (isAmong ds) value), IsEntry ds entry :=
    fun entry member => isEntry_of_mem_entries member
  refine ⟨_, _, Request.run_split (some value) ds false, getList_of_get? ds given, ?_, ?_, all, ?_⟩
  · rw [foldl_gather, List.nil_append, entries_split]
  · rw [Option.getD_some, ← Text.split_eq_run]
    exact (entries_split value ds false).symm
  · intro d separator
    refine ⟨_, Request.run_joinWritten_texts _ _, ?_⟩
    intro env' given'
    rw [getList_of_get? ds given', separatorText, Option.getD_some,
      entries_segments_separated separator all]

/-- The space is a separator and a blank; a tab and a control are trimmed, and one segment has only the
    control. -/
theorem getList_trimmed_segments_space :
    let env : Environment := [(text "LIST", [0x20, 0x61, 0x09, 0x2C, 0x01, 0x2C, 0x62])]
    env.get? (text "LIST") = some [0x20, 0x61, 0x09, 0x2C, 0x01, 0x2C, 0x62] ∧
    env.getList (text "LIST") (some (delimiterValues [0x2C, 0x20])) =
      .ok (some [[0x61], [0x62]]) ∧
    ∃ joined : Text,
      (Request.joinWritten (some [0x20]) (some [.text [0x61], .text [0x62]])).run =
        .ok (.text joined) ∧
      Environment.getList [(text "LIST", joined)] (text "LIST")
        (some (delimiterValues [0x2C, 0x20])) = .ok (some [[0x61], [0x62]]) := by
  intro env
  have given : env.get? (text "LIST") = some [0x20, 0x61, 0x09, 0x2C, 0x01, 0x2C, 0x62] := by decide
  have read : env.getList (text "LIST") (some (delimiterValues [0x2C, 0x20])) =
      .ok (some [[0x61], [0x62]]) := rfl
  obtain ⟨_, found, _, found_eq, _, _, _, again⟩ := getList_trimmed_segments [0x2C, 0x20] given
  obtain rfl : [[0x61], [0x62]] = found := Option.some.inj (Except.ok.inj (read.symm.trans found_eq))
  obtain ⟨joined, written, same⟩ := again 0x20 (by decide)
  exact ⟨given, read, joined, written, same _ rfl⟩

end UnitText.Environment
