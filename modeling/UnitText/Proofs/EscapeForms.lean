import UnitText.Proofs.Escaping

/-!
# The two escapes side by side

A unit is of one of five kinds: a structural character, NUL, another control, plain, or beyond U+00BF.
The kind decides the forms that a unit has in an escaped text and in a log message, and three of the
five have two different ones. The words of the two escapes differ in length as well, so a word and
what comes after it could make up for each other. They never do, and two escapes of one text are the
same only if no unit is of one of those kinds.

A log message is meant to be printable ASCII. What it keeps beyond that are the plain units from U+00A0
to U+00BF, and nothing else.
-/

namespace UnitText

/-! ## The kinds of units -/

/-- The numbers of the structural characters: tab, backspace, newline, carriage return, form feed, the
    double quote and the backslash. -/
def structuralNumbers : List Nat := [0x09, 0x08, 0x0A, 0x0D, 0x0C, 0x22, 0x5C]

theorem lt_of_mem_structuralNumbers {n : Nat} (member : n ∈ structuralNumbers) : n < 0x7F := by
  have low : ∀ n ∈ structuralNumbers, n < 0x7F := by decide
  exact low n member

theorem isSome_structuralEscape?_iff (u : CodeUnit) :
    (structuralEscape? u).isSome = true ↔ u.val ∈ structuralNumbers := by
  unfold structuralEscape?
  split <;> simp_all [structuralNumbers]

theorem needsNumber_iff (u : CodeUnit) :
    needsNumber u = true ↔ u.val ≤ 0x1F ∨ (0x7F ≤ u.val ∧ u.val ≤ 0x9F) ∨ 0xC0 ≤ u.val := by
  have threshold : numberThreshold = 0xC0 := rfl
  simp only [needsNumber, threshold, isIsoControl_iff, isSurrogate, Bool.or_eq_true,
    Bool.and_eq_true, decide_eq_true_eq, bne_iff_ne]
  by_cases high : 0xC0 ≤ u.val
  · omega
  · -- The whitespace below U+00C0 is the space or a control.
    rw [isWhitespace_iff_of_lt (by omega)]
    omega

/-- The forms of a unit, by its kind: the one in a message first, and then the one within a text. -/
inductive EscapeForms (u : CodeUnit) : Text → Text → Prop
  | structural {c : CodePoint} (member : u.val ∈ structuralNumbers)
      (printable : 0x20 ≤ c.val ∧ c.val ≤ 0x7E) : EscapeForms u [0x5C, c] [0x5C, c]
  | null (number : u.val = 0) : EscapeForms u [0x5C, 0x30] [u.toCodePoint]
  | control (other : u.val ∉ structuralNumbers)
      (range : (0 < u.val ∧ u.val ≤ 0x1F) ∨ (0x7F ≤ u.val ∧ u.val ≤ 0x9F)) :
      EscapeForms u (unitNumber u) [u.toCodePoint]
  | plain (other : u.val ∉ structuralNumbers)
      (range : (0x20 ≤ u.val ∧ u.val ≤ 0x7E) ∨ (0xA0 ≤ u.val ∧ u.val ≤ 0xBF)) :
      EscapeForms u [u.toCodePoint] [u.toCodePoint]
  | beyond (high : 0xC0 ≤ u.val) : EscapeForms u (unitNumber u) (unitNumber u ++ text ";")

theorem escapeForms (u : CodeUnit) : EscapeForms u (escapeUnit u) (escapeUnitInText u) := by
  have member := isSome_structuralEscape?_iff u
  have threshold : numberThreshold = 0xC0 := rfl
  unfold escapeUnit escapeUnitInText
  cases found : structuralEscape? u with
  | some t =>
    obtain ⟨c, rfl, _, _, printable⟩ := structuralEscape?_eq_some found
    exact .structural (member.mp (by rw [found]; rfl)) printable
  | none =>
    have other : u.val ∉ structuralNumbers := by
      intro structural
      rw [← member, found] at structural
      cases structural
    simp only [threshold]
    by_cases zero : u.val = 0
    · rw [if_pos zero, if_neg (by omega)]
      exact .null zero
    · rw [if_neg zero]
      by_cases number : needsNumber u = true
      · rw [if_pos number]
        rw [needsNumber_iff] at number
        by_cases high : 0xC0 ≤ u.val
        · rw [if_pos high]
          exact .beyond high
        · rw [if_neg high]
          exact .control other (by omega)
      · rw [if_neg number]
        rw [needsNumber_iff] at number
        rw [if_neg (by omega)]
        exact .plain other (by omega)

/-! ## Where the two escapes agree -/

/-- Whether the two forms of a unit are the same. -/
def IsWrittenAlike (u : CodeUnit) : Prop :=
  u.val ∈ structuralNumbers ∨ (0x20 ≤ u.val ∧ u.val ≤ 0x7E) ∨ (0xA0 ≤ u.val ∧ u.val ≤ 0xBF)

namespace EscapeForms

variable {u : CodeUnit} {alone within : Text}

theorem toCodePoint_ne_backslash (other : u.val ≠ 0x5C) : u.toCodePoint ≠ 0x5C := by
  intro same
  exact other (congrArg Fin.val same)

theorem ne_backslash_of_notMem (other : u.val ∉ structuralNumbers) : u.val ≠ 0x5C := by
  rintro number
  exact other (by rw [number]; decide)

/-- A word that does not begin with a backslash is the unit itself. -/
theorem eq_of_alone_cons (forms : EscapeForms u alone within) {c : CodePoint} {rest : Text}
    (first : alone = c :: rest) (other : c ≠ 0x5C) :
    u.toCodePoint = c ∧ rest = [] ∧ within = [c] := by
  cases forms with
  | structural | null => exact absurd (List.cons.inj first).1.symm other
  | control | beyond => exact absurd (List.cons.inj first).1.symm other
  | plain =>
    obtain ⟨rfl, rfl⟩ := List.cons.inj first
    exact ⟨rfl, rfl, rfl⟩

end EscapeForms

/-- The semicolon behind a number cannot be the beginning of the rest of a message: if the rest begins
    with one, there is a semicolon in the text, which has put a further one behind the number. -/
theorem semicolon_append_ne (us : List CodeUnit) :
    text ";" ++ us.flatMap escapeUnitInText ≠ us.flatMap escapeUnit := by
  intro same
  induction us with
  | nil => cases same
  | cons u us ih =>
    obtain ⟨c, word, alone⟩ := List.exists_cons_of_ne_nil (escapeWord_escapeUnit u).ne_nil
    rw [List.flatMap_cons, List.flatMap_cons, alone] at same
    have first : (0x3B : CodePoint) = c := (List.cons.inj same).1
    obtain ⟨_, rfl, within⟩ :=
      (escapeForms u).eq_of_alone_cons alone (by rw [← first]; decide)
    rw [within, ← first] at same
    exact ih (List.cons.inj same).2

namespace EscapeForms

variable {u : CodeUnit} {alone within : Text}

/-- Forms that are different are told apart whatever comes after them. -/
theorem isWrittenAlike_of_append (forms : EscapeForms u alone within) {us : List CodeUnit}
    (same : within ++ us.flatMap escapeUnitInText = alone ++ us.flatMap escapeUnit) :
    IsWrittenAlike u := by
  cases forms with
  | structural member _ => exact .inl member
  | null number => exact absurd (List.cons.inj same).1 (toCodePoint_ne_backslash (by omega))
  | control other _ =>
    exact absurd (List.cons.inj same).1 (toCodePoint_ne_backslash (ne_backslash_of_notMem other))
  | plain _ range => exact .inr range
  | beyond _ =>
    rw [List.append_assoc] at same
    exact absurd (List.append_cancel_left same) (semicolon_append_ne us)

theorem eq_of_isWrittenAlike (forms : EscapeForms u alone within) (alike : IsWrittenAlike u) :
    within = alone := by
  cases forms with
  | structural | plain => rfl
  | null number =>
    rcases alike with member | range
    · rw [number] at member
      exact absurd member (by decide)
    · omega
  | control other range =>
    rcases alike with member | plain
    · exact absurd member other
    · omega
  | beyond high =>
    rcases alike with member | range
    · have := lt_of_mem_structuralNumbers member
      omega
    · omega

end EscapeForms

theorem flatMap_escapes_eq_iff (us : List CodeUnit) :
    us.flatMap escapeUnitInText = us.flatMap escapeUnit ↔ ∀ u ∈ us, IsWrittenAlike u := by
  induction us with
  | nil => simp
  | cons u us ih =>
    rw [List.flatMap_cons, List.flatMap_cons, List.forall_mem_cons, ← ih]
    constructor
    · intro same
      have alike := (escapeForms u).isWrittenAlike_of_append same
      rw [(escapeForms u).eq_of_isWrittenAlike alike] at same
      exact ⟨alike, List.append_cancel_left same⟩
    · rintro ⟨alike, rest⟩
      rw [(escapeForms u).eq_of_isWrittenAlike alike, rest]

namespace Text

/-- The escape of a text and its form in a message are the same if every unit is structural or plain, and
    only then. A control that is not structural, such as NUL, or a unit beyond U+00BF makes a
    difference, wherever it stands. -/
theorem escape_eq_escapeMessage_iff (t : Text) :
    (t.escape false = t.escapeMessage ↔ ∀ u ∈ t.units,
      u.val ∈ structuralNumbers ∨ (0x20 ≤ u.val ∧ u.val ≤ 0x7E) ∨
        (0xA0 ≤ u.val ∧ u.val ≤ 0xBF)) ∧
    ∀ u ∈ t.units, (isIsoControl u.val = true ∧ u.val ∉ structuralNumbers) ∨ 0xC0 ≤ u.val →
      t.escape false ≠ t.escapeMessage := by
  have agree : t.escape false = t.escapeMessage ↔ ∀ u ∈ t.units, IsWrittenAlike u :=
    flatMap_escapes_eq_iff t.units
  refine ⟨agree, ?_⟩
  intro u member different same
  have alike := agree.mp same u member
  rcases different with ⟨control, other⟩ | high
  · rw [isIsoControl_iff] at control
    rcases alike with structural | plain
    · exact other structural
    · omega
  · rcases alike with structural | plain
    · have := lt_of_mem_structuralNumbers structural
      omega
    · omega

/-- A semicolon in the text does not stand in for the one behind a number. -/
theorem escape_eq_escapeMessage_iff_semicolon :
    escape [0x09, 0x7E, 0xBF] false = escapeMessage [0x09, 0x7E, 0xBF] ∧
    escapeMessage [0xE9, 0x3B, 0x3B] = escape [0xE9, 0x3B] false ∧
    escape [0xE9, 0x3B] false ≠ escapeMessage [0xE9, 0x3B] := by
  refine ⟨?_, by decide, ?_⟩
  · apply (escape_eq_escapeMessage_iff [0x09, 0x7E, 0xBF]).1.mpr
    have units : Text.units [0x09, 0x7E, 0xBF] = [0x09, 0x7E, 0xBF] := by decide
    rw [units, List.forall_mem_cons, List.forall_mem_cons, List.forall_mem_singleton]
    decide
  · exact (escape_eq_escapeMessage_iff [0xE9, 0x3B]).2 0xE9 (by decide) (by decide)

end Text

/-! ## What a message keeps beyond ASCII -/

namespace CodePoint

/-- Whether a code point is printable ASCII. -/
def isPrintableAscii (c : CodePoint) : Bool := decide (0x20 ≤ c.val) && decide (c.val ≤ 0x7E)

/-- Whether a code point is plain and not ASCII. -/
def isPlainBeyondAscii (c : CodePoint) : Bool := decide (0xA0 ≤ c.val) && decide (c.val ≤ 0xBF)

theorem isPrintableAscii_iff (c : CodePoint) :
    c.isPrintableAscii = true ↔ 0x20 ≤ c.val ∧ c.val ≤ 0x7E := by
  simp [isPrintableAscii]

theorem isPlainBeyondAscii_iff (c : CodePoint) :
    c.isPlainBeyondAscii = true ↔ 0xA0 ≤ c.val ∧ c.val ≤ 0xBF := by
  simp [isPlainBeyondAscii]

end CodePoint

theorem isPrintableAscii_of_mem_unitNumber {u : CodeUnit} {c : CodePoint}
    (member : c ∈ unitNumber u) : c.isPrintableAscii = true := by
  rw [unitNumber_eq, List.mem_cons, List.mem_cons] at member
  rcases member with rfl | rfl | digit
  · decide
  · decide
  · have range := range_of_mem_fixedHex digit
    rw [CodePoint.isPrintableAscii_iff]
    omega

/-- What of the form of a unit in a message is not printable ASCII: the unit itself, if it is plain and
    not ASCII. -/
theorem EscapeForms.filter_alone {u : CodeUnit} {alone within : Text}
    (forms : EscapeForms u alone within) :
    alone.filter (fun c => !c.isPrintableAscii) =
      [u.toCodePoint].filter CodePoint.isPlainBeyondAscii := by
  have same : u.toCodePoint.val = u.val := rfl
  -- A word in printable ASCII loses everything, and so must the unit.
  have printed {word : Text} (printable : ∀ c ∈ word, c.isPrintableAscii = true)
      (other : ¬ (0xA0 ≤ u.val ∧ u.val ≤ 0xBF)) :
      word.filter (fun c => !c.isPrintableAscii) =
        [u.toCodePoint].filter CodePoint.isPlainBeyondAscii := by
    have nothing : word.filter (fun c => !c.isPrintableAscii) = [] := by
      rw [List.filter_eq_nil_iff]
      intro c member
      simp [printable c member]
    rw [nothing, List.filter_cons_of_neg (by rwa [CodePoint.isPlainBeyondAscii_iff])]
    rfl
  cases forms with
  | structural member printable =>
    have := lt_of_mem_structuralNumbers member
    apply printed _ (by omega)
    intro d inside
    rcases List.mem_pair.mp inside with rfl | rfl
    · decide
    · exact (CodePoint.isPrintableAscii_iff d).mpr printable
  | null number =>
    apply printed _ (by omega)
    intro d inside
    rcases List.mem_pair.mp inside with rfl | rfl <;> decide
  | control _ range =>
    exact printed (fun d inside => isPrintableAscii_of_mem_unitNumber inside) (by omega)
  | plain _ range =>
    apply List.filter_congr
    intro c member
    rw [List.mem_singleton.mp member, Bool.eq_iff_iff, Bool.not_eq_true', ← Bool.not_eq_true,
      CodePoint.isPrintableAscii_iff, CodePoint.isPlainBeyondAscii_iff]
    omega
  | beyond high =>
    exact printed (fun d inside => isPrintableAscii_of_mem_unitNumber inside) (by omega)

/-- The halves of a pair are not plain, and neither is the code point that they encode. -/
theorem CodePoint.filter_flatMap_escapeUnit (c : CodePoint) :
    (c.units.flatMap escapeUnit).filter (fun d => !d.isPrintableAscii) =
      [c].filter isPlainBeyondAscii := by
  by_cases flat : c.val < 0x10000
  · rw [units_of_lt flat, List.flatMap_singleton, (escapeForms _).filter_alone]
    rfl
  · obtain ⟨high, low, isHigh, isLow, written, _⟩ := exists_pair flat
    simp only [CodeUnit.isHigh, CodeUnit.isLow, decide_eq_true_eq] at isHigh isLow
    have highVal : high.toCodePoint.val = high.val := rfl
    have lowVal : low.toCodePoint.val = low.val := rfl
    have dropped {d : CodePoint} (far : 0xC0 ≤ d.val) : [d].filter isPlainBeyondAscii = [] := by
      rw [List.filter_cons_of_neg, List.filter_nil]
      rw [isPlainBeyondAscii_iff]
      omega
    rw [written, List.flatMap_cons, List.flatMap_singleton, List.filter_append,
      (escapeForms high).filter_alone, (escapeForms low).filter_alone, dropped (by omega),
      dropped (by omega), dropped (by omega), List.nil_append]

namespace Text

theorem filter_escapeMessage (t : Text) :
    t.escapeMessage.filter (fun c => !c.isPrintableAscii) =
      t.filter CodePoint.isPlainBeyondAscii := by
  induction t with
  | nil => rfl
  | cons c t ih =>
    have split : escapeMessage (c :: t) = c.units.flatMap escapeUnit ++ escapeMessage t :=
      List.flatMap_append
    rw [split, List.filter_append, ih, c.filter_flatMap_escapeUnit, ← List.filter_append,
      List.singleton_append]

theorem range_of_mem_escapeMessage {t : Text} {c : CodePoint} (member : c ∈ t.escapeMessage) :
    (0x20 ≤ c.val ∧ c.val ≤ 0x7E) ∨ (0xA0 ≤ c.val ∧ c.val ≤ 0xBF) := by
  by_cases printable : c.isPrintableAscii = true
  · exact .inl (c.isPrintableAscii_iff.mp printable)
  · have kept : c ∈ t.escapeMessage.filter (fun c => !c.isPrintableAscii) :=
      List.mem_filter.mpr ⟨member, by simpa using printable⟩
    rw [filter_escapeMessage] at kept
    exact .inr (c.isPlainBeyondAscii_iff.mp (List.mem_filter.mp kept).2)

/-- A message is printable ASCII exactly if its text has nothing from U+00A0 to U+00BF. What a message
    has beyond printable ASCII is what its text has there, in order. -/
theorem escapeMessage_printable_iff (t : Text) :
    ((∀ c ∈ t.escapeMessage, 0x20 ≤ c.val ∧ c.val ≤ 0x7E) ↔
      ∀ c ∈ t, ¬ (0xA0 ≤ c.val ∧ c.val ≤ 0xBF)) ∧
    t.escapeMessage.filter (fun c => !c.isPrintableAscii) =
      t.filter CodePoint.isPlainBeyondAscii := by
  have kept := filter_escapeMessage t
  refine ⟨?_, kept⟩
  calc (∀ c ∈ t.escapeMessage, 0x20 ≤ c.val ∧ c.val ≤ 0x7E)
      ↔ t.escapeMessage.filter (fun c => !c.isPrintableAscii) = [] := by
        simp [List.filter_eq_nil_iff, CodePoint.isPrintableAscii_iff]
    _ ↔ t.filter CodePoint.isPlainBeyondAscii = [] := by rw [kept]
    _ ↔ ∀ c ∈ t, ¬ (0xA0 ≤ c.val ∧ c.val ≤ 0xBF) := by
        simp only [List.filter_eq_nil_iff, CodePoint.isPlainBeyondAscii_iff]

/-- The inverted exclamation mark stays as it is. -/
theorem escapeMessage_keeps_latin_mark :
    ∃ c ∈ escapeMessage [0xA1], ¬ (0x20 ≤ c.val ∧ c.val ≤ 0x7E) :=
  ⟨0xA1, by decide, by decide⟩

end Text

end UnitText
