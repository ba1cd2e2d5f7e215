import Mathlib.Data.List.Forall2
import UnitText.Proofs.Escaping
import UnitText.Proofs.JsonNumbers
import UnitText.Proofs.Segments
import UnitText.Value

/-!
# What is written in JSON

A value that can be written in JSON is written in printable ASCII, and is read back as its data
(`Value.toData`): lists as arrays, dictionaries as objects, everything that JSON has no kind for as a
string. Nothing but a key of a wrong kind or an integer with too many digits keeps a value from being
written, and nothing but a number without a numeral keeps what is written from being JSON.
-/

namespace UnitText

namespace Json

/-! ## Strings -/

theorem hexValue?_hexDigit : ∀ d < 16, hexValue? (hexDigit d) = some d := by decide

theorem hexUnit?_fixedHex (u : CodeUnit) : hexUnit? (fixedHex 4 u.val) = some u := by
  have digits : (fixedHex 4 u.val).mapM hexValue? =
      some [u.val / 16 / 16 / 16 % 16, u.val / 16 / 16 % 16, u.val / 16 % 16, u.val % 16] := by
    simp only [fixedHex, List.nil_append, List.cons_append, List.mapM_cons, List.mapM_nil,
      hexValue?_hexDigit _ (Nat.mod_lt _ (by decide : 0 < 16))]
    rfl
  have value : [u.val / 16 / 16 / 16 % 16, u.val / 16 / 16 % 16, u.val / 16 % 16, u.val % 16].foldl
      (fun n d => 16 * n + d) 0 = u.val := by
    simp only [List.foldl_cons, List.foldl_nil]
    omega
  rw [hexUnit?, digits]
  simp only [bind, Option.bind, value, u.isLt, dite_true]

theorem readString?_plain {u : CodeUnit} (plain : 0x20 ≤ u.val) (noQuote : u.val ≠ 0x22)
    (noBackslash : u.val ≠ 0x5C) (t : Text) :
    readString? (u.toCodePoint :: t) = (readString? t).map fun p => (u :: p.1, p.2) := by
  have other (c : CodePoint) (apart : u.val ≠ c.val) : u.toCodePoint ≠ c := by
    rintro rfl
    exact apart rfl
  rw [readString?.eq_def]
  simp only [if_neg (other 0x22 noQuote), if_neg (other 0x5C noBackslash)]
  rw [if_neg (by simp only [CodeUnit.toCodePoint]; omega), CodeUnit.units_toCodePoint]
  cases readString? t <;> rfl

theorem readString?_short {c : CodePoint} {u : CodeUnit} (short : shortEscape? c = some u)
    (t : Text) :
    readString? (0x5C :: c :: t) = (readString? t).map fun p => (u :: p.1, p.2) := by
  have other : c ≠ 0x75 := by
    rintro rfl
    cases short
  rw [readString?.eq_def]
  simp only [if_pos, if_neg (by decide : (0x5C : CodePoint) ≠ 0x22)]
  split
  · rename_i same
    exact absurd (List.cons.inj same).1 other
  · rename_i e rest _ same
    obtain ⟨rfl, rfl⟩ := List.cons.inj same
    rw [short]
    cases readString? t <;> rfl
  · rename_i same
    cases same

theorem readString?_number (u : CodeUnit) (t : Text) :
    readString? (text "\\u" ++ fixedHex 4 u.val ++ t) =
      (readString? t).map fun p => (u :: p.1, p.2) := by
  have value := hexUnit?_fixedHex u
  obtain ⟨x, y, z, w, four⟩ : ∃ x y z w, fixedHex 4 u.val = [x, y, z, w] := by
    simp only [fixedHex, List.nil_append, List.cons_append]
    exact ⟨_, _, _, _, rfl⟩
  have written : text "\\u" ++ fixedHex 4 u.val ++ t = 0x5C :: 0x75 :: x :: y :: z :: w :: t := by
    rw [four]
    rfl
  rw [four] at value
  rw [written, readString?, if_neg (by decide), if_pos rfl]
  simp only [value]
  cases readString? t <;> rfl

/-- The form of a unit in a string is read as the unit. -/
theorem readString?_jsonUnit (u : CodeUnit) (t : Text) :
    readString? (jsonUnit u ++ t) = (readString? t).map fun p => (u :: p.1, p.2) := by
  have single {v : Nat} {h : v < 0x10000} (value : u.val = v) : u = ⟨v, h⟩ := Fin.ext value
  unfold jsonUnit
  split
  · rename_i value
    exact readString?_short (by rw [single value]; rfl) t
  · rename_i value
    exact readString?_short (by rw [single value]; rfl) t
  · rename_i value
    exact readString?_short (by rw [single value]; rfl) t
  · rename_i value
    exact readString?_short (by rw [single value]; rfl) t
  · rename_i value
    exact readString?_short (by rw [single value]; rfl) t
  · rename_i value
    exact readString?_short (by rw [single value]; rfl) t
  · rename_i value
    exact readString?_short (by rw [single value]; rfl) t
  · rename_i noQuote noBackslash _ _ _ _ _
    split
    · rename_i plain
      exact readString?_plain plain.1 noQuote noBackslash t
    · exact readString?_number u t

theorem readString?_units (us : List CodeUnit) (t : Text) :
    readString? (us.flatMap jsonUnit ++ 0x22 :: t) = some (us, t) := by
  induction us with
  | nil =>
    rw [List.flatMap_nil, List.nil_append, readString?.eq_def]
    exact if_pos rfl
  | cons u us ih =>
    rw [List.flatMap_cons, List.append_assoc, readString?_jsonUnit, ih]
    rfl

theorem jsonString_append (t rest : Text) :
    jsonString t ++ rest = 0x22 :: (t.units.flatMap jsonUnit ++ 0x22 :: rest) := by
  rw [jsonString, List.append_assoc, List.append_assoc]
  rfl

/-! ## Texts of values -/

/-- Whether a code point is printable ASCII. -/
def IsAscii (c : CodePoint) : Prop := 0x20 ≤ c.val ∧ c.val ≤ 0x7E

/-- Whether a word or a numeral that is followed by a text ends there. -/
def EndsLexeme (rest : Text) : Prop := ∀ c, rest.head? = some c → isLexeme c = false

/-- Whether a text is printable ASCII and is read as a part, whatever follows it. -/
structure Writes (part : Part) (t : Text) (a : part.type) : Prop where
  ascii : ∀ c ∈ t, IsAscii c
  read : ∀ {rest : Text}, EndsLexeme rest → Reads true part (t ++ rest) a rest

theorem next?_cons {c : CodePoint} (noSpace : isSpace c = false) (rest : Text) :
    next? (c :: rest) = some (c, rest) := by
  rw [next?, List.dropWhile_cons_of_neg (by simp [noSpace])]

/-- A space before a value does not matter. -/
theorem Reads.space {words : Bool} {t rest : Text} {v : Json} (read : Reads words .value t v rest) :
    Reads words .value (0x20 :: t) v rest := by
  cases read with
  | scalar front lexeme scalar => exact .scalar front lexeme scalar
  | string front body => exact .string front body
  | emptyArray front close => exact .emptyArray front close
  | array front value items => exact .array front value items
  | emptyObject front close => exact .emptyObject front close
  | object front member members => exact .object front member members

theorem Reads.member_space {words : Bool} {t rest : Text} {m : List CodeUnit × Json}
    (read : Reads words .member t m rest) : Reads words .member (0x20 :: t) m rest := by
  cases read with
  | member front name colon value => exact .member front name colon value

theorem isLexeme_iff {c : CodePoint} : isLexeme c = true ↔
    (0x30 ≤ c.val ∧ c.val ≤ 0x39) ∨ (0x41 ≤ c.val ∧ c.val ≤ 0x5A) ∨
      (0x61 ≤ c.val ∧ c.val ≤ 0x7A) ∨ c.val = 0x2B ∨ c.val = 0x2D ∨ c.val = 0x2E := by
  rw [isLexeme, inRanges_iff]
  simp only [List.mem_cons, List.not_mem_nil, or_false, exists_eq_or_imp, exists_eq_left]
  omega

theorem isAscii_of_isLexeme {c : CodePoint} (lexeme : isLexeme c = true) : IsAscii c := by
  have kinds := isLexeme_iff.mp lexeme
  rw [IsAscii]
  omega

theorem not_isSpace_of_isLexeme {c : CodePoint} (lexeme : isLexeme c = true) :
    isSpace c = false := by
  rw [isSpace]
  by_contra space
  simp only [Bool.not_eq_false, Bool.or_eq_true, beq_iff_eq] at space
  rcases space with ((rfl | rfl) | rfl) | rfl <;> exact absurd lexeme (by decide)

theorem isLexeme_of_isAsciiDigit {c : CodePoint} (digit : isAsciiDigit c = true) :
    isLexeme c = true := isLexeme_iff.mpr (.inl (isAsciiDigit_iff.mp digit))

theorem IsNumeral.isLexeme {t : Text} (numeral : IsNumeral t) : ∀ c ∈ t, isLexeme c = true := by
  obtain ⟨minus, whole, fraction, exponent, sign, isWhole, isFraction, isExponent, rfl⟩ := numeral
  have digits {ds : Text} (digits : IsDigits ds) : ∀ c ∈ ds, Json.isLexeme c = true :=
    fun c member => isLexeme_of_isAsciiDigit (digits.2 c member)
  refine List.forall_mem_append.mpr ⟨List.forall_mem_append.mpr
    ⟨List.forall_mem_append.mpr ⟨?_, digits isWhole.1⟩, ?_⟩, ?_⟩
  · rcases sign with rfl | rfl
    · exact List.forall_mem_nil _
    · exact List.forall_mem_singleton.mpr (by decide)
  · rcases isFraction with rfl | ⟨ds, decimals, rfl⟩
    · exact List.forall_mem_nil _
    · exact List.forall_mem_cons.mpr ⟨by decide, digits decimals⟩
  · rcases isExponent with rfl | ⟨letter, sign, ds, isLetter, isSign, decimals, rfl⟩
    · exact List.forall_mem_nil _
    · refine List.forall_mem_cons.mpr ⟨?_, List.forall_mem_append.mpr ⟨?_, digits decimals⟩⟩
      · rcases isLetter with rfl | rfl <;> decide
      · rcases isSign with rfl | rfl | rfl
        · exact List.forall_mem_nil _
        · exact List.forall_mem_singleton.mpr (by decide)
        · exact List.forall_mem_singleton.mpr (by decide)

theorem forall_mem_of_all {t : Text} {p : CodePoint → Bool} (all : t.all p = true) :
    ∀ c ∈ t, p c = true := List.all_eq_true.mp all

/-- Words and numerals are made of nothing else than what belongs to them, and are not empty. -/
theorem IsScalar.isLexeme {words : Bool} {t : Text} {v : Json} (scalar : IsScalar words t v) :
    t ≠ [] ∧ ∀ c ∈ t, isLexeme c = true := by
  cases scalar with
  | null => exact ⟨by decide, forall_mem_of_all (by decide)⟩
  | bool b => cases b <;> exact ⟨by decide, forall_mem_of_all (by decide)⟩
  | numeral numeral =>
    refine ⟨?_, numeral.isLexeme⟩
    rintro rfl
    obtain ⟨c, rest, _, empty | empty⟩ := numeral.front <;> cases empty
  | beyond _ member =>
    simp only [beyondWords, List.map_cons, List.map_nil, List.mem_cons, List.not_mem_nil,
      or_false] at member
    rcases member with rfl | rfl | rfl <;> exact ⟨by decide, forall_mem_of_all (by decide)⟩

theorem writes_scalar {t : Text} {v : Json} (scalar : IsScalar true t v) : Writes .value t v := by
  obtain ⟨nonempty, lexemes⟩ := scalar.isLexeme
  refine ⟨fun c member => isAscii_of_isLexeme (lexemes c member), fun {rest} ends => ?_⟩
  obtain ⟨c, more, rfl⟩ := List.exists_cons_of_ne_nil nonempty
  have ⟨first, later⟩ := List.forall_mem_cons.mp lexemes
  have taken : (more ++ rest).takeWhile isLexeme = more := by
    rw [List.takeWhile_append_of_pos later]
    cases rest with
    | nil => simp
    | cons d rest => rw [List.takeWhile_cons_of_neg (by simp [ends d rfl]), List.append_nil]
  have left : (more ++ rest).dropWhile isLexeme = rest := by
    rw [List.dropWhile_append_of_pos later]
    cases rest with
    | nil => rfl
    | cons d rest => exact List.dropWhile_cons_of_neg (by simp [ends d rfl])
  have read := Reads.scalar (next?_cons (not_isSpace_of_isLexeme first) (more ++ rest)) first
    (taken.symm ▸ scalar)
  rwa [left] at read

theorem isAscii_of_mem_jsonUnit {u : CodeUnit} {c : CodePoint} (member : c ∈ jsonUnit u) :
    IsAscii c := by
  have short {d : CodePoint} (ascii : IsAscii d) (member : c ∈ [0x5C, d]) : IsAscii c := by
    rcases List.mem_pair.mp member with rfl | rfl
    · exact ⟨by decide, by decide⟩
    · exact ascii
  unfold jsonUnit at member
  split at member
  · exact short ⟨by decide, by decide⟩ member
  · exact short ⟨by decide, by decide⟩ member
  · exact short ⟨by decide, by decide⟩ member
  · exact short ⟨by decide, by decide⟩ member
  · exact short ⟨by decide, by decide⟩ member
  · exact short ⟨by decide, by decide⟩ member
  · exact short ⟨by decide, by decide⟩ member
  · split at member
    · rename_i plain
      obtain rfl := List.mem_singleton.mp member
      exact plain
    · rcases List.mem_append.mp member with mark | digit
      · exact short ⟨by decide, by decide⟩ mark
      · have range := range_of_mem_fixedHex digit
        exact ⟨by omega, by omega⟩

theorem isAscii_jsonString (t : Text) : ∀ c ∈ jsonString t, IsAscii c := by
  have quote : ∀ c ∈ [(0x22 : CodePoint)], IsAscii c :=
    List.forall_mem_singleton.mpr ⟨by decide, by decide⟩
  refine List.forall_mem_append.mpr ⟨List.forall_mem_append.mpr ⟨quote, ?_⟩, quote⟩
  intro c member
  obtain ⟨u, _, inside⟩ := List.mem_flatMap.mp member
  exact isAscii_of_mem_jsonUnit inside

theorem writes_string (t : Text) : Writes .value (jsonString t) (.string t.units) := by
  refine ⟨isAscii_jsonString t, fun _ => ?_⟩
  rw [jsonString_append]
  exact .string (next?_cons (by decide) _) (readString?_units _ _)

theorem endsLexeme_cons {c : CodePoint} (ends : isLexeme c = false) (rest : Text) :
    EndsLexeme (c :: rest) := by
  intro d head
  obtain rfl := Option.some.inj head
  exact ends

/-- A name, a colon and the text of a value. -/
theorem writes_member (name : Text) {t : Text} {v : Json} (value : Writes .value t v) :
    Writes .member (jsonString name ++ text ": " ++ t) (name.units, v) := by
  have colon : ∀ c ∈ text ": ", IsAscii c :=
    List.forall_mem_cons.mpr ⟨⟨by decide, by decide⟩,
      List.forall_mem_singleton.mpr ⟨by decide, by decide⟩⟩
  refine ⟨List.forall_mem_append.mpr
    ⟨List.forall_mem_append.mpr ⟨isAscii_jsonString name, colon⟩, value.ascii⟩, fun ends => ?_⟩
  rw [List.append_assoc, List.append_assoc, jsonString_append]
  exact .member (next?_cons (by decide) _) (readString?_units _ _) (next?_cons (by decide) _)
    (value.read ends).space

section Containers

variable {part : Part} {ts : List Text} {vs : List part.type}

/-- The texts after the first one, each behind a comma and a space. -/
def afterFirst (ts : List Text) : Text := ts.flatMap (text ", " ++ ·)

theorem afterFirst_cons (t : Text) (ts : List Text) (rest : Text) :
    afterFirst (t :: ts) ++ rest = 0x2C :: 0x20 :: (t ++ (afterFirst ts ++ rest)) := by
  rw [afterFirst, List.flatMap_cons, List.append_assoc, List.append_assoc]
  rfl

theorem isAscii_afterFirst (each : List.Forall₂ (Writes part) ts vs) :
    ∀ c ∈ afterFirst ts, IsAscii c := by
  induction each with
  | nil => exact List.forall_mem_nil _
  | cons first _ ih =>
    have comma : ∀ c ∈ text ", ", IsAscii c :=
      List.forall_mem_cons.mpr ⟨⟨by decide, by decide⟩,
      List.forall_mem_singleton.mpr ⟨by decide, by decide⟩⟩
    rw [afterFirst, List.flatMap_cons]
    exact List.forall_mem_append.mpr ⟨List.forall_mem_append.mpr ⟨comma, first.ascii⟩, ih⟩

theorem endsLexeme_afterFirst {mark : CodePoint} (ends : isLexeme mark = false) (ts : List Text)
    (rest : Text) : EndsLexeme (afterFirst ts ++ mark :: rest) := by
  cases ts with
  | nil => exact endsLexeme_cons ends rest
  | cons t ts =>
    rw [afterFirst_cons]
    exact endsLexeme_cons (by decide) _

theorem isAscii_container {start stop : CodePoint} (isStart : IsAscii start) (isStop : IsAscii stop)
    (each : List.Forall₂ (Writes part) ts vs) :
    ∀ c ∈ [start] ++ Value.separated (text ", ") ts ++ [stop], IsAscii c := by
  refine List.forall_mem_append.mpr ⟨List.forall_mem_append.mpr
    ⟨List.forall_mem_singleton.mpr isStart, ?_⟩, List.forall_mem_singleton.mpr isStop⟩
  cases each with
  | nil => exact List.forall_mem_nil _
  | cons first later =>
    rw [separated_cons]
    exact List.forall_mem_append.mpr ⟨first.ascii, isAscii_afterFirst later⟩

end Containers

theorem container_cons (start stop : CodePoint) (t : Text) (ts : List Text) (rest : Text) :
    [start] ++ Value.separated (text ", ") (t :: ts) ++ [stop] ++ rest =
      start :: (t ++ (afterFirst ts ++ stop :: rest)) := by
  rw [separated_cons, List.append_assoc, List.append_assoc, List.append_assoc]
  rfl

theorem reads_items {ts : List Text} {vs : List Json} (each : List.Forall₂ (Writes .value) ts vs)
    (rest : Text) : Reads true .items (afterFirst ts ++ 0x5D :: rest) vs rest := by
  induction each with
  | nil => exact .itemsEnd (next?_cons (by decide) _)
  | @cons t v ts vs first _ ih =>
    rw [afterFirst_cons]
    exact .nextItem (next?_cons (by decide) _)
      (first.read (endsLexeme_afterFirst (by decide) ts rest)).space ih

theorem reads_members {ts : List Text} {ms : List (List CodeUnit × Json)}
    (each : List.Forall₂ (Writes .member) ts ms) (rest : Text) :
    Reads true .members (afterFirst ts ++ 0x7D :: rest) ms rest := by
  induction each with
  | nil => exact .membersEnd (next?_cons (by decide) _)
  | @cons t m ts ms first _ ih =>
    rw [afterFirst_cons]
    exact .nextMember (next?_cons (by decide) _)
      (first.read (endsLexeme_afterFirst (by decide) ts rest)).member_space ih

theorem writes_array {ts : List Text} {vs : List Json} (each : List.Forall₂ (Writes .value) ts vs) :
    Writes .value (text "[" ++ Value.separated (text ", ") ts ++ text "]") (.array vs) := by
  refine ⟨isAscii_container ⟨by decide, by decide⟩ ⟨by decide, by decide⟩ each, fun {rest} _ => ?_⟩
  cases each with
  | nil => exact .emptyArray (next?_cons (by decide) _) (next?_cons (by decide) _)
  | @cons t v ts vs first later =>
    exact container_cons 0x5B 0x5D t ts rest ▸ .array (next?_cons (by decide) _)
      (first.read (endsLexeme_afterFirst (by decide) ts rest)) (reads_items later rest)

theorem writes_object {ts : List Text} {ms : List (List CodeUnit × Json)}
    (each : List.Forall₂ (Writes .member) ts ms) :
    Writes .value (text "\x7b" ++ Value.separated (text ", ") ts ++ text "\x7d") (.object ms) := by
  refine ⟨isAscii_container ⟨by decide, by decide⟩ ⟨by decide, by decide⟩ each, fun {rest} _ => ?_⟩
  cases each with
  | nil => exact .emptyObject (next?_cons (by decide) _) (next?_cons (by decide) _)
  | @cons t m ts ms first later =>
    exact container_cons 0x7B 0x7D t ts rest ▸ .object (next?_cons (by decide) _)
      (first.read (endsLexeme_afterFirst (by decide) ts rest)) (reads_members later rest)

end Json

end UnitText
