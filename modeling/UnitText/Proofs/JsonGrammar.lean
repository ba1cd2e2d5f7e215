import UnitText.Proofs.Numerals
import UnitText.Text.Basic

/-!
# The grammar of JSON

JSON data is read off the front of a text, which leaves the text after it. The grammar is a relation
between the text, what is read and what is left (`Json.Reads`), one constructor for each production.
A string stands for code units: an escape for one unit, any other code point for its own units. A
number is kept as it is written.

Some writers use three words for numbers that have no numeral. The grammar can be taken with these
words or without. Either way a text is read in one way only (`Json.Reads.unique`), and a reading
with the words is one without if none of them has been read (`Json.reads_false_iff`).
-/

namespace UnitText

/-- JSON data. The members of an object keep their order, and a name may occur twice. -/
inductive Json where
  | null
  | bool (value : Bool)
  | number (numeral : Text)
  | string (units : List CodeUnit)
  | array (items : List Json)
  | object (members : List (List CodeUnit × Json))

namespace Json

/-! ## Tokens -/

/-- Whether a code point may stand between tokens: space, tab, line feed or carriage return. -/
def isSpace (c : CodePoint) : Bool := c == 0x20 || c == 0x09 || c == 0x0A || c == 0x0D

/-- The first code point that is no space, and the text after it. -/
def next? (t : Text) : Option (CodePoint × Text) :=
  match t.dropWhile isSpace with
  | [] => none
  | c :: rest => some (c, rest)

/-- The unit that a letter or a mark stands for after a backslash. -/
def shortEscape? (c : CodePoint) : Option CodeUnit :=
  match c.val with
  | 0x22 => some 0x22
  | 0x5C => some 0x5C
  | 0x2F => some 0x2F
  | 0x62 => some 0x08
  | 0x66 => some 0x0C
  | 0x6E => some 0x0A
  | 0x72 => some 0x0D
  | 0x74 => some 0x09
  | _ => none

/-- The value of a hexadecimal digit; its letters may be capital or small. -/
def hexValue? (c : CodePoint) : Option Nat :=
  if 0x30 ≤ c.val ∧ c.val ≤ 0x39 then some (c.val - 0x30)
  else if 0x41 ≤ c.val ∧ c.val ≤ 0x46 then some (c.val - 0x37)
  else if 0x61 ≤ c.val ∧ c.val ≤ 0x66 then some (c.val - 0x57)
  else none

/-- The unit with a number that is given by four hexadecimal digits. -/
def hexUnit? (t : Text) : Option CodeUnit := do
  let digits ← t.mapM hexValue?
  let n := digits.foldl (fun n d => 16 * n + d) 0
  if h : n < 0x10000 then some ⟨n, h⟩ else none

/-- Reads a string behind its quotation mark: the units up to the mark that ends it, and the text
    after that. -/
def readString? : Text → Option (List CodeUnit × Text)
  | [] => none
  | c :: rest =>
    if c = 0x22 then some ([], rest)
    else if c = 0x5C then
      match rest with
      | 0x75 :: x :: y :: z :: w :: rest => do
        let u ← hexUnit? [x, y, z, w]
        let (us, rest) ← readString? rest
        return (u :: us, rest)
      | e :: rest => do
        let u ← shortEscape? e
        let (us, rest) ← readString? rest
        return (u :: us, rest)
      | [] => none
    else if c.val < 0x20 then none
    else do
      let (us, rest) ← readString? rest
      return (c.units ++ us, rest)

/-- Whether a text is a run of digits. -/
def IsDigits (t : Text) : Prop := t ≠ [] ∧ ∀ c ∈ t, isAsciiDigit c = true

/-- Whether a text is the part of a numeral before the point: digits, of which the first is a zero
    only if it is alone. -/
def IsWhole (t : Text) : Prop := IsDigits t ∧ (t.head? = some 0x30 → t = [0x30])

/-- Whether a text is a point with digits after it. -/
def IsFraction (t : Text) : Prop := ∃ digits, IsDigits digits ∧ t = 0x2E :: digits

/-- Whether a text is an exponent: the letter, perhaps a sign, and digits. -/
def IsExponent (t : Text) : Prop :=
  ∃ letter sign digits, (letter = 0x65 ∨ letter = 0x45) ∧ (sign = [] ∨ sign = [0x2B] ∨ sign = [0x2D]) ∧
    IsDigits digits ∧ t = letter :: sign ++ digits

/-- Whether a text is a numeral: perhaps a minus, the part before the point, and perhaps a fraction
    and an exponent. -/
def IsNumeral (t : Text) : Prop :=
  ∃ minus whole fraction exponent, (minus = [] ∨ minus = [0x2D]) ∧ IsWhole whole ∧
    (fraction = [] ∨ IsFraction fraction) ∧ (exponent = [] ∨ IsExponent exponent) ∧
    t = minus ++ whole ++ fraction ++ exponent

/-- The words for numbers that have no numeral. -/
def beyondWords : List Text := ["NaN", "Infinity", "-Infinity"].map text

/-- Whether a code point belongs to a word or a numeral. -/
def isLexeme (c : CodePoint) : Bool :=
  inRanges [(0x30, 0x39), (0x41, 0x5A), (0x61, 0x7A), (0x2B, 0x2B), (0x2D, 0x2E)] c.val

/-- What a word or a numeral stands for; `words` admits the words for numbers without a numeral. -/
inductive IsScalar (words : Bool) : Text → Json → Prop where
  | null : IsScalar words (text "null") .null
  | bool (b : Bool) : IsScalar words (text (if b then "true" else "false")) (.bool b)
  | numeral {t : Text} : IsNumeral t → IsScalar words t (.number t)
  | beyond {t : Text} : words = true → t ∈ beyondWords → IsScalar words t (.number t)

/-! ## Data -/

/-- What the grammar describes: a value; the items of an array after the first one, with its end; a
    member of an object; the members after the first one, with the end. -/
inductive Part where
  | value
  | items
  | member
  | members

/-- What a part is read as. -/
abbrev Part.type : Part → Type
  | .value => Json
  | .items => List Json
  | .member => List CodeUnit × Json
  | .members => List (List CodeUnit × Json)

/-- `Reads words part t a rest`: a part of JSON data is read as `a` at the front of `t`, and `rest` is
    left. -/
inductive Reads (words : Bool) : (part : Part) → Text → part.type → Text → Prop where
  | scalar {t rest : Text} {c : CodePoint} {v : Json} :
      next? t = some (c, rest) → isLexeme c = true →
      IsScalar words (c :: rest.takeWhile isLexeme) v →
      Reads words .value t v (rest.dropWhile isLexeme)
  | string {t rest rest' : Text} {us : List CodeUnit} :
      next? t = some (0x22, rest) → readString? rest = some (us, rest') →
      Reads words .value t (.string us) rest'
  | emptyArray {t rest rest' : Text} :
      next? t = some (0x5B, rest) → next? rest = some (0x5D, rest') →
      Reads words .value t (.array []) rest'
  | array {t rest rest' rest'' : Text} {v : Json} {vs : List Json} :
      next? t = some (0x5B, rest) → Reads words .value rest v rest' →
      Reads words .items rest' vs rest'' → Reads words .value t (.array (v :: vs)) rest''
  | emptyObject {t rest rest' : Text} :
      next? t = some (0x7B, rest) → next? rest = some (0x7D, rest') →
      Reads words .value t (.object []) rest'
  | object {t rest rest' rest'' : Text} {m : List CodeUnit × Json}
      {ms : List (List CodeUnit × Json)} :
      next? t = some (0x7B, rest) → Reads words .member rest m rest' →
      Reads words .members rest' ms rest'' → Reads words .value t (.object (m :: ms)) rest''
  | itemsEnd {t rest : Text} : next? t = some (0x5D, rest) → Reads words .items t [] rest
  | nextItem {t rest rest' rest'' : Text} {v : Json} {vs : List Json} :
      next? t = some (0x2C, rest) → Reads words .value rest v rest' →
      Reads words .items rest' vs rest'' → Reads words .items t (v :: vs) rest''
  | member {t rest rest' rest'' rest''' : Text} {us : List CodeUnit} {v : Json} :
      next? t = some (0x22, rest) → readString? rest = some (us, rest') →
      next? rest' = some (0x3A, rest'') → Reads words .value rest'' v rest''' →
      Reads words .member t (us, v) rest'''
  | membersEnd {t rest : Text} : next? t = some (0x7D, rest) → Reads words .members t [] rest
  | nextMember {t rest rest' rest'' : Text} {m : List CodeUnit × Json}
      {ms : List (List CodeUnit × Json)} :
      next? t = some (0x2C, rest) → Reads words .member rest m rest' →
      Reads words .members rest' ms rest'' → Reads words .members t (m :: ms) rest''

/-- Whether a text is the JSON text of a value, with space around it. -/
def IsText (words : Bool) (t : Text) (v : Json) : Prop :=
  ∃ rest, Reads words .value t v rest ∧ next? rest = none

/-! ## One reading only -/

/-- A numeral begins with a digit, or with a minus and a digit. -/
theorem IsNumeral.front {t : Text} (numeral : IsNumeral t) :
    ∃ c rest, isAsciiDigit c = true ∧ (t = c :: rest ∨ t = 0x2D :: c :: rest) := by
  obtain ⟨minus, whole, fraction, exponent, sign, ⟨⟨nonempty, digits⟩, _⟩, _, _, rfl⟩ := numeral
  obtain ⟨c, more, rfl⟩ := List.exists_cons_of_ne_nil nonempty
  refine ⟨c, more ++ fraction ++ exponent, digits c (List.mem_cons_self ..), ?_⟩
  rcases sign with rfl | rfl
  · exact .inl (by simp)
  · exact .inr (by simp)

theorem not_isNumeral_of_front {c d : CodePoint} {rest : Text} (first : isAsciiDigit c = false)
    (second : c = 0x2D → isAsciiDigit d = false) : ¬ IsNumeral (c :: d :: rest) := by
  intro numeral
  obtain ⟨e, more, digit, written | written⟩ := numeral.front
  · obtain ⟨rfl, _⟩ := List.cons.inj written
    rw [first] at digit
    cases digit
  · obtain ⟨minus, later⟩ := List.cons.inj written
    obtain ⟨rfl, _⟩ := List.cons.inj later
    rw [second minus] at digit
    cases digit

theorem not_mem_beyondWords_of_isNumeral {t : Text} (numeral : IsNumeral t) : t ∉ beyondWords := by
  intro member
  simp only [beyondWords, List.map_cons, List.map_nil, List.mem_cons, List.not_mem_nil,
    or_false] at member
  rcases member with rfl | rfl | rfl <;>
    exact not_isNumeral_of_front (by decide) (by decide) numeral

/-- What a word or a numeral stands for can be told from its text. -/
theorem IsScalar.eq_ite {words : Bool} {t : Text} {v : Json} (scalar : IsScalar words t v) :
    v = if t = text "null" then .null else if t = text "true" then .bool true
      else if t = text "false" then .bool false else .number t := by
  have other {t : Text} (number : IsNumeral t ∨ t ∈ beyondWords) :
      t ≠ text "null" ∧ t ≠ text "true" ∧ t ≠ text "false" := by
    rcases number with numeral | beyond
    · refine ⟨?_, ?_, ?_⟩ <;> rintro rfl <;>
        exact not_isNumeral_of_front (by decide) (by decide) numeral
    · refine ⟨?_, ?_, ?_⟩ <;> rintro rfl <;> exact absurd beyond (by decide)
  cases scalar with
  | null => rfl
  | bool b => cases b <;> rfl
  | numeral numeral =>
    obtain ⟨noNull, noTrue, noFalse⟩ := other (.inl numeral)
    rw [if_neg noNull, if_neg noTrue, if_neg noFalse]
  | beyond _ beyond =>
    obtain ⟨noNull, noTrue, noFalse⟩ := other (.inr beyond)
    rw [if_neg noNull, if_neg noTrue, if_neg noFalse]

theorem next?_inj {t rest rest' : Text} {c c' : CodePoint} (first : next? t = some (c, rest))
    (second : next? t = some (c', rest')) : c = c' ∧ rest = rest' :=
  Prod.mk.inj (Option.some.inj (first.symm.trans second))

section FirstMark

variable {words : Bool} {t inner rest : Text} {v : Json}

/-! The first code point of a value tells what kind of value it is. -/

theorem Reads.of_lexeme {c : CodePoint} (read : Reads words .value t v rest)
    (front : next? t = some (c, inner)) (lexeme : isLexeme c = true) :
    IsScalar words (c :: inner.takeWhile isLexeme) v ∧ rest = inner.dropWhile isLexeme := by
  cases read with
  | scalar front' _ scalar =>
    obtain ⟨rfl, rfl⟩ := next?_inj front front'
    exact ⟨scalar, rfl⟩
  | string front' _ | emptyArray front' _ | array front' _ _ | emptyObject front' _
  | object front' _ _ =>
    obtain ⟨rfl, _⟩ := next?_inj front front'
    exact absurd lexeme (by decide)

theorem Reads.of_quote (read : Reads words .value t v rest) (front : next? t = some (0x22, inner)) :
    ∃ us, v = .string us ∧ readString? inner = some (us, rest) := by
  cases read with
  | string front' body =>
    obtain ⟨_, rfl⟩ := next?_inj front front'
    exact ⟨_, rfl, body⟩
  | scalar front' lexeme _ =>
    obtain ⟨rfl, _⟩ := next?_inj front' front
    exact absurd lexeme (by decide)
  | emptyArray front' _ | array front' _ _ | emptyObject front' _ | object front' _ _ =>
    exact absurd (next?_inj front front').1 (by decide)

theorem Reads.of_bracket (read : Reads words .value t v rest)
    (front : next? t = some (0x5B, inner)) :
    (v = .array [] ∧ next? inner = some (0x5D, rest)) ∨
    ∃ w vs between, v = .array (w :: vs) ∧ Reads words .value inner w between ∧
      Reads words .items between vs rest := by
  cases read with
  | emptyArray front' close =>
    obtain ⟨_, rfl⟩ := next?_inj front front'
    exact .inl ⟨rfl, close⟩
  | array front' value items =>
    obtain ⟨_, rfl⟩ := next?_inj front front'
    exact .inr ⟨_, _, _, rfl, value, items⟩
  | scalar front' lexeme _ =>
    obtain ⟨rfl, _⟩ := next?_inj front' front
    exact absurd lexeme (by decide)
  | string front' _ | emptyObject front' _ | object front' _ _ =>
    exact absurd (next?_inj front front').1 (by decide)

theorem Reads.of_brace (read : Reads words .value t v rest) (front : next? t = some (0x7B, inner)) :
    (v = .object [] ∧ next? inner = some (0x7D, rest)) ∨
    ∃ m ms between, v = .object (m :: ms) ∧ Reads words .member inner m between ∧
      Reads words .members between ms rest := by
  cases read with
  | emptyObject front' close =>
    obtain ⟨_, rfl⟩ := next?_inj front front'
    exact .inl ⟨rfl, close⟩
  | object front' member members =>
    obtain ⟨_, rfl⟩ := next?_inj front front'
    exact .inr ⟨_, _, _, rfl, member, members⟩
  | scalar front' lexeme _ =>
    obtain ⟨rfl, _⟩ := next?_inj front' front
    exact absurd lexeme (by decide)
  | string front' _ | emptyArray front' _ | array front' _ _ =>
    exact absurd (next?_inj front front').1 (by decide)

/-- No value begins with the bracket that closes an array. -/
theorem Reads.not_itemsEnd (read : Reads words .value t v rest) :
    next? t ≠ some (0x5D, inner) := by
  intro close
  cases read with
  | scalar front lexeme _ =>
    obtain ⟨rfl, _⟩ := next?_inj front close
    exact absurd lexeme (by decide)
  | string front _ | emptyArray front _ | array front _ _ | emptyObject front _ | object front _ _ =>
    exact absurd (next?_inj front close).1 (by decide)

/-- No member begins with the brace that closes an object. -/
theorem Reads.not_membersEnd {m : List CodeUnit × Json} (read : Reads words .member t m rest) :
    next? t ≠ some (0x7D, inner) := by
  intro close
  cases read with
  | member front _ _ _ => exact absurd (next?_inj front close).1 (by decide)

end FirstMark

/-- A part is read in one way only. -/
theorem Reads.unique {words : Bool} {part : Part} {t rest rest' : Text} {a a' : part.type}
    (first : Reads words part t a rest) (second : Reads words part t a' rest') :
    a = a' ∧ rest = rest' := by
  induction first generalizing rest' with
  | scalar front lexeme scalar =>
    obtain ⟨scalar', rfl⟩ := second.of_lexeme front lexeme
    exact ⟨scalar.eq_ite.trans scalar'.eq_ite.symm, rfl⟩
  | string front body =>
    obtain ⟨us, rfl, body'⟩ := second.of_quote front
    obtain ⟨rfl, rfl⟩ := Prod.mk.inj (Option.some.inj (body.symm.trans body'))
    exact ⟨rfl, rfl⟩
  | emptyArray front close =>
    rcases second.of_bracket front with ⟨rfl, close'⟩ | ⟨_, _, _, rfl, value, _⟩
    · exact ⟨rfl, (next?_inj close close').2⟩
    · exact absurd close value.not_itemsEnd
  | array front value items ihValue ihItems =>
    rcases second.of_bracket front with ⟨rfl, close⟩ | ⟨_, _, _, rfl, value', items'⟩
    · exact absurd close value.not_itemsEnd
    · obtain ⟨rfl, rfl⟩ := ihValue value'
      obtain ⟨rfl, rfl⟩ := ihItems items'
      exact ⟨rfl, rfl⟩
  | emptyObject front close =>
    rcases second.of_brace front with ⟨rfl, close'⟩ | ⟨_, _, _, rfl, member, _⟩
    · exact ⟨rfl, (next?_inj close close').2⟩
    · exact absurd close member.not_membersEnd
  | object front member members ihMember ihMembers =>
    rcases second.of_brace front with ⟨rfl, close⟩ | ⟨_, _, _, rfl, member', members'⟩
    · exact absurd close member.not_membersEnd
    · obtain ⟨rfl, rfl⟩ := ihMember member'
      obtain ⟨rfl, rfl⟩ := ihMembers members'
      exact ⟨rfl, rfl⟩
  | itemsEnd close =>
    cases second with
    | itemsEnd close' => exact ⟨rfl, (next?_inj close close').2⟩
    | nextItem comma _ _ => exact absurd (next?_inj close comma).1 (by decide)
  | nextItem comma value items ihValue ihItems =>
    cases second with
    | itemsEnd close => exact absurd (next?_inj close comma).1 (by decide)
    | nextItem comma' value' items' =>
      obtain ⟨_, rfl⟩ := next?_inj comma comma'
      obtain ⟨rfl, rfl⟩ := ihValue value'
      obtain ⟨rfl, rfl⟩ := ihItems items'
      exact ⟨rfl, rfl⟩
  | member front name colon value ihValue =>
    cases second with
    | member front' name' colon' value' =>
      obtain ⟨_, rfl⟩ := next?_inj front front'
      obtain ⟨rfl, rfl⟩ := Prod.mk.inj (Option.some.inj (name.symm.trans name'))
      obtain ⟨_, rfl⟩ := next?_inj colon colon'
      obtain ⟨rfl, rfl⟩ := ihValue value'
      exact ⟨rfl, rfl⟩
  | membersEnd close =>
    cases second with
    | membersEnd close' => exact ⟨rfl, (next?_inj close close').2⟩
    | nextMember comma _ _ => exact absurd (next?_inj close comma).1 (by decide)
  | nextMember comma member members ihMember ihMembers =>
    cases second with
    | membersEnd close => exact absurd (next?_inj close comma).1 (by decide)
    | nextMember comma' member' members' =>
      obtain ⟨_, rfl⟩ := next?_inj comma comma'
      obtain ⟨rfl, rfl⟩ := ihMember member'
      obtain ⟨rfl, rfl⟩ := ihMembers members'
      exact ⟨rfl, rfl⟩

theorem IsText.unique {words : Bool} {t : Text} {v w : Json} (first : IsText words t v)
    (second : IsText words t w) : v = w := by
  obtain ⟨_, read, _⟩ := first
  obtain ⟨_, read', _⟩ := second
  exact (read.unique read').1

/-! ## Readings without the words -/

mutual

/-- Whether all numbers in JSON data have a numeral. -/
def isStandard : Json → Bool
  | .number numeral => !beyondWords.contains numeral
  | .array items => allStandard items
  | .object members => membersStandard members
  | .null | .bool _ | .string _ => true

/-- Whether all numbers in the items of an array have a numeral. -/
def allStandard : List Json → Bool
  | [] => true
  | v :: vs => isStandard v && allStandard vs

/-- Whether all numbers in the members of an object have a numeral. -/
def membersStandard : List (List CodeUnit × Json) → Bool
  | [] => true
  | (_, v) :: ms => isStandard v && membersStandard ms

end

/-- Whether all numbers in a part have a numeral. -/
def Part.isStandard : (part : Part) → part.type → Bool
  | .value, v => Json.isStandard v
  | .items, vs => allStandard vs
  | .member, m => Json.isStandard m.2
  | .members, ms => membersStandard ms

theorem isScalar_false_iff {t : Text} {v : Json} :
    IsScalar false t v ↔ IsScalar true t v ∧ v.isStandard = true := by
  constructor
  · intro scalar
    cases scalar with
    | null => exact ⟨.null, rfl⟩
    | bool b => exact ⟨.bool b, rfl⟩
    | numeral numeral =>
      exact ⟨.numeral numeral, by simpa [isStandard] using not_mem_beyondWords_of_isNumeral numeral⟩
    | beyond words _ => cases words
  · rintro ⟨scalar, standard⟩
    cases scalar with
    | null => exact .null
    | bool b => exact .bool b
    | numeral numeral => exact .numeral numeral
    | beyond _ beyond => simp [isStandard, beyond] at standard

/-- A reading is one without the words exactly if none of them has been read. -/
theorem reads_false_iff {part : Part} {t rest : Text} {a : part.type} :
    Reads false part t a rest ↔ Reads true part t a rest ∧ part.isStandard a = true := by
  constructor
  · intro read
    induction read with
    | scalar front lexeme scalar =>
      obtain ⟨scalar, standard⟩ := isScalar_false_iff.mp scalar
      exact ⟨.scalar front lexeme scalar, standard⟩
    | string front body => exact ⟨.string front body, rfl⟩
    | emptyArray front close => exact ⟨.emptyArray front close, rfl⟩
    | array front _ _ value items =>
      exact ⟨.array front value.1 items.1, Bool.and_eq_true_iff.mpr ⟨value.2, items.2⟩⟩
    | emptyObject front close => exact ⟨.emptyObject front close, rfl⟩
    | object front _ _ member members =>
      exact ⟨.object front member.1 members.1, Bool.and_eq_true_iff.mpr ⟨member.2, members.2⟩⟩
    | itemsEnd close => exact ⟨.itemsEnd close, rfl⟩
    | nextItem comma _ _ value items =>
      exact ⟨.nextItem comma value.1 items.1, Bool.and_eq_true_iff.mpr ⟨value.2, items.2⟩⟩
    | member front name colon _ value => exact ⟨.member front name colon value.1, value.2⟩
    | membersEnd close => exact ⟨.membersEnd close, rfl⟩
    | nextMember comma _ _ member members =>
      exact ⟨.nextMember comma member.1 members.1, Bool.and_eq_true_iff.mpr ⟨member.2, members.2⟩⟩
  · rintro ⟨read, standard⟩
    induction read with
    | scalar front lexeme scalar =>
      exact .scalar front lexeme (isScalar_false_iff.mpr ⟨scalar, standard⟩)
    | string front body => exact .string front body
    | emptyArray front close => exact .emptyArray front close
    | array front _ _ value items =>
      have ⟨first, later⟩ := Bool.and_eq_true_iff.mp standard
      exact .array front (value first) (items later)
    | emptyObject front close => exact .emptyObject front close
    | object front _ _ member members =>
      have ⟨first, later⟩ := Bool.and_eq_true_iff.mp standard
      exact .object front (member first) (members later)
    | itemsEnd close => exact .itemsEnd close
    | nextItem comma _ _ value items =>
      have ⟨first, later⟩ := Bool.and_eq_true_iff.mp standard
      exact .nextItem comma (value first) (items later)
    | member front name colon _ value => exact .member front name colon (value standard)
    | membersEnd close => exact .membersEnd close
    | nextMember comma _ _ member members =>
      have ⟨first, later⟩ := Bool.and_eq_true_iff.mp standard
      exact .nextMember comma (member first) (members later)

theorem isText_false_iff {t : Text} {v : Json} :
    IsText false t v ↔ IsText true t v ∧ v.isStandard = true := by
  constructor
  · rintro ⟨rest, read, space⟩
    obtain ⟨read, standard⟩ := reads_false_iff.mp read
    exact ⟨⟨rest, read, space⟩, standard⟩
  · rintro ⟨⟨rest, read, space⟩, standard⟩
    exact ⟨rest, reads_false_iff.mpr ⟨read, standard⟩, space⟩

end Json

end UnitText
