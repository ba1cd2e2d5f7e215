import UnitText.Argument

/-!
# Comparison

Two texts are compared unit by unit, after folding; an absent text comes before every text. A
`Comparator` is any folding of units (`StringComparator`). The two comparisons that have a name are
the exact one and the one that ignores case by simple lower-casing (`get_comparator`).
-/

namespace UnitText

/-- A way of comparing: the form under which a unit is compared. -/
structure Comparator where
  fold : Nat → Int

namespace Comparator

/-- Whether two units are equal or fold to the same form. -/
def unitsEqual (c : Comparator) (a b : Nat) : Bool := a == b || c.fold a == c.fold b

/-- The order of two sequences of units: the difference of the first two that fold differently, or
    else the difference in length. -/
def compareUnits (c : Comparator) : List CodeUnit → List CodeUnit → Int
  | a :: as, b :: bs =>
    if c.unitsEqual a.val b.val then compareUnits c as bs else c.fold a.val - c.fold b.val
  | as, bs => (as.length : Int) - (bs.length : Int)

/-- The order of two texts; an absent text comes first. -/
def compare (c : Comparator) : Option Text → Option Text → Int
  | none, none => 0
  | none, some _ => -1
  | some _, none => 1
  | some a, some b => c.compareUnits a.units b.units

/-- Whether two texts are equal; an absent text equals only an absent one. -/
def equals (c : Comparator) : Option Text → Option Text → Bool
  | some a, some b => c.compare (some a) (some b) == 0
  | a, b => a.isNone && b.isNone

/-- The comparator that replaces the units of a table and keeps all others. A unit listed twice takes
    its last replacement. -/
def ofTable (table : List (Nat × Int)) : Comparator where
  fold u := ((table.reverse.find? (·.1 == u)).map (·.2)).getD u

end Comparator

/-- A named comparison. -/
inductive Comparison where
  | exact
  | exactIgnoreCase
deriving DecidableEq, Repr

namespace Comparison

/-- The comparison that ignores case, or the exact one. -/
def ofIgnoreCase (ignoreCase : Bool) : Comparison := if ignoreCase then .exactIgnoreCase else .exact

/-- The folding of a named comparison. -/
def comparator : Comparison → Comparator
  | .exact => ⟨fun u => u⟩
  | .exactIgnoreCase => ⟨fun u => simpleLower u⟩

/-- The name under which a comparison's comparator is known. -/
def comparatorName : Comparison → String
  | .exact => "ExactComparator"
  | .exactIgnoreCase => "ExactIgnoreCaseComparator"

/-- Equality under a named comparison. Texts of different lengths are told apart without looking at
    their units, and identical texts need no look under the exact comparison. -/
def equals (m : Comparison) : Option Text → Option Text → Bool
  | some a, some b =>
    if m = .exact ∧ a = b then true
    else if a.unitLength ≠ b.unitLength then false
    else m.comparator.compare (some a) (some b) == 0
  | a, b => a.isNone && b.isNone

/-- What a caller names as the comparison. -/
inductive Choice where
  | named (comparison : Comparison)
  | absent
  | unknown (found : Value)

/-- The comparison that a caller has chosen. -/
def Choice.resolve : Choice → Except Rejection Comparison
  | .named m => .ok m
  | .absent => .error ⟨text "comparison", .absent⟩
  | .unknown v => .error ⟨text "comparison", .unknownComparison v⟩

end Comparison

/-- Equality of two texts under a chosen comparison. -/
def textEquals (a b : Option Text) (choice : Comparison.Choice) : Except Rejection Bool := do
  let m ← choice.resolve
  return m.equals a b

/-- Order of two texts under a chosen comparison. -/
def textCompare (a b : Option Text) (choice : Comparison.Choice) : Except Rejection Int := do
  let m ← choice.resolve
  return m.comparator.compare a b

/-!
## Hashing

The hash of a text is the polynomial in 31 whose coefficients are the code units, taken modulo
`2 ^ 32` and read as a signed number (`get_hash_code`). The hash that ignores case takes the lower-case
form of every unit first (`get_hash_code_ignore_case`).
-/

/-- The multiplier of the polynomial. -/
def hashBase : Nat := 31

/-- The number of values that a hash can take, `2 ^ 32`. -/
def hashModulus : Nat := 0x100000000

/-- The hash of a sequence of numbers. The running value never leaves 32 bits. -/
def hashNumbers (ns : List Nat) : Int :=
  Int.bmod (ns.foldl (fun h n => (hashBase * h + n) % hashModulus) 0 : Nat) hashModulus

/-- The hash of a text. -/
def Text.hash (t : Text) : Int := hashNumbers (t.units.map (·.val))

/-- The hash of a text that ignores case. -/
def Text.hashIgnoreCase (t : Text) : Int :=
  hashNumbers (t.units.map fun u => simpleLower u.val)

/-!
## Affixes

Parts of two texts are matched unit by unit (`starts_with`, `ends_with`), so an affix may begin or end
inside a surrogate pair. What remains after an affix is removed is cut at the same unit position
(`remove_left`, `remove_right`, `trim_and_remove_left`, `trim_and_remove_right`).
-/

/-- Whether the `length` units of `a` from `i` on match those of `b` from `j` on. A part that is not
    wholly there matches nothing. -/
def Comparator.matchesAt (c : Comparator) (a : List CodeUnit) (i : Nat) (b : List CodeUnit)
    (j length : Nat) : Bool :=
  decide (i + length ≤ a.length) && decide (j + length ≤ b.length) &&
    (((a.drop i).take length).zip ((b.drop j).take length)).all
      fun p => c.unitsEqual p.1.val p.2.val

namespace Text

/-- Whether a text begins with another. -/
def hasPrefix (t affix : Text) (m : Comparison) : Bool :=
  m.comparator.matchesAt t.units 0 affix.units 0 affix.unitLength

/-- Whether a text ends with another. -/
def hasSuffix (t affix : Text) (m : Comparison) : Bool :=
  decide (affix.unitLength ≤ t.unitLength) &&
    m.comparator.matchesAt t.units (t.unitLength - affix.unitLength) affix.units 0 affix.unitLength

/-- Removes an affix that fits into the text: all of the text if the affix is as long as the text and
    equals it, and otherwise what `remove` leaves if the affix is there. -/
def removeAffix (t : Text) (affix : Option Text) (m : Comparison) (present : Text → Bool)
    (remove : Nat → Text) : Text :=
  match affix with
  | none => t
  | some affix =>
    if affix.isEmpty ∨ t.unitLength < affix.unitLength then t
    else if t.unitLength = affix.unitLength then
      if m.equals (some t) (some affix) then [] else t
    else if present affix then remove affix.unitLength
    else t

/-- Removes one occurrence of an affix at the start. -/
def removeLeft (t : Text) (affix : Option Text) (m : Comparison) : Text :=
  t.removeAffix affix m (t.hasPrefix · m) fun n => t.dropUnits n

/-- Removes one occurrence of an affix at the end. -/
def removeRight (t : Text) (affix : Option Text) (m : Comparison) : Text :=
  t.removeAffix affix m (t.hasSuffix · m) fun n => t.takeUnits (t.unitLength - n)

/-- Trims a text, removes an affix at the start, and trims the start again. -/
def trimRemoveLeft (t : Text) (affix : Option Text) (m : Comparison) : Text :=
  t.trimAround trimLeft (·.removeLeft affix m)

/-- Trims a text, removes an affix at the end, and trims the end again. -/
def trimRemoveRight (t : Text) (affix : Option Text) (m : Comparison) : Text :=
  t.trimAround trimRight (·.removeRight affix m)

end Text

/-!
## Blank texts and truth values

A text is blank if all its units are whitespace; the absent text is blank too (`is_null_or_empty`,
`is_null_or_whitespace`). A text spells a truth value, once trimmed, by one of three single letters or
one of two words, in any case (`is_true`, `is_false`).
-/

/-- Whether a text is absent or empty. -/
def isAbsentOrEmpty (t : Option Text) : Bool := (t.getD []).isEmpty

/-- Whether a text is absent or all whitespace. -/
def isBlank (t : Option Text) : Bool := (t.getD []).units.all fun u => isWhitespace u.val

/-- The ways in which a truth value is spelled: by a single letter or by a word. -/
structure Spelling where
  letters : List Nat
  words : List Text

namespace Spelling

/-- The spellings of true. -/
def affirmative : Spelling := ⟨[0x74, 0x79, 0x31], [text "true", text "yes"]⟩

/-- The spellings of false. -/
def negative : Spelling := ⟨[0x66, 0x6E, 0x30], [text "false", text "no"]⟩

/-- Whether a text spells the value. A text of one unit can only match a letter. -/
def accepts (s : Spelling) (t : Option Text) : Bool :=
  match t with
  | none => false
  | some t =>
    if isBlank (some t) then false
    else
      match t.trim.units with
      | [u] => s.letters.contains (simpleLower u.val)
      | _ => s.words.any fun w => Comparison.exactIgnoreCase.equals (some t.trim) (some w)

end Spelling

/-- Whether a text spells true. -/
def spellsTrue (t : Option Text) : Bool := Spelling.affirmative.accepts t

/-- Whether a text spells false. -/
def spellsFalse (t : Option Text) : Bool := Spelling.negative.accepts t

end UnitText
