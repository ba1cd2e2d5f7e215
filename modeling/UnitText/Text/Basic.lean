/-!
# Text as code points and as code units

A text is a list of code points in which a surrogate may stand alone. Positions and lengths are
counted in UTF-16 code units, so every operation is described through `Text.units` (`code_units`): a
pair of surrogates and the one code point that it encodes are different texts with the same units.

`Text.ofUnits` goes back, pairing a high surrogate with a low one that follows it at once; from
numbers, which may be out of range, that is `Text.ofUnitValues` (`from_code_units`).
-/

namespace UnitText

/-- A number from 0 to U+10FFFF; surrogates are code points like any other. -/
abbrev CodePoint := Fin 0x110000

instance instNeZeroCodePoint : @NeZero Nat Zero.ofOfNat0 0x110000 := Nat.instNeZeroSucc

/-- A UTF-16 code unit. -/
abbrev CodeUnit := Fin 0x10000

/-- A sequence of code points. -/
abbrev Text := List CodePoint

namespace CodePoint

/-- The code point of a character. -/
def ofChar (c : Char) : CodePoint :=
  ⟨c.toNat, by
    have h := c.valid
    have e : c.val.toNat = c.toNat := rfl
    simp only [UInt32.isValidChar, Nat.isValidChar] at h
    omega⟩

/-- Whether a code point lies outside the Basic Multilingual Plane and takes two code units. -/
def isSupplementary (c : CodePoint) : Bool := decide (0x10000 ≤ c.val)

/-- The code units of one code point: itself, or a high surrogate followed by a low one. -/
def units (c : CodePoint) : List CodeUnit :=
  if h : c.val < 0x10000 then [⟨c.val, h⟩]
  else
    [⟨0xD800 + (c.val - 0x10000) / 0x400, by omega⟩,
     ⟨0xDC00 + (c.val - 0x10000) % 0x400, by omega⟩]

end CodePoint

namespace CodeUnit

/-- The code point with the number of the unit. -/
def toCodePoint (u : CodeUnit) : CodePoint := ⟨u.val, by omega⟩

/-- Whether a unit is the first half of a surrogate pair. -/
def isHigh (u : CodeUnit) : Bool := decide (0xD800 ≤ u.val ∧ u.val ≤ 0xDBFF)

/-- Whether a unit is the second half of a surrogate pair. -/
def isLow (u : CodeUnit) : Bool := decide (0xDC00 ≤ u.val ∧ u.val ≤ 0xDFFF)

/-- The supplementary code point that a high and a low surrogate encode. -/
def pair (high low : CodeUnit) : CodePoint :=
  ⟨0x10000 + (high.val % 0x400) * 0x400 + low.val % 0x400, by omega⟩

end CodeUnit

/-- The text of a string. -/
def text (s : String) : Text := s.toList.map CodePoint.ofChar

namespace Text

/-- The UTF-16 code units of a text. -/
def units (t : Text) : List CodeUnit := t.flatMap CodePoint.units

/-- The number of code units of a text: one for each code point, and one more for each that is
    supplementary. -/
def unitLength (t : Text) : Nat := t.length + t.countP CodePoint.isSupplementary

/-- Whether a text has a code point outside the Basic Multilingual Plane. -/
def hasSupplementary (t : Text) : Bool := t.any CodePoint.isSupplementary

/-- The text of a sequence of code units. Surrogate pairs become one code point; surrogates that
    stand alone are kept. -/
def ofUnits : List CodeUnit → Text
  | [] => []
  | [u] => [u.toCodePoint]
  | u :: v :: rest =>
    if u.isHigh && v.isLow then CodeUnit.pair u v :: ofUnits rest
    else u.toCodePoint :: ofUnits (v :: rest)

/-- A number that is no code unit. -/
structure UnitRangeError where
  /-- The number, outside 0 to U+FFFF. -/
  value : Int
deriving DecidableEq, Repr

/-- Reads one number as a code unit. -/
def unitOfInt (n : Int) : Except UnitRangeError CodeUnit :=
  if h : 0 ≤ n ∧ n < 0x10000 then .ok ⟨n.toNat, by omega⟩ else .error ⟨n⟩

/-- The text of a sequence of numbers, which must all be code units. -/
def ofUnitValues (ns : List Int) : Except UnitRangeError Text :=
  (ns.mapM unitOfInt).map ofUnits

@[simp] theorem units_nil : units [] = [] := rfl

@[simp] theorem units_cons (c : CodePoint) (t : Text) : units (c :: t) = c.units ++ units t := rfl

@[simp] theorem units_append (s t : Text) : units (s ++ t) = units s ++ units t := by
  simp [units]

theorem length_units_point (c : CodePoint) :
    c.units.length = 1 + if c.isSupplementary then 1 else 0 := by
  by_cases h : c.val < 0x10000
  · simp [CodePoint.units, CodePoint.isSupplementary, h]
  · simp [CodePoint.units, CodePoint.isSupplementary, h, Nat.le_of_not_lt h]

/-- The count agrees with the units that there are. -/
theorem length_units (t : Text) : (units t).length = unitLength t := by
  induction t with
  | nil => rfl
  | cons c t ih =>
    have hc := length_units_point c
    simp only [units_cons, List.length_append, ih, hc, unitLength, List.length_cons,
      List.countP_cons]
    split <;> omega

end Text

/-!
## Cutting by position

A position may be given from the end, as a negative number, and a position past an end means that
end. `Text.sliceUnits` cuts a text at code-unit positions (`slice_units`).
-/

/-- The position meant by `i` in a list of `n` entries: from the end when negative, and never past
    either end. -/
def clampPosition (n : Nat) (i : Int) : Nat :=
  if i < 0 then (n + i).toNat else min i.toNat n

/-- The entries from `start` up to `stop`; a missing bound is that end of the list. -/
def cut {α : Type} (l : List α) (start stop : Option Int) : List α :=
  let first := (start.map (clampPosition l.length)).getD 0
  let last := (stop.map (clampPosition l.length)).getD l.length
  (l.take last).drop first

namespace Text

/-- Cuts a text at code-unit positions. A text without supplementary code points is cut as it
    stands; any other is cut as units and read back, which pairs adjacent surrogates everywhere. -/
def sliceUnits (t : Text) (start stop : Option Int) : Text :=
  if t.hasSupplementary then ofUnits (cut t.units start stop) else cut t start stop

/-- Everything from a unit position on. -/
def dropUnits (t : Text) (n : Nat) : Text := t.sliceUnits (some n) none

/-- Everything before a unit position. -/
def takeUnits (t : Text) (n : Nat) : Text := t.sliceUnits (some 0) (some n)

end Text

/-!
## Trimming

Trimming removes the code points up to U+0020 at an end of a text (`trim_left`, `trim_right`, `trim`);
`dropMembers` removes the leading run of the members of a given collection (`remove_left_chars`). Both
look at code points, and each has a counterpart at the other end. `trimAround` is what the operations
that trim and remove share (`trim_and_remove_left_chars`).
-/

/-- The list without the longest run at its end whose entries satisfy `p`. -/
def dropWhileRight {α : Type} (p : α → Bool) (l : List α) : List α :=
  (l.reverse.dropWhile p).reverse

/-- Whether trimming removes a code point. -/
def isTrimmed (c : CodePoint) : Bool := decide (c.val ≤ 0x20)

/-- Whether a code point, as a text of its own, is in a collection of texts. -/
def isMember (members : List Text) (c : CodePoint) : Bool := members.contains [c]

namespace Text

/-- Removes the code points up to U+0020 at the start. -/
def trimLeft (t : Text) : Text := t.dropWhile isTrimmed

/-- Removes the code points up to U+0020 at the end. -/
def trimRight (t : Text) : Text := dropWhileRight isTrimmed t

/-- Removes the code points up to U+0020 at both ends. -/
def trim (t : Text) : Text := t.trimLeft.trimRight

/-- Removes the leading code points that are members. -/
def dropMembers (t : Text) (members : List Text) : Text := t.dropWhile (isMember members)

/-- Removes the trailing code points that are members. -/
def dropMembersRight (t : Text) (members : List Text) : Text :=
  dropWhileRight (isMember members) t

/-- Trims a text, changes it, and trims again with `again` if that has made it shorter or longer. -/
def trimAround (again change : Text → Text) (t : Text) : Text :=
  let trimmed := t.trim
  let changed := change trimmed
  if changed.length = trimmed.length then trimmed else again changed

/-- Trims a text, removes the leading members, and trims the start again. -/
def trimDropMembers (t : Text) (members : List Text) : Text :=
  t.trimAround trimLeft (·.dropMembers members)

/-- Trims a text, removes the trailing members, and trims the end again. -/
def trimDropMembersRight (t : Text) (members : List Text) : Text :=
  t.trimAround trimRight (·.dropMembersRight members)

end Text

/-!
## Width and size

Padding brings a text to a width counted in code units (`pad_left`, `pad_right`). `Text.byteEstimate`
bounds the size of a text in bytes by looking at one code unit at a time (`get_utf8_byte_count`), so
that a supplementary code point counts as two units of three bytes each.
-/

/-- The bytes counted for one code unit. -/
def CodeUnit.byteEstimate (u : CodeUnit) : Nat :=
  if 0x7FF < u.val then 3 else if 0x7F < u.val then 2 else 1

namespace Text

/-- The spaces that a text lacks to a width. -/
def missingSpaces (t : Text) (width : Nat) : Text := List.replicate (width - t.unitLength) 0x20

/-- Spaces before a text, up to a width. -/
def padLeft (t : Text) (width : Nat) : Text := t.missingSpaces width ++ t

/-- Spaces after a text, up to a width. -/
def padRight (t : Text) (width : Nat) : Text := t ++ t.missingSpaces width

/-- The number of bytes counted for a text. -/
def byteEstimate (t : Text) : Nat := t.units.foldr (fun u n => u.byteEstimate + n) 0

end Text

/-!
## Order by name

Entries that have a name are put in the order of their names, which is the order by code point.
-/

/-- Whether a text comes before another by code point, or is the same. -/
def textLE : Text → Text → Bool
  | [], _ => true
  | _ :: _, [] => false
  | a :: s, b :: t => if a = b then textLE s t else decide (a.val < b.val)

/-- Inserts an entry before the first one that does not come before it. -/
def insertByName {α : Type} (name : α → Text) (a : α) : List α → List α
  | [] => [a]
  | b :: rest => if textLE (name a) (name b) then a :: b :: rest else b :: insertByName name a rest

/-- The entries in the order of their names. -/
def sortByName {α : Type} (name : α → Text) (l : List α) : List α :=
  l.foldr (insertByName name) []

end UnitText
