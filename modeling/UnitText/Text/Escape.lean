import UnitText.Argument

/-!
# Escapes

Two escaped forms of a text, both made unit by unit. `escapeUnit` is the form of a unit on its own
(`escape_char`) and within a log message (`escape_message`): whatever is not plain is written as four
hexadecimal digits. `Text.escape` closes each such number by a semicolon, and leaves everything below
U+00C0 as it is, apart from seven structural characters (`escape`).
-/

namespace UnitText

/-- The two-character escapes of the structural characters: tab, backspace, the line ends, form
    feed, the double quote and the backslash. -/
def structuralEscape? (u : CodeUnit) : Option Text :=
  match u.val with
  | 0x09 => some (text "\\t")
  | 0x08 => some (text "\\b")
  | 0x0A => some (text "\\n")
  | 0x0D => some (text "\\r")
  | 0x0C => some (text "\\f")
  | 0x22 => some (text "\\\"")
  | 0x5C => some (text "\\\\")
  | _ => none

/-- The first unit that is always written as a number. -/
def numberThreshold : Nat := 0xC0

/-- A backslash, `u` and four hexadecimal digits. -/
def unitNumber (u : CodeUnit) : Text := text "\\u" ++ fixedHex 4 u.val

/-- Whether a unit on its own is written as a number: from U+00C0 on, controls, surrogates, and
    whitespace other than the space. -/
def needsNumber (u : CodeUnit) : Bool :=
  decide (numberThreshold ≤ u.val) || isIsoControl u.val || isSurrogate u.val
    || (isWhitespace u.val && u.val != 0x20)

/-- The escaped form of a unit on its own. -/
def escapeUnit (u : CodeUnit) : Text :=
  match structuralEscape? u with
  | some t => t
  | none =>
    if u.val = 0 then text "\\0"
    else if needsNumber u then unitNumber u
    else [u.toCodePoint]

/-- The escaped form of a unit within a text. -/
def escapeUnitInText (u : CodeUnit) : Text :=
  match structuralEscape? u with
  | some t => t
  | none => if numberThreshold ≤ u.val then unitNumber u ++ text ";" else [u.toCodePoint]

/-- A text between two copies of a mark, if asked for. -/
def enclose (mark : CodePoint) (wanted : Bool) (t : Text) : Text :=
  if wanted then [mark] ++ t ++ [mark] else t

/-- The escaped form of a unit, between single quotes if asked for. -/
def escapeSingle (u : CodeUnit) (quote : Bool) : Text := enclose 0x27 quote (escapeUnit u)

namespace Text

/-- The escaped form of a text, between double quotes if asked for. -/
def escape (t : Text) (quote : Bool) : Text := enclose 0x22 quote (t.units.flatMap escapeUnitInText)

/-- The form of a log message on one line. -/
def escapeMessage (t : Text) : Text := t.units.flatMap escapeUnit

end Text

/-- The text of one number, if it is a code point. -/
def singlePoint (n : Nat) : Text := if h : n < 0x110000 then [⟨n, h⟩] else []

/-- The escaped forms of the numbers from `first` to `last`, which must all be code units. -/
def escapesBetween (first last : Nat) : Except Rejection (List Text) :=
  (numbersBetween first last).mapM fun n => do
    let u ← requiredUnit (text "ch") (.text (singlePoint n))
    return escapeSingle u false

end UnitText
