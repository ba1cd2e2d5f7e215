import UnitText.Text.UnitTable

/-!
# Digits and numerals

Numbers written in a base, the fixed-width hexadecimal numbers of escapes, and the readings of a text
as an integer. Digits above nine are small letters.
-/

namespace UnitText

/-- The digit of a value below sixteen. -/
def hexDigit (d : Nat) : CodePoint :=
  if h : d < 10 then ⟨0x30 + d, by omega⟩ else ⟨0x57 + d % 16, by omega⟩

/-- The last `width` hexadecimal digits of a number. -/
def fixedHex : Nat → Nat → Text
  | 0, _ => []
  | width + 1, n => fixedHex width (n / 16) ++ [hexDigit (n % 16)]

@[simp] theorem length_fixedHex (width n : Nat) : (fixedHex width n).length = width := by
  induction width generalizing n with
  | zero => rfl
  | succ width ih => simp [fixedHex, ih]

/-- A number in a base of at most sixteen, without leading zeros. -/
def inBase (base n : Nat) : Text := (Nat.toDigits base n).map CodePoint.ofChar

/-- A natural number in decimal. -/
def natText (n : Nat) : Text := inBase 10 n

/-- An integer in decimal. -/
def intText (n : Int) : Text :=
  if n < 0 then text "-" ++ natText n.natAbs else natText n.natAbs

/-- The value of an ASCII digit. -/
def asciiDigit? (c : CodePoint) : Option Nat :=
  if 0x30 ≤ c.val ∧ c.val ≤ 0x39 then some (c.val - 0x30) else none

/-- Whether a code point is an ASCII digit. -/
def isAsciiDigit (c : CodePoint) : Bool := (asciiDigit? c).isSome

/-- The number that a sequence of ASCII digits spells; other code points count as zeros. -/
def digitsValue (t : Text) : Nat := t.foldl (fun n c => 10 * n + (asciiDigit? c).getD 0) 0

/-- Lower case of an ASCII letter. -/
def lowerAscii (c : CodePoint) : CodePoint :=
  if h : 0x41 ≤ c.val ∧ c.val ≤ 0x5A then ⟨c.val + 0x20, by omega⟩ else c

/-- `t` after enough copies of `fill` to make `width` code points. -/
def fillLeft (fill : CodePoint) (width : Nat) (t : Text) : Text :=
  List.replicate (width - t.length) fill ++ t

/-!
## Decimal digits of every script

Unicode 14.0 gives each script its decimal digits in a block of ten, so a digit's value is its
distance from the zero of the block.
-/

/-- The zeros of the blocks of ten decimal digits, ascending. -/
def digitZeros : List Nat :=
  [0x30, 0x660, 0x6F0, 0x7C0, 0x966, 0x9E6, 0xA66, 0xAE6,
   0xB66, 0xBE6, 0xC66, 0xCE6, 0xD66, 0xDE6, 0xE50, 0xED0,
   0xF20, 0x1040, 0x1090, 0x17E0, 0x1810, 0x1946, 0x19D0, 0x1A80,
   0x1A90, 0x1B50, 0x1BB0, 0x1C40, 0x1C50, 0xA620, 0xA8D0, 0xA900,
   0xA9D0, 0xA9F0, 0xAA50, 0xABF0, 0xFF10, 0x104A0, 0x10D30, 0x11066,
   0x110F0, 0x11136, 0x111D0, 0x112F0, 0x11450, 0x114D0, 0x11650, 0x116C0,
   0x11730, 0x118E0, 0x11950, 0x11C50, 0x11D50, 0x11DA0, 0x16A60, 0x16AC0,
   0x16B50, 0x1D7CE, 0x1D7D8, 0x1D7E2, 0x1D7EC, 0x1D7F6, 0x1E140, 0x1E2F0,
   0x1E950, 0x1FBF0]

/-- The value of a decimal digit of any script. -/
def decimalDigit? (c : CodePoint) : Option Nat :=
  (digitZeros.find? fun z => z ≤ c.val && c.val ≤ z + 9).map (c.val - ·)

/-- The code points that may surround a numeral: tab to carriage return, the next-line control and
    the separators. -/
def isNumeralSpace (c : CodePoint) : Bool :=
  inRanges [(0x09, 0x0D), (0x85, 0x85)] c.val || isSeparator c.val

/-!
## Reading an integer

Two readings of a text as an integer. The tolerant one takes the decimal digits of every script. The
strict one takes ASCII digits without leading zeros; `cleanNumeral` brings looser spellings into its
form.
-/

/-- The underscore, which may stand between two digits. -/
def underscore : CodePoint := 0x5F

/-- The digits of a run in which single underscores may separate them. -/
def separatedDigits? (digit? : CodePoint → Option Nat) : (afterDigit : Bool) → Text → Option (List Nat)
  | afterDigit, [] => if afterDigit then some [] else none
  | afterDigit, c :: rest =>
    match digit? c with
    | some d => (separatedDigits? digit? true rest).map (d :: ·)
    | none =>
      if afterDigit && c == underscore then separatedDigits? digit? false rest else none

/-- The number that decimal digits spell. -/
def numberOfDigits (ds : List Nat) : Nat := ds.foldl (fun n d => 10 * n + d) 0

/-- Takes a sign off the front of a text: whether it is a minus, and the rest. -/
def splitSign (t : Text) : Bool × Text :=
  match t with
  | c :: rest =>
    if c.val = 0x2D then (true, rest) else if c.val = 0x2B then (false, rest) else (false, t)
  | [] => (false, [])

/-- A number with a sign. -/
def signed (negative : Bool) (n : Nat) : Int := if negative then -(n : Int) else (n : Int)

/-- The text without the space around it. -/
def stripNumeral (t : Text) : Text :=
  ((t.dropWhile isNumeralSpace).reverse.dropWhile isNumeralSpace).reverse

/-- The most digits that a numeral may have, when it is read and when it is written. -/
def maxDigits : Nat := 4300

/-- Whether an integer has few enough digits to be written. -/
def isWritableInt (n : Int) : Bool := decide (n.natAbs < Nat.pow 10 maxDigits)

/-- The wording of the refusal to write an integer. -/
def longNumeralMessage : Text :=
  text "Exceeds the limit (" ++ natText maxDigits ++ text " digits) for integer string conversion; "
    ++ text "use sys.set_int_max_str_digits() to increase the limit"

/-- The tolerant reading: space around the numeral, a sign, and the digits of any script, with single
    underscores between them. -/
def Text.readInteger? (t : Text) : Option Int :=
  let (negative, body) := splitSign (stripNumeral t)
  match separatedDigits? decimalDigit? false body with
  | some ds => if ds.length ≤ maxDigits then some (signed negative (numberOfDigits ds)) else none
  | none => none

/-- What the strict reading finds. -/
inductive NumeralReading where
  | number (value : Int)
  | tooLong
  | noNumber
deriving DecidableEq, Repr

/-- The strict reading: a minus or nothing, and ASCII digits without leading zeros. A run of digits
    that is too long is told apart from what is no number, whatever follows it. -/
def Text.readPlainInteger (t : Text) : NumeralReading :=
  let (negative, body) :=
    match t with
    | c :: rest => if c.val = 0x2D then (true, rest) else (false, t)
    | [] => (false, [])
  let digits := body.takeWhile isAsciiDigit
  let signWidth := if negative then 1 else 0
  match digits with
  | [] => .noNumber
  | first :: more =>
    if first.val = 0x30 then
      if body.length = 1 then .number 0 else .noNumber
    else if maxDigits < more.length + 1 + signWidth then .tooLong
    else if digits.length = body.length then .number (signed negative (digitsValue digits))
    else .noNumber

namespace Numeral

/-- Skips zeros and underscores after a leading zero, up to the first other digit. Of a numeral that
    has a point next, or ends, the last character skipped is kept. -/
def skipZeros (last : CodePoint) : Text → Option Text
  | [] => some [last]
  | c :: rest =>
    if c.val = 0x30 ∨ c = underscore then skipZeros c rest
    else if isAsciiDigit c then some (c :: rest)
    else if c.val = 0x2E then some (last :: c :: rest)
    else none

/-- A numeral without leading zeros. It must begin with a digit or a minus. -/
def stripLeadingZeros : Text → Option Text
  | [] => none
  | c :: rest =>
    if c.val = 0x30 then skipZeros c rest
    else if c.val = 0x2D then
      match rest with
      | d :: more =>
        if d.val = 0x30 then (skipZeros d more).map (c :: ·) else some (c :: rest)
      | [] => some [c]
    else if isAsciiDigit c then some (c :: rest)
    else none

/-- A numeral without a point that zeros follow, at least one, and nothing else. -/
def stripDecimalZeros (t : Text) : Text :=
  match t.dropWhile (fun c => c.val != 0x2E) with
  | _ :: decimals =>
    if !decimals.isEmpty && decimals.all (fun c => c.val == 0x30) then
      t.takeWhile (fun c => c.val != 0x2E)
    else t
  | [] => t

/-- Whether two underscores stand side by side. -/
def hasDoubleUnderscore : Text → Bool
  | a :: b :: rest => (a == underscore && b == underscore) || hasDoubleUnderscore (b :: rest)
  | _ => false

/-- A numeral without its underscores, if each stands alone between two other characters. -/
def stripUnderscores (t : Text) : Text :=
  if t.head? = some underscore ∨ t.getLast? = some underscore ∨ hasDoubleUnderscore t then t
  else t.filter (· != underscore)

/-- The text after a plus sign, which no minus may follow. -/
def stripPlus : Text → Option Text
  | [] => some []
  | c :: rest =>
    if c.val = 0x2B then
      match rest with
      | d :: _ => if d.val = 0x2D then none else some rest
      | [] => some []
    else some (c :: rest)

/-- The plain form of a loosely spelled integer: without space around it, plus sign, leading zeros,
    decimals that are zero, and underscores. -/
def clean (t : Text) : Option Text := do
  let unsigned ← stripPlus (stripNumeral t)
  let body ← stripLeadingZeros unsigned
  return stripUnderscores (stripDecimalZeros body)

end Numeral

/-- The strict reading of a text, or of its plain form if the text as it stands is no number. -/
def Text.readLooseInteger (t : Text) : NumeralReading :=
  match t.readPlainInteger with
  | .noNumber =>
    match Numeral.clean t with
    | some plain => plain.readPlainInteger
    | none => .noNumber
  | reading => reading

end UnitText
