import UnitText.Decimal.Numeral
import UnitText.Template.Error
import UnitText.Template.Piece

/-!
# Filling a template

Each directive takes the next argument, or the value under its key, and is replaced by the form of
that value. The first error ends the filling. Arguments that come in order must all be used.
-/

namespace UnitText.Template

/-- The arguments that are left, and the entries among which keys are looked up. -/
structure Supply where
  next : List Value
  entries : Option (List (Value × Value))

/-- Takes the next argument. -/
def Supply.take (s : Supply) : Except Error (Value × Supply) :=
  match s.next with
  | v :: rest => .ok (v, { s with next := rest })
  | [] => .error .tooFewArguments

/-- Makes the value under a key the next argument. -/
def Supply.select (s : Supply) : Key → Except Error Supply
  | .absent => .ok s
  | key =>
    match s.entries, key with
    | none, _ => .error .noMapping
    | some entries, .named name =>
      match entries.find? fun e => e.1.sameKey (.text name) with
      | some e => .ok { s with next := [e.2] }
      | none => .error (.missingKey name)
    | some _, _ => .error .unclosedKey

/-- What is made of a value, if the value can be written. -/
def ifWritable {α : Type} (v : Value) (made : α) : Except Error α :=
  if v.isWritable then .ok made else .error .longNumeral

/-- An integer, or a truth value in its place. -/
def asInteger? : Value → Option Int
  | .int n => some n
  | .bool b => some (if b then 1 else 0)
  | _ => none

/-- The greatest width. -/
def maxWidth : Nat := 0x7FFFFFFFFFFFFFFF

/-- The greatest precision. -/
def maxPrecision : Nat := 0x7FFFFFFF

/-- The greatest width for which a result is built. -/
def maxBuilt : Nat := 0x80000000

/-- A width: whether it turns the value to the left, and its size. -/
def Amount.toWidth (s : Supply) : Amount → Except Error (Bool × Nat × Supply)
  | .absent => .ok (false, 0, s)
  | .fixed n => if maxWidth < n then .error .widthTooLarge else .ok (false, n, s)
  | .argument => do
    let (v, s) ← s.take
    match asInteger? v with
    | none => throw .amountNotInteger
    | some n =>
      if n < -0x8000000000000000 ∨ (maxWidth : Int) < n then throw .widthArgumentTooLarge
      else return (decide (n < 0), n.natAbs, s)

/-- A precision; a negative one is zero. -/
def Amount.toPrecision (s : Supply) : Amount → Except Error (Option Nat × Supply)
  | .absent => .ok (none, s)
  | .fixed n => if maxPrecision < n then .error .precisionTooLarge else .ok (some n, s)
  | .argument => do
    let (v, s) ← s.take
    match asInteger? v with
    | none => throw .amountNotInteger
    | some n =>
      if n < -0x80000000 ∨ (maxPrecision : Int) < n then throw .precisionArgumentTooLarge
      else return (some n.toNat, s)

/-- A converted value: its sign and the mark of its base, if any, and the rest. Only a number is
    filled up with zeros. -/
structure Converted where
  numeric : Bool
  sign : Text
  mark : Text
  body : Text

/-- A capital ASCII letter for a small one. -/
def upperAscii (c : CodePoint) : CodePoint :=
  if h : 0x61 ≤ c.val ∧ c.val ≤ 0x7A then ⟨c.val - 0x20, by omega⟩ else c

/-- The sign that is written before a number. -/
def Flags.signOf (f : Flags) (negative : Bool) : Text :=
  if negative then text "-"
  else if f.plus then text "+"
  else if f.space then text " "
  else []

/-- The integer that a value gives to a decimal conversion. -/
def decimalArgument (c : CodePoint) (v : Value) : Except Error Int :=
  match asInteger? v, v with
  | some n, _ => .ok n
  | none, .float .nan => .error .integerOfNan
  | none, .float (.infinite _) => .error .integerOfInfinity
  | none, .float x =>
    match x.truncate? with
    | some n => .ok n
    | none => .error .integerOfNan
  | none, v => .error (.notReal c v.kindName)

/-- An integer in a base. -/
def convertInteger (f : Flags) (base : Nat) (precision : Nat) (mark : Text) (n : Int) : Converted where
  numeric := true
  sign := f.signOf (decide (n < 0))
  mark := if f.alternate then mark else []
  body := fillLeft 0x30 precision (inBase base n.natAbs)

/-- An integer in base eight or sixteen. -/
def convertBased (f : Flags) (c : CodePoint) (base : Nat) (precision : Nat) (mark : Text) (v : Value) :
    Except Error Converted :=
  match asInteger? v with
  | some n => .ok (convertInteger f base precision mark n)
  | none => .error (.notInteger c v.kindName)

/-- The number that a value gives to a floating-point conversion. -/
def floatArgument (v : Value) : Except Error Binary64 :=
  match asInteger? v, v with
  | some n, _ =>
    match Binary64.ofInt n with
    | .infinite _ => .error .floatOverflow
    | x => .ok x
  | none, .float x => .ok x
  | none, v => .error (.notFloat v.kindName)

/-- A floating-point number, of which `form` writes the magnitude. -/
def convertFloat (f : Flags) (precision : Option Nat) (form : DecimalStyle → Nat → Nat → Text)
    (v : Value) : Except Error Converted := do
  let style : DecimalStyle := ⟨precision.getD 6, f.alternate⟩
  match ← floatArgument v with
  | .nan => return ⟨true, f.signOf false, [], text "nan"⟩
  | .infinite negative => return ⟨true, f.signOf negative, [], text "inf"⟩
  | .finite negative significand exponent =>
    let (num, den) := Binary64.magnitude significand exponent
    return ⟨true, f.signOf negative, [], form style num den⟩

/-- A value as one character. -/
def convertCharacter : Value → Except Error Converted
  | .text [c] => .ok ⟨false, [], [], [c]⟩
  | v =>
    match asInteger? v with
    | none => .error .notCharacter
    | some n =>
      if h : 0 ≤ n ∧ n < 0x110000 then .ok ⟨false, [], [], [⟨n.toNat, by omega⟩]⟩
      else .error .characterOutOfRange

/-- A text, cut to the precision. -/
def convertText (precision : Option Nat) (t : Text) : Converted :=
  ⟨false, [], [], match precision with
    | some n => t.take n
    | none => t⟩

/-- The capital letters of a converted value. -/
def Converted.upper (c : Converted) : Converted :=
  { c with mark := c.mark.map upperAscii, body := c.body.map upperAscii }

/-- Converts a value as a conversion asks. -/
def convert (f : Flags) (precision : Option Nat) (c : CodePoint) (position : Nat) (v : Value) :
    Except Error Converted :=
  let digits := precision.getD 0
  match c.val with
  | 0x73 => ifWritable v (convertText precision v.display)
  | 0x72 => ifWritable v (convertText precision v.quote)
  | 0x61 => ifWritable v (convertText precision (escapeBeyondAscii v.quote))
  | 0x64 | 0x69 | 0x75 => do
    let n ← decimalArgument c v
    ifWritable (.int n) (convertInteger f 10 digits [] n)
  | 0x6F => convertBased f c 8 digits (text "0o") v
  | 0x78 => convertBased f c 16 digits (text "0x") v
  | 0x58 => (convertBased f c 16 digits (text "0x") v).map .upper
  | 0x65 => convertFloat f precision scientific v
  | 0x45 => (convertFloat f precision scientific v).map .upper
  | 0x66 => convertFloat f precision fixedPoint v
  | 0x46 => (convertFloat f precision fixedPoint v).map .upper
  | 0x67 => convertFloat f precision general v
  | 0x47 => (convertFloat f precision general v).map .upper
  | 0x63 => convertCharacter v
  | _ => .error (.unknownConversion c position)

/-- Fills a converted value up to a width: with spaces after it if it stands at the left, with zeros
    after the sign and the mark of a number that asks for them, and else with spaces before it. -/
def Converted.fill (c : Converted) (left zero : Bool) (width : Nat) : Text :=
  let plain := c.sign ++ c.mark ++ c.body
  if left then plain ++ List.replicate (width - plain.length) 0x20
  else if zero && c.numeric then
    c.sign ++ c.mark ++ List.replicate (width - plain.length) 0x30 ++ c.body
  else fillLeft 0x20 width plain

/-- The text of a directive, and the arguments that it leaves. -/
def Directive.fill (d : Directive) (s : Supply) : Except Error (Text × Supply) := do
  let s ← s.select d.key
  let (turned, width, s) ← d.width.toWidth s
  let (precision, s) ← d.precision.toPrecision s
  match d.conversion with
  | none => throw .incomplete
  | some (c, position) =>
    let (v, s) ← s.take
    let converted ← convert d.flags precision c position v
    if maxBuilt < width then throw .outOfMemory
    return (converted.fill (d.flags.left || turned) d.flags.zero width, s)

/-- The text of pieces. In the end no argument may be left, unless arguments have keys. -/
def fillPieces (s : Supply) : List Piece → Except Error Text
  | [] => if s.entries.isNone && !s.next.isEmpty then .error .tooManyArguments else .ok []
  | .literal c :: rest => do return c :: (← fillPieces s rest)
  | .directive d :: rest => do
    let (t, s) ← d.fill s
    return t ++ (← fillPieces s rest)

/-- The arguments of a template. A single dictionary that is not empty gives the keys as well. -/
def supplyOf (arguments : List Value) : Supply :=
  match arguments with
  | [.dict entries] => ⟨arguments, if entries.isEmpty then none else some entries⟩
  | _ => ⟨arguments, none⟩

/-- Fills a template with arguments; without arguments it is left as it is. -/
def fill (template : Text) (arguments : List Value) : Except Error Text :=
  if arguments.isEmpty then .ok template
  else fillPieces (supplyOf arguments) (pieces template)

end UnitText.Template
