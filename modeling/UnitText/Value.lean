import UnitText.Decimal.Numeral
import UnitText.Text.Quoted

/-!
# Values

The data that a caller may attach to a log record, put into a message or offer for a setting.
-/

namespace UnitText

/-- A value of any kind. A dictionary keeps its entries in order. -/
inductive Value where
  | null
  | bool (value : Bool)
  | int (value : Int)
  | float (value : Binary64)
  | text (value : Text)
  | bytes (value : List UInt8)
  | path (value : Text)
  | list (items : List Value)
  | dict (entries : List (Value × Value))
deriving Repr, Inhabited

namespace Value

/-- The name of a value's kind, as messages about a wrong kind write it. -/
def kindName : Value → String
  | .null => "NoneType"
  | .bool _ => "bool"
  | .int _ => "int"
  | .float _ => "float"
  | .text _ => "str"
  | .bytes _ => "bytes"
  | .path _ => "PosixPath"
  | .list _ => "list"
  | .dict _ => "dict"

/-- The number that a value stands for among the keys of a dictionary: `true` is one and `false`
    zero. -/
def keyNumber? : Value → Option (Int ⊕ Binary64)
  | .bool b => some (.inl (if b then 1 else 0))
  | .int n => some (.inl n)
  | .float x =>
    match x.toInt? with
    | some n => some (.inl n)
    | none => some (.inr x)
  | _ => none

/-- Whether two values are one key: numbers by value, all else by kind and content. Containers are
    no keys. -/
def sameKey (a b : Value) : Bool :=
  match a, b with
  | .null, .null => true
  | .text s, .text t => s == t
  | .bytes s, .bytes t => s == t
  | .path s, .path t => s == t
  | a, b =>
    match a.keyNumber?, b.keyNumber? with
    | some (.inl m), some (.inl n) => m == n
    | some (.inr x), some (.inr y) => x.sameValue y
    | _, _ => false

end Value

/-- Writes `value` under a key: a key that is there keeps its place and takes the new value, and a
    new key goes to the end. -/
def putEntry {κ ν : Type} (same : κ → κ → Bool) (entries : List (κ × ν)) (key : κ) (value : ν) :
    List (κ × ν) :=
  if entries.any (fun e => same e.1 key) then
    entries.map fun e => if same e.1 key then (e.1, value) else e
  else entries ++ [(key, value)]

/-- The entries that remain when they are written one after the other. -/
def ofEntries {κ ν : Type} (same : κ → κ → Bool) (entries : List (κ × ν)) : List (κ × ν) :=
  entries.foldl (fun acc e => putEntry same acc e.1 e.2) []

/-- A dictionary of entries written one after the other. -/
def Value.dictOf (entries : List (Value × Value)) : Value := .dict (ofEntries Value.sameKey entries)

end UnitText

/-!
## Values as text

`Value.quote` is the form of a value inside another one, in which a text is quoted; `Value.display`
is the form of a value on its own, in which a text or a path stands for itself.
-/

namespace UnitText.Value

/-- Texts with a separator between each two. -/
def separated (separator : Text) (ts : List Text) : Text := (ts.intersperse separator).flatten

mutual

/-- The quoted form of a value. -/
def quote : Value → Text
  | .null => UnitText.text "None"
  | .bool b => UnitText.text (if b then "True" else "False")
  | .int n => intText n
  | .float x => x.display
  | .text t => quoted t
  | .bytes bs => quotedBytes bs
  | .path p => UnitText.text "PosixPath(" ++ quoted p ++ UnitText.text ")"
  | .list items => UnitText.text "[" ++ separated (UnitText.text ", ") (quoteAll items)
      ++ UnitText.text "]"
  | .dict entries => UnitText.text "\x7b" ++ separated (UnitText.text ", ") (quoteEntries entries)
      ++ UnitText.text "\x7d"

/-- The quoted forms of a list of values. -/
def quoteAll : List Value → List Text
  | [] => []
  | v :: vs => quote v :: quoteAll vs

/-- The quoted forms of the entries of a dictionary. -/
def quoteEntries : List (Value × Value) → List Text
  | [] => []
  | (k, v) :: rest => (quote k ++ UnitText.text ": " ++ quote v) :: quoteEntries rest

end

mutual

/-- Whether a value can be written as text: no integer in it has too many digits. -/
def isWritable : Value → Bool
  | .int n => isWritableInt n
  | .list items => allWritable items
  | .dict entries => entriesWritable entries
  | _ => true

/-- Whether all values of a list can be written. -/
def allWritable : List Value → Bool
  | [] => true
  | v :: vs => isWritable v && allWritable vs

/-- Whether all keys and values of a dictionary can be written. -/
def entriesWritable : List (Value × Value) → Bool
  | [] => true
  | (k, v) :: rest => isWritable k && isWritable v && entriesWritable rest

end

/-- The text of a value on its own. -/
def display : Value → Text
  | .text t => t
  | .path p => p
  | v => v.quote

end UnitText.Value

/-!
## Values as JSON

A value is written on one line in ASCII: everything else in a string is escaped by code unit. Paths
and bytes are written as the strings that display them, and keys that are numbers, truth values or
nothing as strings too; any other key cannot be written, and neither can an integer that has too many
digits.
-/

namespace UnitText

/-- Why a value cannot be written in JSON. -/
inductive JsonError where
  /-- A key of a kind that JSON cannot have, by the name of the kind. -/
  | key (kind : String)
  /-- An integer that has too many digits. -/
  | longNumeral
deriving DecidableEq, Repr

/-- The form of a code unit in a JSON string. -/
def jsonUnit (u : CodeUnit) : Text :=
  match u.val with
  | 0x22 => text "\\\""
  | 0x5C => text "\\\\"
  | 0x0A => text "\\n"
  | 0x0D => text "\\r"
  | 0x09 => text "\\t"
  | 0x0C => text "\\f"
  | 0x08 => text "\\b"
  | n => if 0x20 ≤ n ∧ n ≤ 0x7E then [u.toCodePoint] else text "\\u" ++ fixedHex 4 n

/-- A text as a JSON string. -/
def jsonString (t : Text) : Text := [0x22] ++ t.units.flatMap jsonUnit ++ [0x22]

/-- A floating-point number in JSON, with words for those that JSON has no numbers for. -/
def jsonFloat : Binary64 → Text
  | .nan => text "NaN"
  | .infinite negative => signText negative ++ text "Infinity"
  | x => x.display

/-- A truth value in JSON. -/
def jsonBool (b : Bool) : Text := text (if b then "true" else "false")

/-- An integer in JSON. -/
def jsonInt (n : Int) : Except JsonError Text :=
  if isWritableInt n then .ok (intText n) else .error .longNumeral

namespace Value

/-- The text of a key. -/
def jsonKey : Value → Except JsonError Text
  | .null => .ok (UnitText.text "null")
  | .bool b => .ok (jsonBool b)
  | .int n => jsonInt n
  | .float x => .ok (jsonFloat x)
  | .text t => .ok t
  | v => .error (.key v.kindName)

mutual

/-- A value in JSON. -/
def toJson : Value → Except JsonError Text
  | .null => .ok (UnitText.text "null")
  | .bool b => .ok (jsonBool b)
  | .int n => jsonInt n
  | .float x => .ok (jsonFloat x)
  | .text t => .ok (jsonString t)
  | .bytes bs => .ok (jsonString (quotedBytes bs))
  | .path p => .ok (jsonString p)
  | .list items => do
    return UnitText.text "[" ++ separated (UnitText.text ", ") (← toJsonAll items)
      ++ UnitText.text "]"
  | .dict entries => do
    return UnitText.text "\x7b" ++ separated (UnitText.text ", ") (← toJsonEntries entries)
      ++ UnitText.text "\x7d"

/-- The elements of an array. -/
def toJsonAll : List Value → Except JsonError (List Text)
  | [] => .ok []
  | v :: vs => do return (← toJson v) :: (← toJsonAll vs)

/-- The members of an object. -/
def toJsonEntries : List (Value × Value) → Except JsonError (List Text)
  | [] => .ok []
  | (k, v) :: rest => do
    let key ← jsonKey k
    let value ← toJson v
    return (jsonString key ++ UnitText.text ": " ++ value) :: (← toJsonEntries rest)

end

end Value

end UnitText
