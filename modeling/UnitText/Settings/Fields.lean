import UnitText.Settings.Basic

/-!
# Settings from named values

Settings are given by name, as values. `Settings.ofFieldsBy` reads every setting that is given and
leaves the others at their defaults (`LoggingConfig`). It refuses the whole if a value cannot be read or
a name is no setting's, and then reports all that is refused.

Two parts of this are those of a validation library, a `Validator`: how a value of another kind is read
as a text, a path, a truth value or an integer, and the report of what is refused. The names of levels
and layouts (`validate_level`, `validate_format`) and the bounds of the numbers are checked here.
-/

namespace UnitText

/-! ## Folding words to ASCII

Names of settings are compared after full case folding. Which code points fold to ASCII is
Unicode 14.0's: the capitals, the letters that are variants of `s` and `k`, the sharp s, and the
Latin ligatures. A code point whose folding holds anything else is left as it is, since no such text
spells an ASCII name.
-/

/-- The case folding of a code point that folds to ASCII; any other code point is kept. -/
def foldToAscii (c : CodePoint) : Text :=
  if 0x41 ≤ c.val ∧ c.val ≤ 0x5A then [lowerAscii c]
  else if c = 0xDF ∨ c = 0x1E9E then text "ss"
  else if c = 0x17F then text "s"
  else if c = 0x212A then text "k"
  else if c = 0xFB00 then text "ff"
  else if c = 0xFB01 then text "fi"
  else if c = 0xFB02 then text "fl"
  else if c = 0xFB03 then text "ffi"
  else if c = 0xFB04 then text "ffl"
  else if c = 0xFB05 ∨ c = 0xFB06 then text "st"
  else [c]

/-- A text with every code point folded. -/
def Text.foldToAscii (t : Text) : Text := t.flatMap UnitText.foldToAscii

/-! ## Refusals -/

/-- Why a library cannot read a value, in its own words. -/
structure Unread where
  kind : String
  wording : Text
deriving DecidableEq, Repr

/-- Why a value is refused for a setting. -/
inductive Issue where
  | unread (reason : Unread)
  | below (bound : Nat)
  | unknownName (setting : String) (names : List String) (found : Text)
  | unknownSetting
  | frozen
deriving DecidableEq, Repr

namespace Issue

/-- The short name of an issue. -/
def kind : Issue → String
  | .unread reason => reason.kind
  | .below _ => "greater_than_equal"
  | .unknownName .. => "value_error"
  | .unknownSetting => "extra_forbidden"
  | .frozen => "frozen_instance"

/-- A text in which a lone surrogate, which has no form as bytes, shows as three replacement
    characters. -/
def visible (t : Text) : Text :=
  t.flatMap fun c => if isSurrogate c.val then List.replicate 3 0xFFFD else [c]

/-- The wording of an issue. -/
def message : Issue → Text
  | .unread reason => reason.wording
  | .below bound => text "Input should be greater than or equal to " ++ natText bound
  | .unknownName setting names found =>
    text "Value error, " ++ text setting ++ text " must be one of ["
      ++ Value.separated (text ", ") (names.map fun name => quoted (text name))
      ++ text "], got " ++ visible found
  | .unknownSetting => text "Extra inputs are not permitted"
  | .frozen => text "Instance is frozen"

/-- The text of the given value that the wording shows. -/
def found? : Issue → Option Text
  | .unknownName _ _ found => some found
  | _ => none

end Issue

/-- A setting that is refused. -/
structure FieldError where
  field : Text
  issue : Issue
deriving DecidableEq, Repr

/-- The texts from outside that a report of a refused setting shows. -/
def FieldError.shown (e : FieldError) : List Text := e.field :: e.issue.found?.toList

/-! ## The validation library -/

/-- What a validation library does: it reads values, and reports what is refused. -/
structure Validator where
  asText : Value → Except Unread Text
  asPath : Value → Except Unread (Option Path)
  asBool : Value → Except Unread Bool
  asInt : Value → Except Unread Int
  /-- Whether a report can show a text from outside. -/
  canShow : Text → Bool
  /-- The errors in the report about those that were found. -/
  report : List FieldError → List FieldError

namespace Validator

variable (lib : Validator)

/-- A value as one of several named things. The case of the name does not matter. -/
def asNamed {α : Type} (setting : String) (all : List α) (name : α → String) (v : Value) :
    Except Issue α := do
  let t ← (lib.asText v).mapError .unread
  match all.find? (fun a => text (name a) == t.foldToAscii) with
  | some a => .ok a
  | none => .error (.unknownName setting (all.map name) t)

/-- A value as a level. -/
def asLevel : Value → Except Issue Level := lib.asNamed "level" Level.all Level.name

/-- A value as a layout. -/
def asLayout : Value → Except Issue Layout := lib.asNamed "format" Layout.all Layout.name

/-- A value as the file, which may be absent. -/
def asFile (v : Value) : Except Issue (Option Path) := (lib.asPath v).mapError .unread

/-- A value as a choice between yes and no. -/
def asFlag (v : Value) : Except Issue Bool := (lib.asBool v).mapError .unread

/-- A value as a natural number that is not below `bound`. -/
def asNat (bound : Nat) (v : Value) : Except Issue Nat := do
  let n ← (lib.asInt v).mapError .unread
  if n < bound then .error (.below bound) else .ok n.toNat

end Validator

/-! ## Lenient reading

A setting can be given as a value of another kind when its meaning is clear: a number as the text of
its digits, a truth value as a word, a text as its bytes.
-/

namespace Unread

/-- The value is no text. -/
def notText : Unread := ⟨"string_type", text "Input should be a valid string"⟩

/-- The bytes are no text, or the text has a lone surrogate. -/
def notUnicode : Unread :=
  ⟨"string_unicode",
    text "Input should be a valid string, unable to parse raw data as a unicode string"⟩

/-- The value is no path. -/
def notPath : Unread := ⟨"path_type", text "Input is not a valid path for <class 'pathlib.Path'>"⟩

/-- The value is no truth value. -/
def notTruth : Unread := ⟨"bool_type", text "Input should be a valid boolean"⟩

/-- The word stands for no truth value. -/
def unclearTruth : Unread :=
  ⟨"bool_parsing", text "Input should be a valid boolean, unable to interpret input"⟩

/-- The value is no integer. -/
def notInteger : Unread := ⟨"int_type", text "Input should be a valid integer"⟩

/-- The text is no numeral. -/
def unclearInteger : Unread :=
  ⟨"int_parsing", text "Input should be a valid integer, unable to parse string as an integer"⟩

/-- The number has a fraction. -/
def fraction : Unread :=
  ⟨"int_from_float", text "Input should be a valid integer, got a number with a fractional part"⟩

/-- The number is an infinity or not-a-number. -/
def notFinite : Unread := ⟨"finite_number", text "Input should be a finite number"⟩

/-- The numeral is too long. -/
def tooLong : Unread :=
  ⟨"int_parsing_size", text "Unable to parse input string as an integer, exceeded maximum size"⟩

end Unread

/-- The text that bytes encode in UTF-8. -/
def textOfBytes? (bytes : List UInt8) : Option Text :=
  (String.fromUTF8? ⟨bytes.toArray⟩).map text

/-- Whether a text has a lone surrogate. -/
def hasSurrogate (t : Text) : Bool := t.any fun c => isSurrogate c.val

namespace Value

/-- A value as a text. -/
def asText : Value → Except Unread Text
  | .text t => .ok t
  | .bytes bs =>
    match textOfBytes? bs with
    | some t => .ok t
    | none => .error .notUnicode
  | _ => .error .notText

/-- A value as an optional path. -/
def asPath : Value → Except Unread (Option Path)
  | .null => .ok none
  | .path p => .ok (some (Path.ofText p))
  | .text t => .ok (some (Path.ofText t))
  | _ => .error .notPath

/-- The spellings of false. -/
def falseWords : List Text :=
  ["0", "off", "f", "false", "n", "no"].map UnitText.text

/-- The spellings of true. -/
def trueWords : List Text :=
  ["1", "on", "t", "true", "y", "yes"].map UnitText.text

/-- A word as a truth value. -/
def truthOfWord (t : Text) : Except Unread Bool :=
  let word := t.map lowerAscii
  if falseWords.contains word then .ok false
  else if trueWords.contains word then .ok true
  else .error .unclearTruth

/-- Whether an integer has a signed form of 64 bits. -/
def fitsWord (n : Int) : Bool := decide (-0x8000000000000000 ≤ n) && decide (n < 0x8000000000000000)

/-- The integer that a number equals, if it is below `2 ^ 63` in magnitude. -/
def smallInteger? (x : Binary64) : Option Int :=
  match x.toInt? with
  | some n => if n.natAbs < 0x8000000000000000 then some n else none
  | none => none

/-- An integer as a truth value. One that does not fit into a word is no truth value at all. -/
def truthOfInt (n : Int) : Except Unread Bool :=
  if n = 0 then .ok false
  else if n = 1 then .ok true
  else if fitsWord n then .error .unclearTruth
  else .error .notTruth

/-- A value as a truth value. -/
def asBool : Value → Except Unread Bool
  | .bool b => .ok b
  | .text t => if hasSurrogate t then .error .notUnicode else truthOfWord t
  | .bytes bs =>
    match textOfBytes? bs with
    | some t => truthOfWord t
    | none => .error .unclearTruth
  | .int n => truthOfInt n
  | .float x =>
    match smallInteger? x with
    | some n => truthOfInt n
    | none => .error .notTruth
  | _ => .error .notTruth

/-- A numeral as an integer. -/
def integerOfText (t : Text) : Except Unread Int :=
  match t.readLooseInteger with
  | .number n => .ok n
  | .tooLong => .error .tooLong
  | .noNumber => .error .unclearInteger

/-- A value as an integer. -/
def asInt : Value → Except Unread Int
  | .int n => .ok n
  | .bool b => .ok (if b then 1 else 0)
  | .text t => if hasSurrogate t then .error .notUnicode else integerOfText t
  | .bytes bs =>
    match textOfBytes? bs with
    | some t => integerOfText t
    | none => .error .unclearInteger
  | .float (.finite s m e) =>
    match Binary64.toInt? (.finite s m e) with
    | none => .error .fraction
    | some n => if n.natAbs < 0x8000000000000000 then .ok n else .error .tooLong
  | .float _ => .error .notFinite
  | _ => .error .notInteger

end Value

/-- The library in its lenient mode, which reports all that is refused by the order of the names. -/
def Validator.lax : Validator where
  asText := Value.asText
  asPath := Value.asPath
  asBool := Value.asBool
  asInt := Value.asInt
  canShow := fun _ => true
  report := sortByName FieldError.field

namespace Validator

@[simp] theorem lax_asText_text (t : Text) : lax.asText (.text t) = .ok t := rfl

@[simp] theorem lax_asInt_int (n : Int) : lax.asInt (.int n) = .ok n := rfl

@[simp] theorem lax_asPath_path (t : Text) : lax.asPath (.path t) = .ok (some (Path.ofText t)) := rfl

end Validator

/-! ## Building settings -/

namespace Settings

/-- The names of the settings. -/
def fieldNames : List Text :=
  ["level", "file", "format", "include_stderr", "max_bytes", "backup_count"].map text

/-- Reads the setting with a name, if it is given. -/
def readField {α : Type} (fields : List (Text × Value)) (name : String) (default : α)
    (read : Value → Except Issue α) : Except Issue α :=
  match fields.find? (·.1 == text name) with
  | some field => read field.2
  | none => .ok default

/-- The refusal of a setting that could not be read. -/
def refusal? {α : Type} (name : String) : Except Issue α → List FieldError
  | .ok _ => []
  | .error issue => [⟨text name, issue⟩]

/-- The refusals of names that no setting has. -/
def unknownFields (fields : List (Text × Value)) : List FieldError :=
  (fields.filter fun field => !fieldNames.contains field.1).map fun field =>
    ⟨field.1, .unknownSetting⟩

/-- Settings from named values, read by a library. -/
def ofFieldsBy (lib : Validator) (fields : List (Text × Value)) : Except (List FieldError) Settings :=
  let d : Settings := {}
  let level := readField fields "level" d.level lib.asLevel
  let file := readField fields "file" d.file lib.asFile
  let layout := readField fields "format" d.layout lib.asLayout
  let includeStderr := readField fields "include_stderr" d.includeStderr lib.asFlag
  let maxBytes := readField fields "max_bytes" d.maxBytes (lib.asNat 1)
  let backupCount := readField fields "backup_count" d.backupCount (lib.asNat 0)
  match unknownFields fields, level, file, layout, includeStderr, maxBytes, backupCount with
  | [], .ok level, .ok file, .ok layout, .ok includeStderr, .ok maxBytes, .ok backupCount =>
    .ok { level, file, layout, includeStderr, maxBytes, backupCount }
  | unknown, level, file, layout, includeStderr, maxBytes, backupCount =>
    .error (lib.report
      (unknown ++ refusal? "level" level ++ refusal? "file" file ++ refusal? "format" layout
        ++ refusal? "include_stderr" includeStderr ++ refusal? "max_bytes" maxBytes
        ++ refusal? "backup_count" backupCount))

/-- Settings from named values, read leniently. -/
def ofFields (fields : List (Text × Value)) : Except (List FieldError) Settings :=
  ofFieldsBy .lax fields

/-- Replacing a setting is refused, whatever its name and value. -/
def replaceField (_ : Settings) (name : Text) (_ : Value) : Except (List FieldError) Settings :=
  .error [⟨name, .frozen⟩]

/-- The named values of settings. -/
def toFields (s : Settings) : List (Text × Value) :=
  [(text "level", .text (text s.level.name)),
   (text "file", (s.file.map fun p => Value.path p.toText).getD .null),
   (text "format", .text (text s.layout.name)),
   (text "include_stderr", .bool s.includeStderr),
   (text "max_bytes", .int s.maxBytes),
   (text "backup_count", .int s.backupCount)]

end Settings

end UnitText
