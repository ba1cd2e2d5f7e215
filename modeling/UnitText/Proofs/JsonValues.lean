import UnitText.Proofs.JsonWriter

/-!
# Values in JSON

A value that can be written in JSON is read back as its data (`Value.toData`): lists as arrays,
dictionaries as objects, and whatever JSON has no kind for as a string. Only a key of a wrong kind or
an integer with too many digits keeps a value from being written. What is written is JSON unless it
holds not-a-number or an infinity, wherever these are but in a key.
-/

namespace UnitText

/-- Whether a number is neither not-a-number nor an infinity. -/
def Binary64.isFinite : Binary64 → Bool
  | .finite .. => true
  | .nan | .infinite _ => false

namespace Value

/-! ## What can be written -/

/-- Whether a value can be a key in JSON. -/
def isJsonKey : Value → Bool
  | .null | .bool _ | .float _ | .text _ => true
  | .int n => isWritableInt n
  | .bytes _ | .path _ | .list _ | .dict _ => false

mutual

/-- Whether a value can be written in JSON: no integer in it has too many digits, and every key can be
    one in JSON. -/
def hasJson : Value → Bool
  | .int n => isWritableInt n
  | .list items => allHaveJson items
  | .dict entries => entriesHaveJson entries
  | .null | .bool _ | .float _ | .text _ | .bytes _ | .path _ => true

/-- Whether all values of a list can be written in JSON. -/
def allHaveJson : List Value → Bool
  | [] => true
  | v :: vs => hasJson v && allHaveJson vs

/-- Whether all entries of a dictionary can be written in JSON. -/
def entriesHaveJson : List (Value × Value) → Bool
  | [] => true
  | (k, v) :: rest => isJsonKey k && hasJson v && entriesHaveJson rest

end

theorem isOk_jsonInt (n : Int) : (jsonInt n).isOk = isWritableInt n := by
  rw [jsonInt]
  cases isWritableInt n <;> rfl

theorem isOk_jsonKey (k : Value) : k.jsonKey.isOk = k.isJsonKey := by
  cases k with
  | int n => exact isOk_jsonInt n
  | null | bool _ | float _ | text _ | bytes _ | path _ | list _ | dict _ => rfl

mutual

theorem isOk_toJson : ∀ v : Value, v.toJson.isOk = v.hasJson
  | .null | .bool _ | .float _ | .text _ | .bytes _ | .path _ => rfl
  | .int n => isOk_jsonInt n
  | .list items => by
    have each := isOk_toJsonAll items
    rw [toJson, hasJson, ← each]
    cases toJsonAll items <;> rfl
  | .dict entries => by
    have each := isOk_toJsonEntries entries
    rw [toJson, hasJson, ← each]
    cases toJsonEntries entries <;> rfl

theorem isOk_toJsonAll : ∀ vs : List Value, (toJsonAll vs).isOk = allHaveJson vs
  | [] => rfl
  | v :: vs => by
    have first := isOk_toJson v
    have later := isOk_toJsonAll vs
    rw [toJsonAll, allHaveJson, ← first, ← later]
    cases toJson v with
    | error e => rfl
    | ok t => cases toJsonAll vs <;> rfl

theorem isOk_toJsonEntries : ∀ entries : List (Value × Value),
    (toJsonEntries entries).isOk = entriesHaveJson entries
  | [] => rfl
  | (k, v) :: rest => by
    have key := isOk_jsonKey k
    have value := isOk_toJson v
    have later := isOk_toJsonEntries rest
    rw [toJsonEntries, entriesHaveJson, ← key, ← value, ← later]
    cases jsonKey k with
    | error e => rfl
    | ok name =>
      cases toJson v with
      | error e => rfl
      | ok t => cases toJsonEntries rest <;> rfl

end

/-! ## What is read back -/

/-- The units of the name that a key has in JSON. -/
def keyUnits (k : Value) : List CodeUnit := (k.jsonKey.toOption.getD []).units

mutual

/-- A value as JSON data. -/
def toData : Value → Json
  | .null => .null
  | .bool b => .bool b
  | .int n => .number (intText n)
  | .float x => .number (jsonFloat x)
  | .text t => .string t.units
  | .bytes bs => .string (quotedBytes bs).units
  | .path p => .string p.units
  | .list items => .array (allToData items)
  | .dict entries => .object (entriesToData entries)

/-- The data of a list of values. -/
def allToData : List Value → List Json
  | [] => []
  | v :: vs => toData v :: allToData vs

/-- The data of the entries of a dictionary. -/
def entriesToData : List (Value × Value) → List (List CodeUnit × Json)
  | [] => []
  | (k, v) :: rest => (k.keyUnits, toData v) :: entriesToData rest

end

open Json in
theorem writes_jsonInt {n : Int} {t : Text} (written : jsonInt n = .ok t) :
    Writes .value t (.number (intText n)) := by
  by_cases writable : isWritableInt n = true
  · rw [jsonInt, if_pos writable] at written
    obtain rfl := Except.ok.inj written
    exact writes_scalar (.numeral (isNumeral_intText n))
  · rw [jsonInt, if_neg writable] at written
    cases written

open Json in
theorem writes_jsonFloat (x : Binary64) : Writes .value (jsonFloat x) (.number (jsonFloat x)) := by
  cases x with
  | nan => exact writes_scalar (.beyond rfl (by decide))
  | infinite negative => cases negative <;> exact writes_scalar (.beyond rfl (by decide))
  | finite negative significand exponent =>
    exact writes_scalar (.numeral (isNumeral_display_finite negative significand exponent))

mutual

/-- A value is written as the text of its data. -/
theorem writes_toJson : ∀ (v : Value) {t : Text}, v.toJson = .ok t → Json.Writes .value t v.toData
  | .null => fun written => Except.ok.inj written ▸ Json.writes_scalar .null
  | .bool b => fun written => Except.ok.inj written ▸ Json.writes_scalar (.bool b)
  | .int n => fun written => writes_jsonInt written
  | .float x => fun written => Except.ok.inj written ▸ writes_jsonFloat x
  | .text s => fun written => Except.ok.inj written ▸ Json.writes_string s
  | .bytes bs => fun written => Except.ok.inj written ▸ Json.writes_string (quotedBytes bs)
  | .path p => fun written => Except.ok.inj written ▸ Json.writes_string p
  | .list items => fun written => by
    rw [toJson] at written
    obtain ⟨ts, each, joined⟩ := bind_eq_ok_iff.mp written
    obtain rfl := Except.ok.inj joined
    exact Json.writes_array (writes_toJsonAll items each)
  | .dict entries => fun written => by
    rw [toJson] at written
    obtain ⟨ts, each, joined⟩ := bind_eq_ok_iff.mp written
    obtain rfl := Except.ok.inj joined
    exact Json.writes_object (writes_toJsonEntries entries each)

theorem writes_toJsonAll : ∀ (vs : List Value) {ts : List Text}, toJsonAll vs = .ok ts →
    List.Forall₂ (Json.Writes .value) ts (allToData vs)
  | [] => fun written => Except.ok.inj written ▸ .nil
  | v :: vs => fun written => by
    rw [toJsonAll] at written
    obtain ⟨t, first, more⟩ := bind_eq_ok_iff.mp written
    obtain ⟨later, rest, joined⟩ := bind_eq_ok_iff.mp more
    obtain rfl := Except.ok.inj joined
    exact .cons (writes_toJson v first) (writes_toJsonAll vs rest)

theorem writes_toJsonEntries : ∀ (entries : List (Value × Value)) {ts : List Text},
    toJsonEntries entries = .ok ts →
    List.Forall₂ (Json.Writes .member) ts (entriesToData entries)
  | [] => fun written => Except.ok.inj written ▸ .nil
  | (k, v) :: entries => fun written => by
    rw [toJsonEntries] at written
    obtain ⟨name, key, more⟩ := bind_eq_ok_iff.mp written
    obtain ⟨t, value, more⟩ := bind_eq_ok_iff.mp more
    obtain ⟨later, rest, joined⟩ := bind_eq_ok_iff.mp more
    obtain rfl := Except.ok.inj joined
    have units : k.keyUnits = name.units := by rw [keyUnits, key]; rfl
    rw [entriesToData, units]
    exact .cons (Json.writes_member name (writes_toJson v value)) (writes_toJsonEntries entries rest)

end

/-! ## What is JSON -/

mutual

/-- Whether all floating-point numbers in a value are finite, keys apart. -/
def isFinite : Value → Bool
  | .float x => x.isFinite
  | .list items => allFinite items
  | .dict entries => entriesFinite entries
  | .null | .bool _ | .int _ | .text _ | .bytes _ | .path _ => true

/-- Whether all floating-point numbers in a list of values are finite. -/
def allFinite : List Value → Bool
  | [] => true
  | v :: vs => isFinite v && allFinite vs

/-- Whether all floating-point numbers in the values of a dictionary are finite. -/
def entriesFinite : List (Value × Value) → Bool
  | [] => true
  | (_, v) :: rest => isFinite v && entriesFinite rest

end

theorem isStandard_number {numeral : Text} (isNumeral : Json.IsNumeral numeral) :
    (Json.number numeral).isStandard = true := by
  simpa [Json.isStandard] using Json.not_mem_beyondWords_of_isNumeral isNumeral

theorem isStandard_jsonFloat (x : Binary64) :
    (Json.number (jsonFloat x)).isStandard = x.isFinite := by
  cases x with
  | nan => decide
  | infinite negative => cases negative <;> decide
  | finite negative significand exponent =>
    exact isStandard_number (isNumeral_display_finite negative significand exponent)

mutual

/-- The data of a value is JSON without words exactly if its numbers are finite. -/
theorem isStandard_toData : ∀ v : Value, v.toData.isStandard = v.isFinite
  | .null | .bool _ | .text _ | .bytes _ | .path _ => rfl
  | .int n => isStandard_number (Json.isNumeral_intText n)
  | .float x => isStandard_jsonFloat x
  | .list items => allStandard_allToData items
  | .dict entries => membersStandard_entriesToData entries

theorem allStandard_allToData : ∀ vs : List Value,
    Json.allStandard (allToData vs) = allFinite vs
  | [] => rfl
  | v :: vs => by
    rw [allToData, Json.allStandard, allFinite, isStandard_toData v, allStandard_allToData vs]

theorem membersStandard_entriesToData : ∀ entries : List (Value × Value),
    Json.membersStandard (entriesToData entries) = entriesFinite entries
  | [] => rfl
  | (k, v) :: rest => by
    rw [entriesToData, Json.membersStandard, entriesFinite, isStandard_toData v,
      membersStandard_entriesToData rest]

end

/-- What is written for a value is the JSON text of its data, if the words for numbers without a
    numeral are admitted. -/
theorem isText_toJson {v : Value} {t : Text} (written : v.toJson = .ok t) :
    Json.IsText true t v.toData := by
  have ends : Json.EndsLexeme [] := fun c head => by cases head
  have read := (writes_toJson v written).read ends
  rw [List.append_nil] at read
  exact ⟨[], read, rfl⟩

end Value

end UnitText
