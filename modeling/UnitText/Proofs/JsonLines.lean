import UnitText.Proofs.JsonValues
import UnitText.Proofs.LoggerSetup

/-!
# JSON lines

A record that can be written as a JSON line is written as one object in printable ASCII, of which
every reader gets the same members. The texts of the record are among them by their code units, and
what is attached to the record is all below one member, so it cannot change the others.

The line is JSON in the strict sense unless a floating-point number in it is not finite: such a number
is written as a word that is no numeral. A record is not written at all if its moment has no four-digit
year, if an attached dictionary has a key that JSON cannot have, or if an integer has too many digits.
-/

namespace UnitText

namespace Json

/-- Whether a text is the JSON text of an object. -/
def IsObject (t : Text) : Prop := ∃ ms, IsText false t (.object ms)

/-- The member of an object with a name, if there is one. -/
def lookup (ms : List (List CodeUnit × Json)) (name : String) : Option Json :=
  (ms.find? (·.1 == (text name).units)).map (·.2)

/-- Members of which some are left out. -/
def given (parts : List (String × Option Json)) : List (List CodeUnit × Json) :=
  parts.filterMap fun p => p.2.map fun v => ((text p.1).units, v)

theorem name_of_mem_given {parts : List (String × Option Json)} {m : List CodeUnit × Json}
    (member : m ∈ given parts) : m.1 ∈ parts.map fun p => (text p.1).units := by
  obtain ⟨p, inParts, found⟩ := List.mem_filterMap.mp member
  obtain ⟨v, _, rfl⟩ := Option.map_eq_some_iff.mp found
  exact List.mem_map.mpr ⟨p, inParts, rfl⟩

theorem given_cons (p : String × Option Json) (parts : List (String × Option Json)) :
    given (p :: parts) = (p.2.map fun v => ((text p.1).units, v)).toList ++ given parts := by
  rw [given, List.filterMap_cons]
  cases p.2 <;> rfl

theorem nodup_given {parts : List (String × Option Json)}
    (distinct : (parts.map fun p => (text p.1).units).Nodup) : ((given parts).map (·.1)).Nodup := by
  induction parts with
  | nil => exact List.nodup_nil
  | cons p parts ih =>
    obtain ⟨other, later⟩ := List.nodup_cons.mp distinct
    rw [given_cons]
    cases p.2 with
    | none => exact ih later
    | some v =>
      refine List.nodup_cons.mpr ⟨fun twice => other ?_, ih later⟩
      obtain ⟨m, member, named⟩ := List.mem_map.mp twice
      exact named ▸ name_of_mem_given member

/-- If no two names are the same, each member is found under its name. -/
theorem lookup_given {parts : List (String × Option Json)}
    (distinct : (parts.map fun p => (text p.1).units).Nodup) {p : String × Option Json}
    (member : p ∈ parts) : lookup (given parts) p.1 = p.2 := by
  induction parts with
  | nil => cases member
  | cons q parts ih =>
    obtain ⟨other, later⟩ := List.nodup_cons.mp distinct
    rw [given_cons, lookup, List.find?_append]
    rcases List.mem_cons.mp member with rfl | inRest
    · cases found : p.2 with
      | some v => simp
      | none =>
        have absent : (given parts).find? (·.1 == (text p.1).units) = none := by
          rw [List.find?_eq_none]
          intro m inGiven named
          have same : m.1 = (text p.1).units := eq_of_beq named
          exact other (show (text p.1).units ∈ _ from same ▸ name_of_mem_given inGiven)
        simp [absent]
    · have apart : (text q.1).units ≠ (text p.1).units := fun same =>
        other (List.mem_map.mpr ⟨p, inRest, same.symm⟩)
      have passed : (q.2.map fun v => ((text q.1).units, v)).toList.find?
          (·.1 == (text p.1).units) = none := by
        cases q.2 <;> simp [apart]
      rw [passed]
      exact ih later inRest

end Json

namespace Record

/-! ## The members of a line -/

/-- The name of the member that holds what is attached to a record. -/
def contextName : String := "context"

/-- The members of a JSON line as data; those that are not there have nothing to hold. -/
def lineParts (r : Record) (time message : Text) : List (String × Option Json) :=
  [("timestamp", some (.string time.units)), ("level", some r.levelName.toData),
   ("logger", some r.name.toData), ("message", some (.string message.units)),
   ("argument", r.argument?.map fun a => .string a.units),
   (contextName, r.contextObject?.map Value.toData),
   ("exception", r.reported.map fun e => .string e.toText.units)]

theorem nodup_lineParts (r : Record) (time message : Text) :
    ((r.lineParts time message).map fun p => (UnitText.text p.1).units).Nodup := by
  have names : (["timestamp", "level", "logger", "message", "argument", contextName,
      "exception"].map fun name => (UnitText.text name).units).Nodup := by decide
  exact names

theorem entriesToData_members (r : Record) (time message : Text) :
    Value.entriesToData (r.members time message) = Json.given (r.lineParts time message) := by
  have key (name : String) :
      (Value.text (UnitText.text name)).keyUnits = (UnitText.text name).units := rfl
  simp only [members, lineParts, Json.given_cons]
  cases r.argument? <;> cases r.contextObject? <;> cases r.reported <;> rfl

/-- A line that is written is the text of the record's members. -/
theorem isText_of_toJsonLine {r : Record} {line : Text} (written : r.toJsonLine = .ok line) :
    ∃ time message, r.moment.isoText = .ok time ∧ r.text = .ok message ∧
      Json.IsText true line (.object (Json.given (r.lineParts time message))) ∧
      (∀ c ∈ line, Json.IsAscii c) := by
  cases timed : r.moment.isoText with
  | error year =>
    rw [toJsonLine_of_isoText_error timed] at written
    cases written
  | ok time =>
    cases filled : r.text with
    | error e =>
      rw [toJsonLine, timed] at written
      simp only [filled] at written
      cases written
    | ok message =>
      rw [toJsonLine_of_isoText_ok timed filled] at written
      cases json : Value.toJson (.dict (r.members time message)) with
      | error e =>
        rw [json] at written
        cases written
      | ok t =>
        rw [json] at written
        obtain rfl := Except.ok.inj written
        refine ⟨time, message, rfl, rfl, ?_, (Value.writes_toJson _ json).ascii⟩
        rw [← entriesToData_members]
        exact Value.isText_toJson json

/-! ## Which lines are JSON -/

/-- Whether all values of a record that a JSON line shows can be written in JSON. -/
def hasJson (r : Record) : Bool :=
  r.levelName.hasJson && r.name.hasJson && r.context.all fun a => a.2.hasJson

/-- Whether all floating-point numbers in the values that a JSON line shows are finite, keys apart. -/
def isFinite (r : Record) : Bool :=
  r.levelName.isFinite && r.name.isFinite && r.context.all fun a => a.2.isFinite

theorem all_contextObject? (r : Record) {check : Value → Bool} {checkEntry : Value × Value → Bool}
    (dict : ∀ entries, check (.dict entries) = entries.all checkEntry)
    (entry : ∀ name v, checkEntry (.text name, v) = check v) :
    r.contextObject?.all check = r.context.all fun a => check a.2 := by
  rw [contextObject?]
  split
  · rename_i empty
    rw [List.isEmpty_iff.mp empty]
    rfl
  · simp only [Option.all_some, dict, List.all_map, Function.comp_def, entry]

/-- A check of the members of a line that says yes to texts is a check of the values of the record. -/
theorem all_members (r : Record) (time message : Text) {check : Value → Bool}
    {checkEntry : Value × Value → Bool} (texts : ∀ t, check (.text t) = true)
    (dict : ∀ entries, check (.dict entries) = entries.all checkEntry)
    (entry : ∀ name v, checkEntry (.text name, v) = check v) :
    (r.members time message).all checkEntry =
      (check r.levelName && check r.name && r.context.all fun a => check a.2) := by
  rw [← r.all_contextObject? dict entry, members]
  simp only [List.all_append, List.all_cons, List.all_nil, entry, texts, Bool.true_and, Bool.and_true]
  cases r.argument? <;> cases r.contextObject? <;> cases r.reported <;>
    simp [member?, entry, texts]

theorem entriesHaveJson_members (r : Record) (time message : Text) :
    Value.entriesHaveJson (r.members time message) = r.hasJson := by
  have each (entries : List (Value × Value)) :
      Value.entriesHaveJson entries = entries.all fun e => e.1.isJsonKey && e.2.hasJson := by
    induction entries with
    | nil => rfl
    | cons e rest ih => rw [Value.entriesHaveJson, ih, List.all_cons]
  rw [each, hasJson]
  exact r.all_members time message (fun _ => rfl) (fun entries => (each entries).symm ▸ rfl)
    fun _ _ => rfl

theorem entriesFinite_members (r : Record) (time message : Text) :
    Value.entriesFinite (r.members time message) = r.isFinite := by
  have each (entries : List (Value × Value)) :
      Value.entriesFinite entries = entries.all fun e => e.2.isFinite := by
    induction entries with
    | nil => rfl
    | cons e rest ih => rw [Value.entriesFinite, ih, List.all_cons]
  rw [each, isFinite]
  exact r.all_members time message (fun _ => rfl) (fun entries => (each entries).symm ▸ rfl)
    fun _ _ => rfl

theorem exists_toJsonLine_iff {r : Record} {message : Text} (filled : r.text = .ok message) :
    (∃ line, r.toJsonLine = .ok line) ↔
      (∃ time, r.moment.isoText = .ok time) ∧ r.hasJson = true := by
  cases timed : r.moment.isoText with
  | error year =>
    rw [toJsonLine_of_isoText_error timed]
    simp
  | ok time =>
    have written := Value.isOk_toJson (.dict (r.members time message))
    rw [Value.hasJson, entriesHaveJson_members] at written
    rw [toJsonLine_of_isoText_ok timed filled, ← written]
    cases Value.toJson (.dict (r.members time message)) <;> simp [Except.mapError, Except.isOk, Except.toBool]

theorem isObject_iff_isFinite {r : Record} {line : Text} (written : r.toJsonLine = .ok line) :
    Json.IsObject line ↔ r.isFinite = true := by
  obtain ⟨time, message, _, _, read, _⟩ := isText_of_toJsonLine written
  have standard : Json.isStandard (.object (Json.given (r.lineParts time message))) = r.isFinite := by
    rw [← entriesToData_members, Json.isStandard, Value.membersStandard_entriesToData,
      entriesFinite_members]
  rw [← standard]
  constructor
  · rintro ⟨ms, strict⟩
    obtain ⟨read', isStandard⟩ := Json.isText_false_iff.mp strict
    exact read.unique read' ▸ isStandard
  · intro isStandard
    exact ⟨_, Json.isText_false_iff.mpr ⟨read, isStandard⟩⟩

/-- A record with a message is written as a JSON line exactly if its moment has a year of four digits,
    every key in what is attached can be one in JSON, and no integer has too many digits. The line is
    a JSON object exactly if no floating-point number in it is not-a-number or an infinity. -/
theorem toJsonLine_isObject (r : Record) {message : Text} (filled : r.text = .ok message) :
    ((∃ line, r.toJsonLine = .ok line) ↔
      (∃ time, r.moment.isoText = .ok time) ∧ r.hasJson = true) ∧
    ∀ line, r.toJsonLine = .ok line → (Json.IsObject line ↔ r.isFinite = true) :=
  ⟨exists_toJsonLine_iff filled, fun _ written => isObject_iff_isFinite written⟩

/-- A warning of the library's core in November 2023, with attached data. -/
def attachedWarning (attributes : List (Text × Value)) : Record where
  name := .text (UnitText.text "ordtext.core")
  levelName := .text (UnitText.text "WARNING")
  message := .text (UnitText.text "value %s")
  arguments := []
  moment := .ofMicroseconds 1700000000000000
  reported := none
  exceptionText := none
  stackText := none
  attributes := attributes

/-- Nested data with a finite number is written as a JSON object. -/
theorem toJsonLine_isObject_nested :
    let r := attachedWarning
      [(UnitText.text "sizes", .list [.dict [(.int 1, .float (.ofRatio true 3 2))], .null])]
    r.text = .ok (UnitText.text "value %s") ∧ ∃ line, r.toJsonLine = .ok line ∧ Json.IsObject line := by
  intro r
  have filled : r.text = .ok (UnitText.text "value %s") := by decide +kernel
  obtain ⟨returns, strict⟩ := r.toJsonLine_isObject filled
  have timed : ∃ time, r.moment.isoText = .ok time :=
    ⟨UnitText.text "2023-11-14T22:13:20+00:00", by decide +kernel⟩
  obtain ⟨line, written⟩ := returns.mpr ⟨timed, by decide +kernel⟩
  exact ⟨filled, line, written, (strict line written).mpr (by decide +kernel)⟩

/-- Not-a-number is written as a word, and then the line is no JSON. -/
theorem toJsonLine_not_isObject_of_nan :
    let r := attachedWarning [(UnitText.text "ratio", .float .nan)]
    r.text = .ok (UnitText.text "value %s") ∧
    ∃ line, r.toJsonLine = .ok line ∧ ¬ Json.IsObject line := by
  intro r
  have filled : r.text = .ok (UnitText.text "value %s") := by decide +kernel
  have timed : ∃ time, r.moment.isoText = .ok time :=
    ⟨UnitText.text "2023-11-14T22:13:20+00:00", by decide +kernel⟩
  obtain ⟨line, written⟩ := (exists_toJsonLine_iff filled).mpr ⟨timed, by decide +kernel⟩
  refine ⟨filled, line, written, ?_⟩
  rw [isObject_iff_isFinite written]
  decide +kernel

/-! ## What readers get -/

theorem attachAll_eq {extras : List (Text × Value)} (other : ∀ e ∈ extras, e.1 ∉ partNames)
    (r : Record) : ∃ attributes, r.attachAll extras = { r with attributes } := by
  induction extras generalizing r with
  | nil => exact ⟨r.attributes, rfl⟩
  | cons e extras ih =>
    obtain ⟨first, later⟩ := List.forall_mem_cons.mp other
    have attached : r.attach e.1 e.2 =
        { r with attributes := putEntry (· == ·) r.attributes e.1 e.2 } := by
      rw [attach, if_neg (by simpa using first)]
    obtain ⟨attributes, rest⟩ := ih later (r.attach e.1 e.2)
    refine ⟨attributes, ?_⟩
    rw [attachAll, List.foldl_cons, ← attachAll, rest, attached]

/-- The members of a line other than the attached data. -/
def apartFromContext (ms : List (List CodeUnit × Json)) : List (List CodeUnit × Json) :=
  ms.filter fun m => m.1 != (UnitText.text contextName).units

/-- Whether a member of a line is not the one for attached data. -/
def isApart (name : String) : Bool := (UnitText.text name).units != (UnitText.text contextName).units

theorem apartFromContext_given (parts : List (String × Option Json)) :
    apartFromContext (Json.given parts) = Json.given (parts.filter fun p => isApart p.1) := by
  rw [apartFromContext, Json.given, Json.given, List.filter_filterMap, List.filterMap_filter]
  congr 1
  funext p
  rw [Option.filter_map]
  cases p.2 with
  | none => simp
  | some v => simp [isApart, Function.comp_def, Option.filter_some, apply_ite]

/-- Attached data that does not replace a part of the record changes no other member. -/
theorem apartFromContext_lineParts (r : Record) (attributes : List (Text × Value))
    (time message : Text) :
    apartFromContext (Json.given ({ r with attributes }.lineParts time message)) =
      apartFromContext (Json.given (r.lineParts time message)) := by
  have context : isApart contextName = false := by decide
  rw [apartFromContext_given, apartFromContext_given, lineParts, lineParts]
  simp only [List.filter_cons, context]
  rfl

/-- A JSON line is printable ASCII, and every reader gets the same object from it, in which no name
    occurs twice. The name of the log, the message, the argument and the text of the exception are
    strings with the code units of the record's own; the last two are there if the record has them.
    Whatever else is attached, under names that are no part's, in place of what is attached to the
    record: the line has the same members apart from the one for attached data. -/
theorem toJsonLine_readable (r : Record) {line : Text} (written : r.toJsonLine = .ok line) :
    (∀ c ∈ line, 0x20 ≤ c.val ∧ c.val ≤ 0x7E) ∧
    ∃ ms, (∀ v, Json.IsText true line v ↔ v = .object ms) ∧ (ms.map (·.1)).Nodup ∧
      (∀ name, r.name = .text name → Json.lookup ms "logger" = some (.string name.units)) ∧
      (∃ message, r.text = .ok message ∧ Json.lookup ms "message" = some (.string message.units)) ∧
      Json.lookup ms "argument" = r.argument?.map (fun a => .string a.units) ∧
      Json.lookup ms "exception" = r.reported.map (fun e => .string e.toText.units) ∧
      ∀ base extras extras', r = attachAll base extras →
        (∀ e ∈ extras, e.1 ∉ partNames) → (∀ e ∈ extras', e.1 ∉ partNames) →
        ∀ line', (base.attachAll extras').toJsonLine = .ok line' →
          ∃ ms', (∀ v, Json.IsText true line' v ↔ v = .object ms') ∧
            apartFromContext ms' = apartFromContext ms := by
  obtain ⟨time, message, timed, filled, read, ascii⟩ := isText_of_toJsonLine written
  have only {line : Text} {ms : List (List CodeUnit × Json)} (read : Json.IsText true line (.object ms))
      (v : Json) : Json.IsText true line v ↔ v = .object ms :=
    ⟨fun other => other.unique read, fun same => same ▸ read⟩
  have distinct := r.nodup_lineParts time message
  refine ⟨ascii, _, only read, Json.nodup_given distinct, ?_, ⟨message, filled, ?_⟩, ?_, ?_, ?_⟩
  · intro name named
    rw [Json.lookup_given distinct (p := ("logger", some r.name.toData)) (by simp [lineParts]), named]
    rfl
  · exact Json.lookup_given distinct (p := ("message", some (.string message.units)))
      (by simp [lineParts])
  · exact Json.lookup_given distinct
      (p := ("argument", r.argument?.map fun a => .string a.units)) (by simp [lineParts])
  · exact Json.lookup_given distinct
      (p := ("exception", r.reported.map fun e => .string e.toText.units)) (by simp [lineParts])
  · intro base extras extras' origin other other' line' written'
    -- Both records are the same one with other attributes.
    obtain ⟨attributes, attached⟩ := attachAll_eq other base
    obtain ⟨attributes', attached'⟩ := attachAll_eq other' base
    rw [attached] at origin
    have replaced : base.attachAll extras' = { r with attributes := attributes' } := by
      rw [attached', origin]
    rw [replaced] at written'
    obtain ⟨time', message', timed', filled', read', _⟩ := isText_of_toJsonLine written'
    obtain rfl : time = time' := Except.ok.inj (timed.symm.trans timed')
    obtain rfl : message = message' := Except.ok.inj (filled.symm.trans filled')
    exact ⟨_, only read', r.apartFromContext_lineParts attributes' time message⟩

/-- A lone surrogate, a line feed and a supplementary code point in the name of an argument are read
    back as their units, and so they are if data is attached under the name of their member. -/
theorem toJsonLine_readable_surrogates :
    let r := { attachedWarning [] with reported := some (.argument ⟨[0xD800, 0x0A, 0x1F600], []⟩) }
    let extras := [(UnitText.text "argument", Value.int 1)]
    ∃ line ms line' ms', r.toJsonLine = .ok line ∧ (r.attachAll extras).toJsonLine = .ok line' ∧
      Json.IsText true line (.object ms) ∧ Json.IsText true line' (.object ms') ∧
      Json.lookup ms "argument" = some (.string [0xD800, 0x0A, 0xD83D, 0xDE00]) ∧
      apartFromContext ms' = apartFromContext ms := by
  intro r extras
  have timed : ∃ time, r.moment.isoText = .ok time :=
    ⟨UnitText.text "2023-11-14T22:13:20+00:00", by decide +kernel⟩
  have filled : r.text = .ok (UnitText.text "value %s") := by decide +kernel
  have other : ∀ e ∈ extras, e.1 ∉ partNames := List.forall_mem_singleton.mpr (by decide +kernel)
  obtain ⟨line, written⟩ := (exists_toJsonLine_iff filled).mpr ⟨timed, by decide +kernel⟩
  have filled' : (r.attachAll extras).text = .ok (UnitText.text "value %s") := by decide +kernel
  have timed' : ∃ time, (r.attachAll extras).moment.isoText = .ok time := timed
  obtain ⟨line', written'⟩ := (exists_toJsonLine_iff filled').mpr ⟨timed', by decide +kernel⟩
  obtain ⟨_, ms, read, _, _, _, argument, _, attached⟩ := r.toJsonLine_readable written
  obtain ⟨ms', read', same⟩ :=
    attached r [] extras rfl (List.forall_mem_nil _) other line' written'
  exact ⟨line, ms, line', ms', written, written', (read _).mpr rfl, (read' _).mpr rfl,
    argument.trans rfl, same⟩

end Record

end UnitText
