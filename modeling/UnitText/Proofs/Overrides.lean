import UnitText.Proofs.NameOrder
import UnitText.Settings.Load

/-!
# Settings one by one

Settings that are given by name are read one by one, by whatever library: reading them together
refuses exactly what reading them alone refuses, and what is refused can be left out without a change
to the others. So overrides, which are read leniently, always give settings, in which each setting is
what its override says, or the default.
-/

namespace UnitText

/-- The settings. -/
inductive Setting where
  | level
  | file
  | layout
  | includeStderr
  | maxBytes
  | backupCount
deriving DecidableEq, Repr

namespace Setting

/-- All settings. -/
def all : List Setting := [.level, .file, .layout, .includeStderr, .maxBytes, .backupCount]

/-- All settings, by the order of their names. -/
def byName : List Setting := [.backupCount, .file, .layout, .includeStderr, .level, .maxBytes]

/-- The name under which a setting is given. -/
def field : Setting → String
  | .level => "level"
  | .file => "file"
  | .layout => "format"
  | .includeStderr => "include_stderr"
  | .maxBytes => "max_bytes"
  | .backupCount => "backup_count"

/-- What a setting is. -/
abbrev type : Setting → Type
  | .level => Level
  | .file => Option Path
  | .layout => Layout
  | .includeStderr => Bool
  | .maxBytes | .backupCount => Nat

/-- Reads a value for a setting by a library. -/
def read (lib : Validator) : (v : Setting) → Value → Except Issue v.type
  | .level => lib.asLevel
  | .file => lib.asFile
  | .layout => lib.asLayout
  | .includeStderr => lib.asFlag
  | .maxBytes => lib.asNat 1
  | .backupCount => lib.asNat 0

theorem mem_all (v : Setting) : v ∈ all := by cases v <;> decide

theorem text_field_inj {v v' : Setting} : text v.field = text v'.field ↔ v = v' := by
  cases v <;> cases v' <;> decide

theorem mem_fieldNames (v : Setting) : text v.field ∈ Settings.fieldNames := by
  cases v <;> decide

theorem pairwise_byName :
    byName.Pairwise fun v v' => textLE (text v.field) (text v'.field) = true := by decide

end Setting

namespace Settings

/-- One of the settings. -/
def get (s : Settings) : (v : Setting) → v.type
  | .level => s.level
  | .file => s.file
  | .layout => s.layout
  | .includeStderr => s.includeStderr
  | .maxBytes => s.maxBytes
  | .backupCount => s.backupCount

/-- Settings that are given one by one. -/
def ofEach (each : (v : Setting) → v.type) : Settings where
  level := each .level
  file := each .file
  layout := each .layout
  includeStderr := each .includeStderr
  maxBytes := each .maxBytes
  backupCount := each .backupCount

@[simp] theorem get_ofEach (each : (v : Setting) → v.type) (v : Setting) :
    (ofEach each).get v = each v := by cases v <;> rfl

/-- The default of a setting. -/
def default (v : Setting) : v.type := ({} : Settings).get v

section Fields

variable (lib : Validator) (fields : List (Text × Value))

/-- Reads one setting among named values. -/
def readIn (v : Setting) : Except Issue v.type := readField fields v.field (default v) (v.read lib)

/-- Each setting as it is read on its own, or the default if it is refused. -/
def readable : Settings := ofEach fun v => (readIn lib fields v).toOption.getD (default v)

/-- All refusals, in no particular order. -/
def refusals : List FieldError :=
  unknownFields fields ++ Setting.all.flatMap fun v => refusal? v.field (readIn lib fields v)

theorem refusals_eq_nil_iff : refusals lib fields = [] ↔
    unknownFields fields = [] ∧ ∀ v, ∃ a, readIn lib fields v = .ok a := by
  rw [refusals, List.append_eq_nil_iff, List.flatMap_eq_nil_iff]
  refine and_congr_right fun _ => ⟨fun none v => ?_, fun all v _ => ?_⟩
  · have empty := none v v.mem_all
    cases read : readIn lib fields v with
    | ok a => exact ⟨a, rfl⟩
    | error issue =>
      rw [read] at empty
      cases empty
  · obtain ⟨a, read⟩ := all v
    rw [read]
    rfl

theorem refusals_eq_append : refusals lib fields =
    unknownFields fields ++ refusal? "level" (readIn lib fields .level)
      ++ refusal? "file" (readIn lib fields .file) ++ refusal? "format" (readIn lib fields .layout)
      ++ refusal? "include_stderr" (readIn lib fields .includeStderr)
      ++ refusal? "max_bytes" (readIn lib fields .maxBytes)
      ++ refusal? "backup_count" (readIn lib fields .backupCount) := by
  simp only [refusals, Setting.all, List.flatMap_cons, List.flatMap_nil, List.append_nil,
    List.append_assoc, Setting.field]

/-- Reading all settings together gives each as it is read alone, or else all the refusals. -/
theorem ofFieldsBy_eq_ite : ofFieldsBy lib fields =
    if refusals lib fields = [] then .ok (readable lib fields)
    else .error (lib.report (refusals lib fields)) := by
  have refused := refusals_eq_nil_iff lib fields
  unfold ofFieldsBy
  simp only
  split
  · rename_i unknown readLevel readFile readLayout readStderr readMaxBytes readBackupCount
    rw [if_pos]
    · have gathered (v : Setting) {a : v.type} (read : readIn lib fields v = .ok a) :
          (readIn lib fields v).toOption.getD (default v) = a := by rw [read]; rfl
      rw [readable, ofEach, gathered .level readLevel, gathered .file readFile,
        gathered .layout readLayout, gathered .includeStderr readStderr,
        gathered .maxBytes readMaxBytes, gathered .backupCount readBackupCount]
    · refine refused.mpr ⟨unknown, fun v => ?_⟩
      cases v
      · exact ⟨_, readLevel⟩
      · exact ⟨_, readFile⟩
      · exact ⟨_, readLayout⟩
      · exact ⟨_, readStderr⟩
      · exact ⟨_, readMaxBytes⟩
      · exact ⟨_, readBackupCount⟩
  · rename_i other
    rw [if_neg, refusals_eq_append]
    · rfl
    · intro none
      obtain ⟨unknown, all⟩ := refused.mp none
      obtain ⟨level, readLevel⟩ := all .level
      obtain ⟨file, readFile⟩ := all .file
      obtain ⟨layout, readLayout⟩ := all .layout
      obtain ⟨includeStderr, readStderr⟩ := all .includeStderr
      obtain ⟨maxBytes, readMaxBytes⟩ := all .maxBytes
      obtain ⟨backupCount, readBackupCount⟩ := all .backupCount
      exact other level file layout includeStderr maxBytes backupCount unknown readLevel readFile
        readLayout readStderr readMaxBytes readBackupCount

/-! ## Leaving out what is refused -/

/-- The names that are refused. -/
def refused : List Text := (refusals lib fields).map FieldError.field

/-- The named values without those that are refused. -/
def accepted : List (Text × Value) := fields.filter fun field => !(refused lib fields).contains field.1

/-- A setting is refused together with others exactly if it is refused alone. -/
theorem field_mem_refused_iff {v : Setting} :
    text v.field ∈ refused lib fields ↔ ∃ issue, readIn lib fields v = .error issue := by
  simp only [refused, refusals, List.mem_map, List.mem_append, List.mem_flatMap]
  constructor
  · rintro ⟨e, unknown | ⟨w, _, member⟩, named⟩
    · obtain ⟨field, kept, rfl⟩ := List.mem_map.mp unknown
      have stranger := (List.mem_filter.mp kept).2
      rw [show field.1 = text v.field from named] at stranger
      simp [v.mem_fieldNames] at stranger
    · cases read : readIn lib fields w with
      | ok a =>
        rw [read] at member
        cases member
      | error issue =>
        rw [read] at member
        obtain rfl := List.mem_singleton.mp member
        obtain rfl := Setting.text_field_inj.mp named
        exact ⟨issue, read⟩
  · rintro ⟨issue, read⟩
    refine ⟨⟨text v.field, issue⟩, .inr ⟨v, v.mem_all, ?_⟩, rfl⟩
    rw [read]
    exact List.mem_singleton_self _

theorem unknown_mem_refused {field : Text × Value} (member : field ∈ fields)
    (unknown : field.1 ∉ fieldNames) : field.1 ∈ refused lib fields := by
  refine List.mem_map.mpr ⟨⟨field.1, .unknownSetting⟩, List.mem_append_left _ ?_, rfl⟩
  exact List.mem_map.mpr ⟨field, List.mem_filter.mpr ⟨member, by simpa using unknown⟩, rfl⟩

/-- What is left is read as before, and what was refused is at its default. -/
theorem readIn_accepted (v : Setting) :
    readIn lib (accepted lib fields) v = .ok ((readIn lib fields v).toOption.getD (default v)) := by
  have found : (accepted lib fields).find? (·.1 == text v.field) =
      if text v.field ∈ refused lib fields then none else fields.find? (·.1 == text v.field) := by
    rw [accepted, List.find?_filter]
    by_cases member : text v.field ∈ refused lib fields
    · rw [if_pos member, List.find?_eq_none]
      rintro field _ both
      have ⟨kept, named⟩ := of_decide_eq_true both
      rw [show field.1 = text v.field by simpa using named] at kept
      simp [member] at kept
    · rw [if_neg member]
      congr 1
      funext field
      by_cases named : field.1 = text v.field
      · simp [named, member]
      · simp [named]
  -- What is refused is not found any more, and what is not refused is found as before.
  cases read : readIn lib fields v with
  | error issue =>
    rw [readIn, readField, found, if_pos ((field_mem_refused_iff lib fields).mpr ⟨issue, read⟩)]
    rfl
  | ok a =>
    have kept : text v.field ∉ refused lib fields := by
      rw [field_mem_refused_iff, read]
      rintro ⟨issue, failed⟩
      cases failed
    rw [readIn, readField, found, if_neg kept]
    exact read

theorem unknownFields_accepted : unknownFields (accepted lib fields) = [] := by
  rw [unknownFields, List.map_eq_nil_iff, List.filter_eq_nil_iff]
  intro field member
  obtain ⟨given, kept⟩ := List.mem_filter.mp member
  have known : field.1 ∈ fieldNames := by
    by_contra unknown
    simp [unknown_mem_refused lib fields given unknown] at kept
  simp [known]

theorem refusals_accepted : refusals lib (accepted lib fields) = [] :=
  (refusals_eq_nil_iff lib _).mpr
    ⟨unknownFields_accepted lib fields, fun v => ⟨_, readIn_accepted lib fields v⟩⟩

theorem readable_accepted : readable lib (accepted lib fields) = readable lib fields := by
  simp only [readable, readIn_accepted]
  rfl

/-! ## Lenient reading -/

theorem ofFields_eq_ite : ofFields fields =
    if refusals .lax fields = [] then .ok (readable .lax fields)
    else .error (sortByName FieldError.field (refusals .lax fields)) := ofFieldsBy_eq_ite .lax fields

/-- Without the names that are refused, the other values are read, each as it is read alone. -/
theorem ofFields_valid {errors : List FieldError} (failed : ofFields fields = .error errors) :
    ofFields (fields.filter fun field => !(errors.map FieldError.field).contains field.1) =
      .ok (readable .lax fields) := by
  rw [ofFields_eq_ite] at failed
  split at failed
  · cases failed
  · obtain rfl := Except.error.inj failed
    have valid : fields.filter (fun field =>
        !((sortByName FieldError.field (refusals .lax fields)).map FieldError.field).contains field.1)
        = accepted .lax fields := by
      refine List.filter_congr fun field _ => ?_
      rw [Bool.eq_iff_iff]
      simp [refused, (perm_sortByName FieldError.field (refusals .lax fields)).mem_iff]
    rw [valid, ofFields_eq_ite, if_pos (refusals_accepted .lax fields), readable_accepted]

/-- Overrides always give settings: each is what its override says, or else the default. -/
theorem ofOverrides_value : (ofOverrides fields).value = .ok (readable .lax fields) := by
  rw [ofOverrides]
  cases read : ofFields fields with
  | ok s =>
    rw [ofFields_eq_ite] at read
    split at read
    · obtain rfl := Except.ok.inj read
      rfl
    · cases read
  | error errors =>
    simp only [ofFields_valid fields read]
    rfl

theorem ofOverrides_notices : (ofOverrides fields).notices =
    ((sortByName FieldError.field (refusals .lax fields)).map FieldError.field).map
      (ignoring fields) := by
  rw [ofOverrides, ofFields_eq_ite]
  by_cases none : refusals .lax fields = []
  · rw [if_pos none, none]
    rfl
  · rw [if_neg none]

/-- Whether a setting is refused. -/
def refuses (v : Setting) : Bool := (readIn lib fields v).toOption.isNone

/-- If every name is the name of a setting, the settings that are refused are reported by name. -/
theorem map_field_sortByName_refusals (known : unknownFields fields = []) :
    (sortByName FieldError.field (refusals lib fields)).map FieldError.field =
      (Setting.byName.filter (refuses lib fields)).map fun v => text v.field := by
  have reported (settings : List Setting) :
      (settings.flatMap fun v => refusal? v.field (readIn lib fields v)).map FieldError.field =
        (settings.filter (refuses lib fields)).map fun v => text v.field := by
    induction settings with
    | nil => rfl
    | cons v rest ih =>
      rw [List.flatMap_cons, List.map_append, ih, List.filter_cons, refuses]
      cases readIn lib fields v <;> rfl
  have everySetting : Setting.all.Perm Setting.byName := by decide
  refine map_sortByName_eq _ ?_ ?_
  · rw [refusals, known, List.nil_append, reported]
    exact (everySetting.filter _).map _
  · exact List.pairwise_map.mpr (Setting.pairwise_byName.filter _)

end Fields

end Settings

end UnitText
