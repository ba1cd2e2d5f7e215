import UnitText.Proofs.Overrides
import UnitText.Proofs.Paths

/-!
# Settings as texts

The text of a variable means a value for its setting, or it does not. A text can be rejected when the
variable is read, because it is no value of the kind, and else when the settings are built, because
the setting cannot have the value. What a text means is what reading it as an override gives.
-/

namespace UnitText

section Texts

variable {α : Type} (all : List α) (name : α → String) (bound : Nat) (t : Text)

/-- The thing that a text names, unless the text is blank. -/
def named? : Option α :=
  if isBlank (some t) then none else all.find? fun a => text (name a) == t.trim.foldToAscii

/-- Whether a text is not blank and the name of nothing. -/
def namesNothing : Bool :=
  !isBlank (some t) && all.all fun a => text (name a) != t.trim.foldToAscii

/-- The number that a text spells, if it is not below a bound. -/
def natFrom? : Option Nat := t.readInteger?.bind fun n => if n < bound then none else some n.toNat

/-- Whether a text spells a number below a bound. -/
def spellsBelow : Bool := t.readInteger?.any fun n : Int => decide (n < bound)

/-- The text within a text that is not blank. -/
def nonblank? : Option Text := if isBlank (some t) then none else some t.trim

theorem isNone_truth? :
    (Environment.truth? t).isNone = (!spellsTrue (some t) && !spellsFalse (some t)) := by
  rw [Environment.truth?]
  cases spellsTrue (some t) <;> cases spellsFalse (some t) <;> rfl

theorem toOption_asNamed (setting : String) :
    (Validator.lax.asNamed setting all name (.text t)).toOption =
      all.find? fun a => text (name a) == t.foldToAscii := by
  rw [Validator.asNamed, Validator.lax_asText_text]
  simp only [Except.mapError, bind, Except.bind]
  cases all.find? fun a => text (name a) == t.foldToAscii <;> rfl

theorem bind_nonblank?_asNamed (setting : String) :
    ((nonblank? t).map Value.text).bind (fun a => (Validator.lax.asNamed setting all name a).toOption) =
      named? all name t := by
  rw [nonblank?, named?]
  split
  · rfl
  · exact toOption_asNamed ..

theorem any_nonblank?_asNamed (setting : String) :
    ((nonblank? t).map Value.text).any
        (fun a => (Validator.lax.asNamed setting all name a).toOption.isNone) =
      namesNothing all name t := by
  rw [nonblank?, namesNothing]
  split
  · rename_i blank
    simp [blank]
  · rename_i blank
    rw [Bool.eq_iff_iff]
    simp [blank, toOption_asNamed]

theorem toOption_asNat_int (n : Int) :
    (Validator.lax.asNat bound (.int n)).toOption = if n < bound then none else some n.toNat := by
  rw [Validator.asNat, Validator.lax_asInt_int]
  simp only [Except.mapError, bind, Except.bind]
  split <;> rfl

theorem bind_readInteger?_asNat :
    (t.readInteger?.map Value.int).bind (fun a => (Validator.lax.asNat bound a).toOption) =
      natFrom? bound t := by
  simp only [natFrom?, Option.bind_map, Function.comp_def, toOption_asNat_int]

theorem any_readInteger?_asNat :
    (t.readInteger?.map Value.int).any (fun a => (Validator.lax.asNat bound a).toOption.isNone) =
      spellsBelow bound t := by
  rw [spellsBelow, Option.any_map]
  congr 1
  funext n
  rw [toOption_asNat_int]
  by_cases below : n < bound <;> simp [below]

end Texts

namespace Setting

/-- The variable of a setting. -/
def var : Setting → Text
  | .level => Settings.variableOf "LEVEL"
  | .file => Settings.variableOf "FILE"
  | .layout => Settings.variableOf "FORMAT"
  | .includeStderr => Settings.variableOf "STDERR"
  | .maxBytes => Settings.variableOf "MAX_BYTES"
  | .backupCount => Settings.variableOf "BACKUP_COUNT"

/-- What a text means for a setting, if it means anything. -/
def meaning? (homes : Homes) : (v : Setting) → Text → Option v.type
  | .level, t => named? Level.all Level.name t
  | .layout, t => named? Layout.all Layout.name t
  | .file, t => (nonblank? t).bind fun t => ((Path.ofText t).expandHome homes).toOption.map some
  | .includeStderr, t => Environment.truth? t
  | .maxBytes, t => natFrom? 1 t
  | .backupCount, t => natFrom? 0 t

/-- Whether a text is no value of the kind that the variable of a setting holds. -/
def isUnreadable : Setting → Text → Bool
  | .includeStderr, t => !spellsTrue (some t) && !spellsFalse (some t)
  | .maxBytes, t | .backupCount, t => t.readInteger?.isNone
  | .level, _ | .file, _ | .layout, _ => false

/-- The settings whose variable holds a value of a kind of its own. -/
def readByKind : List Setting := [.includeStderr, .maxBytes, .backupCount]

/-- Whether a text is a value of the right kind that its setting cannot have. -/
def isImproper : Setting → Text → Bool
  | .level, t => namesNothing Level.all Level.name t
  | .layout, t => namesNothing Layout.all Layout.name t
  | .maxBytes, t => spellsBelow 1 t
  | .backupCount, t => spellsBelow 0 t
  | .file, _ | .includeStderr, _ => false

/-- Whether a text is rejected for a setting. -/
def isRejected (v : Setting) (t : Text) : Bool := v.isUnreadable t || v.isImproper t

/-- The value with which the text of its variable overrides a setting, if it does. -/
def value? (homes : Homes) : Setting → Text → Option Value
  | .level, t | .layout, t => (nonblank? t).map .text
  | .file, t =>
    ((nonblank? t).bind fun t => ((Path.ofText t).expandHome homes).toOption).map fun p =>
      .path p.toText
  | .includeStderr, t => (Environment.truth? t).map .bool
  | .maxBytes, t | .backupCount, t => t.readInteger?.map .int

/-- Reading the override that a text gives is what the text means. -/
theorem bind_value?_read (homes : Homes) (v : Setting) (t : Text) :
    ((v.value? homes t).bind fun a => (v.read .lax a).toOption) = v.meaning? homes t := by
  cases v with
  | level => exact bind_nonblank?_asNamed ..
  | layout => exact bind_nonblank?_asNamed ..
  | file =>
    rw [value?, meaning?]
    cases nonblank? t with
    | none => rfl
    | some t =>
      simp only [Option.bind_some]
      cases expanded : (Path.ofText t).expandHome homes with
      | error e => rfl
      | ok p =>
        have normal := Path.isNormal_expandHome (Path.isNormal_ofText t) expanded
        simp only [Except.toOption, Except.mapError, Option.map_some, Option.bind_some, read,
          Validator.asFile, Validator.lax_asPath_path, Path.ofText_toText normal]
  | includeStderr =>
    rw [value?, meaning?]
    cases Environment.truth? t <;> rfl
  | maxBytes => exact bind_readInteger?_asNat ..
  | backupCount => exact bind_readInteger?_asNat ..

/-- The texts that a setting cannot have are those whose override is refused. -/
theorem any_value?_refused (homes : Homes) (v : Setting) (t : Text) :
    (v.value? homes t).any (fun a => (v.read .lax a).toOption.isNone) = v.isImproper t := by
  cases v with
  | level => exact any_nonblank?_asNamed ..
  | layout => exact any_nonblank?_asNamed ..
  | file =>
    rw [value?, isImproper]
    cases (nonblank? t).bind fun t => ((Path.ofText t).expandHome homes).toOption <;> rfl
  | includeStderr =>
    rw [value?, isImproper]
    cases Environment.truth? t <;> rfl
  | maxBytes => exact any_readInteger?_asNat ..
  | backupCount => exact any_readInteger?_asNat ..

theorem mem_readByKind {v : Setting} {t : Text} (unreadable : v.isUnreadable t = true) :
    v ∈ readByKind := by
  cases v with
  | level | file | layout => cases unreadable
  | includeStderr | maxBytes | backupCount => decide

theorem not_isUnreadable_of_isImproper {v : Setting} {t : Text} (improper : v.isImproper t = true) :
    v.isUnreadable t = false := by
  have readable (bound : Nat) (below : spellsBelow bound t = true) :
      t.readInteger?.isNone = false := by
    cases number : t.readInteger? with
    | none =>
      rw [spellsBelow, number] at below
      cases below
    | some n => rfl
  cases v with
  | level | file | layout => rfl
  | includeStderr => cases improper
  | maxBytes => exact readable 1 improper
  | backupCount => exact readable 0 improper

theorem meaning?_of_isRejected (homes : Homes) {v : Setting} {t : Text}
    (rejected : v.isRejected t = true) : v.meaning? homes t = none := by
  rw [← v.bind_value?_read homes]
  rcases Bool.or_eq_true_iff.mp rejected with unreadable | improper
  · have nothing : v.value? homes t = none := by
      cases v with
      | level | file | layout => cases unreadable
      | includeStderr =>
        rw [isUnreadable, ← isNone_truth?, Option.isNone_iff_eq_none] at unreadable
        rw [value?, unreadable, Option.map_none]
      | maxBytes | backupCount =>
        rw [isUnreadable, Option.isNone_iff_eq_none] at unreadable
        rw [value?, unreadable, Option.map_none]
    rw [nothing, Option.bind_none]
  · rw [← v.any_value?_refused homes] at improper
    cases given : v.value? homes t with
    | none => rfl
    | some a =>
      rw [given, Option.any_some, Option.isNone_iff_eq_none] at improper
      exact improper

/-- What a text is called that the variable of a setting should hold. -/
def kind : Setting → String
  | .includeStderr => "boolean"
  | _ => "integer"

/-- The warning about a text that is rejected. It shows the text itself, or the value as which it has
    been read. -/
def complaint (homes : Homes) (v : Setting) (t : Text) : Notice :=
  if v.isUnreadable t then Environment.unreadable v.kind v.var t
  else .warning (text "loader") (text "Ignoring invalid logging setting " ++ text v.field ++ text "="
    ++ ((v.value? homes t).getD .null).quote)

theorem level_complaint (homes : Homes) (v : Setting) (t : Text) :
    (v.complaint homes t).level = .warning := by
  rw [complaint]
  split <;> rfl

end Setting

end UnitText
