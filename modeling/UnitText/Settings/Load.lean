import UnitText.Comparison
import UnitText.Settings.Fields

/-!
# Settings from the environment

An environment gives texts to names. A variable can be read as a text, an integer, a truth value or a
list (`EnvReader`); one that is not set, or whose text cannot be read, gives nothing, and in the
second case there is a notice.
-/

namespace UnitText

/-- The variables that are set. -/
abbrev Environment := List (Text × Text)

/-- What was read, with the notices made on the way. -/
structure Noted (α : Type) where
  value : α
  notices : List Notice

namespace Environment

/-- The text of a variable. -/
def get? (env : Environment) (var : Text) : Option Text := (env.find? (·.1 == var)).map (·.2)

/-- The warning about a variable whose text cannot be read. -/
def unreadable (kind : String) (var value : Text) : Notice :=
  .warning (text "env")
    (text "Invalid " ++ text kind ++ text " value for " ++ var ++ text ": " ++ value)

/-- Reads a variable by `read?`. -/
def readBy {α : Type} (env : Environment) (var : Text) (kind : String)
    (read? : Text → Option α) : Noted (Option α) :=
  match env.get? var with
  | none => ⟨none, []⟩
  | some value =>
    match read? value with
    | some a => ⟨some a, []⟩
    | none => ⟨none, [unreadable kind var value]⟩

/-- The truth value that a text spells. -/
def truth? (t : Text) : Option Bool :=
  if spellsTrue (some t) then some true
  else if spellsFalse (some t) then some false
  else none

/-- A variable as an integer. -/
def getInt (env : Environment) (var : Text) : Noted (Option Int) :=
  env.readBy var "integer" Text.readInteger?

/-- A variable as a truth value. -/
def getBool (env : Environment) (var : Text) : Noted (Option Bool) :=
  env.readBy var "boolean" truth?

/-- The segments of a text that are not empty once trimmed. -/
def entries (segments : List Text) : List Text :=
  (segments.map Text.trim).filter fun t => !t.isEmpty

/-- A variable as a list of trimmed entries. The separators are checked only if the variable is
    set. -/
def getList (env : Environment) (var : Text) (separators : Option (List Value)) :
    Except Rejection (Option (List Text)) :=
  match env.get? var with
  | none => .ok none
  | some value => do return some (entries (← splitAt (some value) separators true))

end Environment

end UnitText

/-!
## From variables to settings

Each setting has a variable (`get_logging_config`). A variable that is blank counts as not set; one
that cannot be read or is refused is left out, with a warning. Only a path below the home directory of
an unknown user is an error. Values are read leniently, and whatever is refused can be reported; a
library that fails to report a level or a layout with a lone surrogate is left out of account here.
-/

namespace UnitText.Settings

/-- Why the environment gives no settings. -/
inductive LoadError where
  | path (error : Path.Error)
  | refused (errors : List FieldError)
deriving DecidableEq, Repr

/-- The variable of a setting. -/
def variableOf (name : String) : Text := text "ORDTEXT_LOG_" ++ text name

/-- The trimmed text of a variable that is not blank. -/
def trimmed? (env : Environment) (name : String) : Option Text :=
  let value := env.get? (variableOf name)
  if isBlank value then none else value.map Text.trim

/-- A setting's name with its value, if there is one. -/
def override {α : Type} (name : String) (toValue : α → Value) : Option α → List (Text × Value)
  | some a => [(text name, toValue a)]
  | none => []

/-- The warning about a setting whose value is refused. -/
def ignoring (overrides : List (Text × Value)) (name : Text) : Notice :=
  let value := ((overrides.find? (·.1 == name)).map (·.2)).getD .null
  .warning (text "loader")
    (text "Ignoring invalid logging setting " ++ name ++ text "=" ++ value.quote)

/-- Settings from overrides of the defaults. Overrides that are refused are left out, each with a
    warning. -/
def ofOverrides (overrides : List (Text × Value)) : Noted (Except LoadError Settings) :=
  match ofFields overrides with
  | .ok s => ⟨.ok s, []⟩
  | .error errors =>
    let refused := errors.map FieldError.field
    let valid := overrides.filter fun o => !refused.contains o.1
    ⟨(ofFields valid).mapError .refused, refused.map (ignoring overrides)⟩

/-- The path in the variable of the file, expanded. -/
def file? (homes : Homes) (env : Environment) : Except Path.Error (Option Path) :=
  match trimmed? env "FILE" with
  | none => .ok none
  | some t => do return some (← (Path.ofText t).expandHome homes)

/-- The settings that the environment gives. -/
def load (homes : Homes) (env : Environment) : Noted (Except LoadError Settings) :=
  match file? homes env with
  | .error e => ⟨.error (.path e), []⟩
  | .ok file =>
    let includeStderr := env.getBool (variableOf "STDERR")
    let maxBytes := env.getInt (variableOf "MAX_BYTES")
    let backupCount := env.getInt (variableOf "BACKUP_COUNT")
    let built := ofOverrides
      (override "level" .text (trimmed? env "LEVEL")
        ++ override "format" .text (trimmed? env "FORMAT")
        ++ override "file" (fun p : Path => .path p.toText) file
        ++ override "include_stderr" .bool includeStderr.value
        ++ override "max_bytes" .int maxBytes.value
        ++ override "backup_count" .int backupCount.value)
    ⟨built.value,
      includeStderr.notices ++ maxBytes.notices ++ backupCount.notices ++ built.notices⟩

end UnitText.Settings
