import UnitText.Proofs.SettingTexts

/-!
# Loading variable by variable

Each variable decides its own setting, and the others have no part in this. A text that is rejected
leaves the default and costs one warning: the variables that cannot be read are reported first, and
then the settings that are refused, by name.

Only the variable of the file can keep the settings from being loaded: the home directory of a user
that it names may be unknown.
-/

namespace UnitText

/-! ## What an environment says -/

namespace Environment

section Variables

variable (homes : Homes) (env : Environment)

/-- The value of a setting that its variable means, or else the default. -/
def setting (v : Setting) : v.type :=
  ((env.get? v.var).bind (v.meaning? homes)).getD (Settings.default v)

/-- Whether the variable of a setting is set to a text that a check holds of. -/
def isSetTo (check : Setting → Text → Bool) (v : Setting) : Bool := (env.get? v.var).any (check v)

/-- The warnings about the settings in a list of which a check holds. -/
def complaints (check : Setting → Text → Bool) (settings : List Setting) : List Notice :=
  settings.filterMap fun v => ((env.get? v.var).filter (check v)).map (v.complaint homes)

/-- Whether the variable of the file holds a path that begins with the name of a user of whom no home
    directory is known. -/
def NamesUnknownUser : Prop :=
  ∃ t, (env.get? Setting.file.var).bind nonblank? = some t ∧
    (Path.ofText t).NamesUnknownUser homes

theorem mem_complaints {check : Setting → Text → Bool} {settings : List Setting} {n : Notice} :
    n ∈ env.complaints homes check settings ↔
      ∃ v ∈ settings, ∃ t, env.get? v.var = some t ∧ check v t = true ∧ v.complaint homes t = n := by
  simp [complaints, List.mem_filterMap, Option.map_eq_some_iff, Option.filter_eq_some_iff, and_assoc]

theorem level_of_mem_complaints {check : Setting → Text → Bool} {settings : List Setting}
    {n : Notice} (member : n ∈ env.complaints homes check settings) : n.level = .warning := by
  obtain ⟨v, _, t, _, _, rfl⟩ := (mem_complaints homes env).mp member
  exact v.level_complaint homes t

theorem complaints_cons (check : Setting → Text → Bool) (v : Setting) (rest : List Setting) :
    env.complaints homes check (v :: rest) =
      (((env.get? v.var).filter (check v)).map (v.complaint homes)).toList ++
        env.complaints homes check rest := by
  rw [complaints, List.filterMap_cons, ← complaints]
  cases ((env.get? v.var).filter (check v)).map (v.complaint homes) <;> rfl

theorem length_complaints (check : Setting → Text → Bool) (settings : List Setting) :
    (env.complaints homes check settings).length = settings.countP (env.isSetTo check) := by
  rw [complaints, List.length_filterMap_eq_countP]
  congr 1
  funext v
  rw [isSetTo, Option.isSome_map]
  cases env.get? v.var with
  | none => rfl
  | some t => cases holds : check v t <;> simp [holds]

theorem countP_readByKind : Setting.readByKind.countP (env.isSetTo Setting.isUnreadable) =
    Setting.all.countP (env.isSetTo Setting.isUnreadable) := by
  have readAnyText (v : Setting) (other : v ∉ Setting.readByKind) :
      env.isSetTo Setting.isUnreadable v = false := by
    rw [isSetTo, Option.any_eq_false]
    intro t _
    exact Bool.eq_false_iff.mpr fun unreadable => other (Setting.mem_readByKind unreadable)
  simp [Setting.readByKind, Setting.all, List.countP_cons, readAnyText .level (by decide),
    readAnyText .file (by decide), readAnyText .layout (by decide)]

/-- A variable is rejected once: when it is read, or when the settings are built. -/
theorem countP_isRejected (settings : List Setting) :
    settings.countP (env.isSetTo Setting.isRejected) =
      settings.countP (env.isSetTo Setting.isUnreadable) +
        settings.countP (env.isSetTo Setting.isImproper) := by
  induction settings with
  | nil => rfl
  | cons v rest ih =>
    rw [List.countP_cons, List.countP_cons, List.countP_cons, ih, isSetTo, isSetTo, isSetTo]
    cases env.get? v.var with
    | none => rfl
    | some t =>
      rw [Option.any_some, Option.any_some, Option.any_some, Setting.isRejected]
      cases improper : v.isImproper t with
      | false =>
        cases v.isUnreadable t with
        | false => rfl
        | true => exact Nat.add_right_comm ..
      | true =>
        rw [Setting.not_isUnreadable_of_isImproper improper]
        rfl

/-- The value with which an environment overrides a setting, if it does. -/
def override? (v : Setting) : Option Value := (env.get? v.var).bind (v.value? homes)

/-- The overrides of an environment. -/
def overrides : List (Text × Value) :=
  [Setting.level, .layout, .file, .includeStderr, .maxBytes, .backupCount].flatMap fun v =>
    ((env.override? homes v).map fun a => (text v.field, a)).toList

theorem find?_overrides (v : Setting) :
    (env.overrides homes).find? (·.1 == text v.field) =
      (env.override? homes v).map fun a => (text v.field, a) := by
  -- An override stands under its own setting's name only, so the order does not matter.
  have searched (settings : List Setting) :
      (settings.flatMap fun w =>
        ((env.override? homes w).map fun a => (text w.field, a)).toList).find?
          (·.1 == text v.field) =
      if v ∈ settings then (env.override? homes v).map fun a => (text v.field, a) else none := by
    induction settings with
    | nil => rfl
    | cons w rest ih =>
      rw [List.flatMap_cons, List.find?_append, ih]
      by_cases same : v = w
      · subst same
        cases env.override? homes v <;> simp
      · have other : text w.field ≠ text v.field := fun h => same (Setting.text_field_inj.mp h).symm
        cases env.override? homes w <;> simp [same, other]
  rw [overrides, searched, if_pos (by cases v <;> decide)]

theorem unknownFields_overrides : Settings.unknownFields (env.overrides homes) = [] := by
  rw [Settings.unknownFields, List.map_eq_nil_iff, List.filter_eq_nil_iff]
  intro field member
  obtain ⟨v, _, given⟩ := List.mem_flatMap.mp member
  obtain ⟨a, _, rfl⟩ := Option.map_eq_some_iff.mp (Option.mem_toList.mp given)
  simp [v.mem_fieldNames]

theorem readIn_overrides (v : Setting) :
    Settings.readIn .lax (env.overrides homes) v =
      match env.override? homes v with
      | some a => v.read .lax a
      | none => .ok (Settings.default v) := by
  rw [Settings.readIn, Settings.readField, find?_overrides]
  cases env.override? homes v <;> rfl

theorem readable_overrides :
    Settings.readable .lax (env.overrides homes) = Settings.ofEach (env.setting homes) := by
  rw [Settings.readable]
  congr 1
  funext v
  rw [readIn_overrides, setting, override?]
  cases env.get? v.var with
  | none => rfl
  | some t =>
    rw [Option.bind_some, Option.bind_some, ← v.bind_value?_read homes]
    cases v.value? homes t <;> rfl

theorem refuses_overrides (v : Setting) :
    Settings.refuses .lax (env.overrides homes) v = env.isSetTo Setting.isImproper v := by
  rw [Settings.refuses, readIn_overrides, isSetTo, override?]
  cases env.get? v.var with
  | none => rfl
  | some t =>
    rw [Option.bind_some, Option.any_some, ← v.any_value?_refused homes]
    cases v.value? homes t <;> rfl

theorem ignoring_overrides {v : Setting} {t : Text} (given : env.get? v.var = some t)
    (improper : v.isImproper t = true) :
    Settings.ignoring (env.overrides homes) (text v.field) = v.complaint homes t := by
  rw [Settings.ignoring, find?_overrides, override?, given, Setting.complaint,
    Setting.not_isUnreadable_of_isImproper improper]
  cases h : v.value? homes t <;> simp [h]

theorem notices_ofOverrides :
    (Settings.ofOverrides (env.overrides homes)).notices =
      env.complaints homes Setting.isImproper Setting.byName := by
  -- Each name that is reported stands for a variable that is set to an improper text.
  have warned (settings : List Setting) :
      ((settings.filter (Settings.refuses .lax (env.overrides homes))).map fun v => text v.field).map
        (Settings.ignoring (env.overrides homes)) =
      env.complaints homes Setting.isImproper settings := by
    induction settings with
    | nil => rfl
    | cons v rest ih =>
      rw [complaints_cons, ← ih, List.filter_cons, refuses_overrides, isSetTo]
      cases given : env.get? v.var with
      | none => rfl
      | some t =>
        rw [Option.any_some, Option.filter_some]
        by_cases improper : v.isImproper t = true
        · rw [if_pos improper, if_pos improper, List.map_cons, List.map_cons,
            ignoring_overrides homes env given improper]
          rfl
        · rw [if_neg improper, if_neg improper]
          rfl
  rw [Settings.ofOverrides_notices,
    Settings.map_field_sortByName_refusals .lax _ (unknownFields_overrides homes env), warned]

end Variables

theorem readBy_value {α : Type} (env : Environment) (var : Text) (kind : String)
    (read? : Text → Option α) : (env.readBy var kind read?).value = (env.get? var).bind read? := by
  rw [readBy]
  cases env.get? var with
  | none => rfl
  | some t => cases found : read? t <;> simp [found]

theorem readBy_notices {α : Type} (env : Environment) (var : Text) (kind : String)
    (read? : Text → Option α) : (env.readBy var kind read?).notices =
      (((env.get? var).filter fun t => (read? t).isNone).map (unreadable kind var)).toList := by
  rw [readBy]
  cases env.get? var with
  | none => rfl
  | some t => cases found : read? t <;> simp [found, Option.filter_some]

end Environment

namespace Settings

section Loading

variable (homes : Homes) (env : Environment)

theorem trimmed?_eq_bind (name : String) :
    trimmed? env name = (env.get? (variableOf name)).bind nonblank? := by
  rw [trimmed?]
  cases env.get? (variableOf name) <;> rfl

theorem override_eq_toList {α : Type} (name : String) (toValue : α → Value) (a : Option α) :
    override name toValue a = ((a.map toValue).map fun a => (text name, a)).toList := by
  cases a <;> rfl

theorem file?_eq_match : file? homes env =
    match (env.get? Setting.file.var).bind nonblank? with
    | none => .ok none
    | some t => ((Path.ofText t).expandHome homes).map some := by
  rw [file?, trimmed?_eq_bind, Setting.var]
  cases (env.get? (variableOf "FILE")).bind nonblank? with
  | none => rfl
  | some t => simp only [bind, Except.bind, pure, Except.pure, Except.map]

theorem file?_eq_error_iff :
    (∃ e, file? homes env = .error e) ↔ env.NamesUnknownUser homes := by
  rw [file?_eq_match, Environment.NamesUnknownUser]
  cases (env.get? Setting.file.var).bind nonblank? with
  | none => simp
  | some t =>
    simp only [Option.some.injEq, exists_eq_left', ← Path.expandHome_eq_error_iff]
    cases (Path.ofText t).expandHome homes <;> simp [Except.map]

theorem override?_file {file : Option Path} (found : file? homes env = .ok file) :
    file.map (fun p => .path p.toText) = env.override? homes .file := by
  have given : env.override? homes .file = ((env.get? Setting.file.var).bind nonblank?).bind
      fun t => ((Path.ofText t).expandHome homes).toOption.map fun p => .path p.toText := by
    rw [Option.bind_assoc, Environment.override?]
    congr 1
    funext t
    rw [Setting.value?, Option.map_bind]
    rfl
  rw [file?_eq_match] at found
  rw [given]
  cases text : (env.get? Setting.file.var).bind nonblank? with
  | none =>
    rw [text] at found
    obtain rfl := Except.ok.inj found
    rfl
  | some t =>
    simp only [text] at found
    rw [Option.bind_some]
    cases expanded : (Path.ofText t).expandHome homes with
    | error e =>
      rw [expanded] at found
      cases found
    | ok p =>
      rw [expanded] at found
      obtain rfl := Except.ok.inj found
      rfl

/-- The overrides of an environment are the ones that loading gathers. -/
theorem overrides_eq_append {file : Option Path} (found : file? homes env = .ok file) :
    env.overrides homes =
      override "level" .text (trimmed? env "LEVEL")
        ++ override "format" .text (trimmed? env "FORMAT")
        ++ override "file" (fun p : Path => .path p.toText) file
        ++ override "include_stderr" .bool (env.getBool (variableOf "STDERR")).value
        ++ override "max_bytes" .int (env.getInt (variableOf "MAX_BYTES")).value
        ++ override "backup_count" .int (env.getInt (variableOf "BACKUP_COUNT")).value := by
  have level : (trimmed? env "LEVEL").map Value.text = env.override? homes .level := by
    rw [trimmed?_eq_bind, Option.map_bind]; rfl
  have layout : (trimmed? env "FORMAT").map Value.text = env.override? homes .layout := by
    rw [trimmed?_eq_bind, Option.map_bind]; rfl
  have includeStderr : (env.getBool (variableOf "STDERR")).value.map Value.bool =
      env.override? homes .includeStderr := by
    rw [Environment.getBool, Environment.readBy_value, Option.map_bind]; rfl
  have maxBytes : (env.getInt (variableOf "MAX_BYTES")).value.map Value.int =
      env.override? homes .maxBytes := by
    rw [Environment.getInt, Environment.readBy_value, Option.map_bind]; rfl
  have backupCount : (env.getInt (variableOf "BACKUP_COUNT")).value.map Value.int =
      env.override? homes .backupCount := by
    rw [Environment.getInt, Environment.readBy_value, Option.map_bind]; rfl
  simp only [override_eq_toList, level, layout, override?_file homes env found, includeStderr,
    maxBytes, backupCount, Environment.overrides, List.flatMap_cons, List.flatMap_nil,
    List.append_nil, List.append_assoc, Setting.field]

theorem notices_readers :
    (env.getBool (variableOf "STDERR")).notices ++ (env.getInt (variableOf "MAX_BYTES")).notices
      ++ (env.getInt (variableOf "BACKUP_COUNT")).notices =
    env.complaints homes Setting.isUnreadable Setting.readByKind := by
  -- A reader warns about the texts that it cannot read, which are the unreadable ones.
  have warned {α : Type} (v : Setting) {read? : Text → Option α}
      (unreadable : ∀ t, (read? t).isNone = v.isUnreadable t) :
      (env.readBy v.var v.kind read?).notices =
        (((env.get? v.var).filter v.isUnreadable).map (v.complaint homes)).toList := by
    rw [Environment.readBy_notices, funext unreadable]
    cases env.get? v.var with
    | none => rfl
    | some t =>
      rw [Option.filter_some]
      by_cases bad : v.isUnreadable t = true
      · rw [if_pos bad, Option.map_some, Option.map_some, Setting.complaint, if_pos bad]
      · rw [if_neg bad]
        rfl
  rw [Setting.readByKind, Environment.complaints_cons, Environment.complaints_cons,
    Environment.complaints_cons,
    ← warned .includeStderr isNone_truth?, ← warned .maxBytes fun _ => rfl,
    ← warned .backupCount fun _ => rfl, ← List.append_assoc, ← List.append_assoc]
  exact (List.append_nil _).symm

/-- Loading gives each setting as its variable means it, and warns about the variables that are
    unreadable and then about those that are improper. -/
theorem load_eq {file : Option Path} (found : file? homes env = .ok file) :
    load homes env = ⟨.ok (ofEach (env.setting homes)),
      env.complaints homes Setting.isUnreadable Setting.readByKind ++
      env.complaints homes Setting.isImproper Setting.byName⟩ := by
  rw [load, found]
  simp only
  rw [← overrides_eq_append homes env found, ofOverrides_value, env.readable_overrides,
    env.notices_ofOverrides, notices_readers homes env]

theorem eq_of_load_value {s : Settings} (loaded : (load homes env).value = .ok s) :
    s = ofEach (env.setting homes) ∧
    (load homes env).notices =
      env.complaints homes Setting.isUnreadable Setting.readByKind ++
      env.complaints homes Setting.isImproper Setting.byName := by
  cases found : file? homes env with
  | error e =>
    rw [load, found] at loaded
    cases loaded
  | ok file =>
    rw [load_eq homes env found] at loaded ⊢
    exact ⟨(Except.ok.inj loaded).symm, rfl⟩

theorem exists_load_value_iff :
    (∃ s, (load homes env).value = .ok s) ↔ ¬ env.NamesUnknownUser homes := by
  rw [← file?_eq_error_iff]
  cases found : file? homes env with
  | error e => simp [load, found]
  | ok file => simp [load_eq homes env found]

theorem length_notices_load {s : Settings} (loaded : (load homes env).value = .ok s) :
    (load homes env).notices.length = Setting.all.countP (env.isSetTo Setting.isRejected) := by
  have sorted : Setting.byName.Perm Setting.all := by decide
  rw [(eq_of_load_value homes env loaded).2, List.length_append, Environment.length_complaints,
    Environment.length_complaints, sorted.countP_eq, Environment.countP_readByKind,
    Environment.countP_isRejected]

theorem complaint_mem_notices {s : Settings} (loaded : (load homes env).value = .ok s) {v : Setting}
    {t : Text} (given : env.get? v.var = some t) (rejected : v.isRejected t = true) :
    v.complaint homes t ∈ (load homes env).notices := by
  rw [(eq_of_load_value homes env loaded).2, List.mem_append, Environment.mem_complaints,
    Environment.mem_complaints]
  rcases Bool.or_eq_true_iff.mp rejected with unreadable | improper
  · exact .inl ⟨v, Setting.mem_readByKind unreadable, t, given, unreadable, rfl⟩
  · exact .inr ⟨v, by cases v <;> decide, t, given, improper, rfl⟩

end Loading

/-! ## Loading -/

/-- Settings are loaded unless the variable of the file names a user of whom no home directory is
    known; that error comes alone, without a warning. Once they are loaded, each variable that is
    rejected has left its setting at the default and has its warning. -/
theorem load_unless_unknown_user (homes : Homes) (env : Environment) :
    ((∃ s, (load homes env).value = .ok s) ↔ ¬ env.NamesUnknownUser homes) ∧
    (∀ e, (load homes env).value = .error e →
      (∃ error, e = .path error) ∧ (load homes env).notices = []) ∧
    ∀ s, (load homes env).value = .ok s → ∀ (v : Setting) (t : Text),
      env.get? v.var = some t → v.isRejected t = true →
        s.get v = default v ∧ v.complaint homes t ∈ (load homes env).notices := by
  refine ⟨exists_load_value_iff homes env, ?_, ?_⟩
  · intro e failed
    cases found : file? homes env with
    | error error =>
      rw [load, found] at failed ⊢
      exact ⟨⟨error, (Except.error.inj failed).symm⟩, rfl⟩
    | ok file =>
      rw [load_eq homes env found] at failed
      cases failed
  · intro s loaded v t given rejected
    refine ⟨?_, complaint_mem_notices homes env loaded given rejected⟩
    rw [(eq_of_load_value homes env loaded).1, get_ofEach, Environment.setting, given,
      Option.bind_some, Setting.meaning?_of_isRejected homes rejected, Option.getD_none]

/-- The home directories on a machine with one user. -/
def oneUser : Homes := ⟨text "/home/tester", []⟩

/-- A file below the home directory of the current user, and a size that is too small. -/
theorem load_unless_unknown_user_own_home :
    let env := [(Setting.file.var, text "~/app.log"), (Setting.maxBytes.var, text "0")]
    ¬ Environment.NamesUnknownUser oneUser env ∧
    (load oneUser env).value = .ok { file := some (Path.ofText (text "/home/tester/app.log")) } ∧
    Setting.maxBytes.complaint oneUser (text "0") ∈ (load oneUser env).notices := by
  intro env
  have loaded : (load oneUser env).value =
      .ok { file := some (Path.ofText (text "/home/tester/app.log")) } := by decide +kernel
  obtain ⟨returns, _, kept⟩ := load_unless_unknown_user oneUser env
  have rejected : Setting.maxBytes.isRejected (text "0") = true := by decide +kernel
  exact ⟨returns.mp ⟨_, loaded⟩, loaded,
    (kept _ loaded .maxBytes (text "0") (by decide +kernel) rejected).2⟩

/-- The name of an unknown user is neither ignored nor warned about. -/
theorem load_fails_for_unknown_user :
    let env := [(Setting.file.var, text "~nouser_zz/app.log")]
    (load oneUser env).value = .error (.path .homeUnknown) ∧ (load oneUser env).notices = [] := by
  intro env
  have failed : file? oneUser env = .error .homeUnknown := by decide +kernel
  rw [load, failed]
  exact ⟨rfl, rfl⟩

/-- Two environments that agree on a variable give its setting alike, whatever the others hold, since
    a setting is what its own variable means, or else the default; and without the settings that were
    refused the others can always be built. Each variable that is rejected has one warning, and there
    are no other reports: first those of the variables that could not be read, and then those of the
    settings that were refused, by name. -/
theorem load_by_variable (homes : Homes) :
    (∀ (env env' : Environment) (s s' : Settings), (load homes env).value = .ok s →
      (load homes env').value = .ok s' → ∀ v : Setting, env.get? v.var = env'.get? v.var →
        s.get v = s'.get v) ∧
    (∀ fields errors, ofFields fields = .error errors →
      ∃ s, ofFields (fields.filter fun field => !(errors.map FieldError.field).contains field.1) =
        .ok s) ∧
    ∀ (env : Environment) (s : Settings), (load homes env).value = .ok s →
      (∀ v : Setting, s.get v = ((env.get? v.var).bind (v.meaning? homes)).getD (default v)) ∧
      (load homes env).notices =
        env.complaints homes Setting.isUnreadable Setting.readByKind ++
        env.complaints homes Setting.isImproper Setting.byName ∧
      (load homes env).notices.length =
        Setting.all.countP (fun v => (env.get? v.var).any v.isRejected) ∧
      ∀ n ∈ (load homes env).notices, n.level = .warning := by
  have means (env : Environment) (s : Settings) (loaded : (load homes env).value = .ok s)
      (v : Setting) : s.get v = ((env.get? v.var).bind (v.meaning? homes)).getD (default v) := by
    rw [(eq_of_load_value homes env loaded).1, get_ofEach, Environment.setting]
  refine ⟨?_, fun fields errors failed => ⟨_, ofFields_valid fields failed⟩, ?_⟩
  · intro env env' s s' loaded loaded' v same
    rw [means env s loaded, means env' s' loaded', same]
  · intro env s loaded
    have warned := (eq_of_load_value homes env loaded).2
    refine ⟨means env s loaded, warned, length_notices_load homes env loaded, ?_⟩
    intro n member
    rw [warned, List.mem_append] at member
    rcases member with unreadable | improper
    · exact Environment.level_of_mem_complaints homes env unreadable
    · exact Environment.level_of_mem_complaints homes env improper

/-- Of two environments with the same layout, one has three variables that are rejected. -/
theorem load_by_variable_layout :
    let env := [(Setting.level.var, text "loud"), (Setting.includeStderr.var, text "maybe"),
      (Setting.maxBytes.var, text "0"), (Setting.layout.var, text " JSON ")]
    let env' := [(Setting.layout.var, text " JSON "), (Setting.level.var, text "Debug")]
    ∃ s s', (load oneUser env).value = .ok s ∧ (load oneUser env').value = .ok s' ∧
      s.layout = s'.layout ∧ s.level = .info ∧ s'.level = .debug ∧
      (load oneUser env).notices.length = 3 := by
  intro env env'
  have loaded : (load oneUser env).value = .ok { layout := .json } := by decide +kernel
  have loaded' : (load oneUser env').value = .ok { layout := .json, level := .debug } := by
    decide +kernel
  obtain ⟨agree, _, single⟩ := load_by_variable oneUser
  have count : Setting.all.countP (fun v => (Environment.get? env v.var).any v.isRejected) = 3 := by
    decide +kernel
  have sameLayout : Environment.get? env Setting.layout.var = Environment.get? env' Setting.layout.var :=
    by decide +kernel
  exact ⟨_, _, loaded, loaded', agree env env' _ _ loaded loaded' .layout sameLayout, rfl, rfl,
    (single env _ loaded).2.2.1.trans count⟩

end Settings

end UnitText
