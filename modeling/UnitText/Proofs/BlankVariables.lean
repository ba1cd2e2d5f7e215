import UnitText.Proofs.EdgeRuns
import UnitText.Proofs.Loading

/-!
# Variables of which nothing is left

A variable decides its own setting and can add one warning; without it, loading gives the same in all
else (`Settings.DiffersBy`). So it makes no difference whether a variable is not set or has a blank
text. What is blank is decided by the class of whitespace, before the text is trimmed, and trimming
removes all controls up to U+001F. A text with a control that is not whitespace is not blank, though
nothing is left of it: as a level or a layout it is refused, with a warning that shows an empty text, and
as a file it is the working directory.
-/

namespace UnitText

namespace Setting

theorem var_inj {v w : Setting} : v.var = w.var ↔ v = w := by cases v <;> cases w <;> decide

end Setting

namespace Environment

/-! ## Without a variable -/

/-- The environment with a variable not set. -/
def without (env : Environment) (var : Text) : Environment := env.filter fun entry => entry.1 != var

section Without

variable (homes : Homes) (env : Environment)

theorem get?_without (var other : Text) :
    (env.without var).get? other = if other = var then none else env.get? other := by
  induction env with
  | nil => simp [without, get?]
  | cons entry env ih =>
    simp only [without, get?] at ih ⊢
    by_cases taken : entry.1 = var
    · rw [List.filter_cons_of_neg (by simp [taken]), ih]
      split
      · rfl
      · rename_i apart
        rw [List.find?_cons_of_neg]
        simpa [taken] using fun same => apart same.symm
    · rw [List.filter_cons_of_pos (by simp [taken])]
      by_cases found : entry.1 = other
      · rw [List.find?_cons_of_pos (by simp [found]), if_neg (by rwa [← found]),
          List.find?_cons_of_pos (by simp [found])]
      · rw [List.find?_cons_of_neg (by simp [found]), ih, List.find?_cons_of_neg (by simp [found])]

theorem get?_var_without (v w : Setting) :
    (env.without v.var).get? w.var = if w = v then none else env.get? w.var := by
  rw [get?_without]
  simp only [Setting.var_inj]

theorem setting_without_of_ne {v w : Setting} (apart : w ≠ v) :
    (env.without v.var).setting homes w = env.setting homes w := by
  rw [setting, setting, get?_var_without, if_neg apart]

theorem setting_without_self (v : Setting) :
    (env.without v.var).setting homes v = Settings.default v := by
  rw [setting, get?_var_without, if_pos rfl]
  rfl

/-- The complaints about the other variables stay. -/
theorem complaints_without (check : Setting → Text → Bool) (v : Setting) (settings : List Setting) :
    (env.without v.var).complaints homes check settings =
      env.complaints homes check (settings.filter (· != v)) := by
  induction settings with
  | nil => rfl
  | cons w settings ih =>
    rw [complaints_cons, ih, get?_var_without]
    by_cases same : w = v
    · rw [if_pos same, List.filter_cons_of_neg (by simp [same])]
      rfl
    · rw [if_neg same, List.filter_cons_of_pos (by simp [same]), complaints_cons]

theorem complaints_append (check : Setting → Text → Bool) (first second : List Setting) :
    env.complaints homes check (first ++ second) =
      env.complaints homes check first ++ env.complaints homes check second :=
  List.filterMap_append

section Given

variable {env} {check : Setting → Text → Bool} {v : Setting} {t : Text}
  (given : env.get? v.var = some t)

include given

/-- A variable that passes a check has no part in the complaints. -/
theorem complaints_without_of_accepted (accepted : check v t = false) (settings : List Setting) :
    (env.without v.var).complaints homes check settings = env.complaints homes check settings := by
  rw [complaints_without]
  induction settings with
  | nil => rfl
  | cons w settings ih =>
    rw [complaints_cons, ← ih]
    by_cases same : w = v
    · subst same
      rw [List.filter_cons_of_neg (by simp), given, Option.filter_some, if_neg (by simp [accepted])]
      rfl
    · rw [List.filter_cons_of_pos (by simp [same]), complaints_cons]

/-- A variable that fails a check has one complaint. -/
theorem complaints_of_rejected (rejected : check v t = true) {settings : List Setting}
    (member : v ∈ settings) (distinct : settings.Nodup) :
    ∃ before after, (env.without v.var).complaints homes check settings = before ++ after ∧
      env.complaints homes check settings = before ++ v.complaint homes t :: after := by
  obtain ⟨first, second, rfl⟩ := List.append_of_mem member
  obtain ⟨_, later, apart⟩ := List.nodup_append.mp distinct
  have others (part : List Setting) (absent : v ∉ part) : part.filter (· != v) = part := by
    rw [List.filter_eq_self]
    intro w inside
    rw [bne_iff_ne]
    rintro rfl
    exact absent inside
  refine ⟨env.complaints homes check first, env.complaints homes check second, ?_, ?_⟩
  · rw [complaints_without, List.filter_append, List.filter_cons_of_neg (by simp), complaints_append,
      others first fun inside => apart v inside v (List.mem_cons_self ..) rfl,
      others second (List.nodup_cons.mp later).1]
  · rw [complaints_append, complaints_cons, given, Option.filter_some, if_pos rejected]
    rfl

end Given

end Without

end Environment

namespace Settings

section Loading

variable (homes : Homes) {env : Environment}

theorem exists_file?_without (v : Setting) {s : Settings} (loaded : (load homes env).value = .ok s) :
    ∃ file, file? homes (env.without v.var) = .ok file := by
  rw [file?_eq_match, Environment.get?_var_without]
  by_cases same : Setting.file = v
  · rw [if_pos same]
    exact ⟨none, rfl⟩
  · rw [if_neg same, ← file?_eq_match]
    cases found : file? homes env with
    | error e =>
      rw [load, found] at loaded
      cases loaded
    | ok file => exact ⟨file, rfl⟩

/-- How the settings that are loaded with a variable and without it differ: in the setting of the
    variable, which is at its default without it, and by one warning if the variable is rejected. -/
structure DiffersBy (env : Environment) (v : Setting) (t : Text) (s s' : Settings) : Prop where
  loaded : (load homes (env.without v.var)).value = .ok s'
  others : ∀ w, w ≠ v → s.get w = s'.get w
  own : s.get v = (v.meaning? homes t).getD (default v)
  unset : s'.get v = default v
  silent : v.isRejected t = false →
    (load homes env).notices = (load homes (env.without v.var)).notices
  warned : v.isRejected t = true → ∃ before after,
    (load homes (env.without v.var)).notices = before ++ after ∧
    (load homes env).notices = before ++ v.complaint homes t :: after

theorem DiffersBy.own_eq_default {v : Setting} {t : Text} {s s' : Settings}
    (differ : DiffersBy homes env v t s s') (meaningless : v.meaning? homes t = none) :
    s.get v = default v := by
  rw [differ.own, meaningless, Option.getD_none]

theorem exists_differsBy {v : Setting} {t : Text} (given : env.get? v.var = some t) {s : Settings}
    (loaded : (load homes env).value = .ok s) : ∃ s', DiffersBy homes env v t s s' := by
  obtain ⟨file, found⟩ := exists_file?_without homes v loaded
  obtain ⟨rfl, notices⟩ := eq_of_load_value homes env loaded
  have without := load_eq homes _ found
  refine ⟨_, by rw [without], ?_, ?_, ?_, ?_, ?_⟩
  · intro w apart
    rw [get_ofEach, get_ofEach, Environment.setting_without_of_ne homes env apart]
  · rw [get_ofEach, Environment.setting, given, Option.bind_some]
  · rw [get_ofEach, Environment.setting_without_self]
  · rw [without, notices]
    intro accepted
    obtain ⟨readable, proper⟩ := Bool.or_eq_false_iff.mp accepted
    simp only [Environment.complaints_without_of_accepted homes given readable,
      Environment.complaints_without_of_accepted homes given proper]
  · rw [without, notices]
    intro rejected
    cases improper : v.isImproper t with
    | false =>
      have unreadable : v.isUnreadable t = true := by
        simpa [Setting.isRejected, improper] using rejected
      obtain ⟨before, after, others, all⟩ := Environment.complaints_of_rejected homes given
        unreadable (Setting.mem_readByKind unreadable) (by decide)
      simp only [Environment.complaints_without_of_accepted homes given improper, others, all]
      exact ⟨before, after ++ _, List.append_assoc .., by simp⟩
    | true =>
      have readable := Setting.not_isUnreadable_of_isImproper improper
      have member : v ∈ Setting.byName := by cases v <;> decide
      obtain ⟨before, after, others, all⟩ := Environment.complaints_of_rejected homes given
        improper member (by decide)
      simp only [Environment.complaints_without_of_accepted homes given readable, others, all]
      exact ⟨_ ++ before, after, (List.append_assoc ..).symm, (List.append_assoc ..).symm⟩

/-! ## Texts of which nothing is left -/

/-- Settings are the same if each one is. -/
theorem eq_of_get_eq {s s' : Settings} (same : ∀ v, s.get v = s'.get v) : s = s' := by
  calc s = ofEach s.get := rfl
    _ = ofEach s'.get := by rw [funext same]
    _ = s' := rfl

end Loading

end Settings

namespace Setting

/-- The settings whose variable is taken as a text, once it is trimmed. -/
def textual : List Setting := [.level, .layout, .file]

variable {t : Text}

theorem meaning?_of_blank (homes : Homes) {v : Setting} (taken : v ∈ textual)
    (blank : isBlank (some t) = true) : v.meaning? homes t = none ∧ v.isRejected t = false := by
  cases v with
  | level | layout =>
    simp [meaning?, isRejected, isUnreadable, isImproper, named?, namesNothing, blank]
  | file => simp [meaning?, isRejected, isUnreadable, isImproper, nonblank?, blank]
  | includeStderr | maxBytes | backupCount => exact absurd taken (by decide)

/-- The empty text is the name of no level and no layout. -/
theorem rejected_of_trim_eq_nil (homes : Homes) {v : Setting} (named : v = .level ∨ v = .layout)
    (nothing : t.trim = []) (visible : isBlank (some t) = false) :
    v.meaning? homes t = none ∧ v.isRejected t = true ∧
      v.complaint homes t = .warning (text "loader")
        (text "Ignoring invalid logging setting " ++ text v.field ++ text "=''") := by
  -- The level and the layout differ in their names, and neither has an empty one.
  rcases named with rfl | rfl
  all_goals
    refine ⟨?_, ?_, ?_⟩
    · rw [meaning?, named?, visible, nothing]
      rfl
    · rw [isRejected, isUnreadable, isImproper, namesNothing, visible, nothing]
      rfl
    · rw [complaint, isUnreadable, if_neg Bool.false_ne_true, value?, nonblank?, visible, nothing]
      rfl

/-- The empty text is a path, the one of the working directory. -/
theorem meaning?_file_of_trim_eq_nil (homes : Homes) (nothing : t.trim = [])
    (visible : isBlank (some t) = false) :
    Setting.file.meaning? homes t = some (some (Path.ofText [])) := by
  rw [meaning?, nonblank?, visible, nothing]
  rfl

end Setting

theorem isBlank_iff_of_trim_eq_nil {t : Text} (nothing : t.trim = []) :
    isBlank (some t) = true ↔ ∀ c ∈ t, isWhitespace c.val = true := by
  obtain ⟨lead, trail, whole, low⟩ := t.exists_blanks_around
  rw [nothing, List.append_nil] at whole
  rw [isBlank, Option.getD_some, Text.units, List.all_flatMap, List.all_eq_true]
  refine forall₂_congr fun c member => ?_
  rw [whole] at member
  have ascii := low c member
  rw [CodePoint.units_of_lt (by omega), List.all_cons, List.all_nil, Bool.and_true]

namespace Settings

section Nothing

variable (homes : Homes) {env : Environment} {v : Setting} {t : Text}

theorem load_without_of_blank (taken : v ∈ Setting.textual) (given : env.get? v.var = some t)
    (blank : isBlank (some t) = true) : load homes env = load homes (env.without v.var) := by
  obtain ⟨meaningless, accepted⟩ := Setting.meaning?_of_blank homes taken blank
  cases found : file? homes env with
  | error e =>
    -- A blank file is none, so the error is not about this variable.
    have other : Setting.file ≠ v := by
      rintro rfl
      rw [file?_eq_match, given, Option.bind_some, nonblank?, if_pos blank] at found
      cases found
    have same : file? homes (env.without v.var) = file? homes env := by
      rw [file?_eq_match, file?_eq_match, Environment.get?_var_without, if_neg other]
    rw [load, load, same, found]
  | ok file =>
    have loaded : (load homes env).value = .ok (ofEach (env.setting homes)) := by
      rw [load_eq homes env found]
    obtain ⟨s, differ⟩ := exists_differsBy homes given loaded
    have same : ofEach (env.setting homes) = s := by
      apply eq_of_get_eq
      intro w
      by_cases own : w = v
      · rw [own, differ.own_eq_default homes meaningless, differ.unset]
      · exact differ.others w own
    calc load homes env = ⟨(load homes env).value, (load homes env).notices⟩ := rfl
      _ = load homes (env.without v.var) := by
        rw [loaded, same, ← differ.loaded, differ.silent accepted]

/-- A file of which nothing is left is found: it is none, or the working directory. -/
theorem exists_load_of_trim_eq_nil (given : env.get? Setting.file.var = some t)
    (nothing : t.trim = []) : ∃ s, (load homes env).value = .ok s := by
  have found : ∃ file, file? homes env = .ok file := by
    rw [file?_eq_match, given, Option.bind_some, nonblank?, nothing]
    cases isBlank (some t) with
    | true => exact ⟨none, rfl⟩
    | false => exact ⟨some (Path.ofText []), rfl⟩
  obtain ⟨file, found⟩ := found
  exact ⟨_, by rw [load_eq homes env found]⟩

/-- The empty text as a file is the working directory. -/
theorem file_of_trim_eq_nil (given : env.get? Setting.file.var = some t) (nothing : t.trim = [])
    (visible : isBlank (some t) = false) {s : Settings} (loaded : (load homes env).value = .ok s) :
    s.file = some (Path.ofText []) ∧
      (load homes env).notices = (load homes (env.without Setting.file.var)).notices := by
  obtain ⟨_, differ⟩ := exists_differsBy homes given loaded
  have own := differ.own
  rw [Setting.meaning?_file_of_trim_eq_nil homes nothing visible] at own
  exact ⟨own, differ.silent rfl⟩

/-- The empty text is the name of no level and no layout. -/
theorem named_of_trim_eq_nil (named : v = .level ∨ v = .layout) (given : env.get? v.var = some t)
    (nothing : t.trim = []) (visible : isBlank (some t) = false) {s : Settings}
    (loaded : (load homes env).value = .ok s) :
    s.get v = default v ∧ ∃ before after,
      (load homes (env.without v.var)).notices = before ++ after ∧
      (load homes env).notices = before ++ Notice.warning (text "loader")
        (text "Ignoring invalid logging setting " ++ text v.field ++ text "=''") :: after := by
  obtain ⟨meaningless, rejected, wording⟩ :=
    Setting.rejected_of_trim_eq_nil homes named nothing visible
  obtain ⟨_, differ⟩ := exists_differsBy homes given loaded
  rw [← wording]
  exact ⟨differ.own_eq_default homes meaningless, differ.warned rejected⟩

/-- A variable that is not blank does not count as not set. -/
theorem not_unset_of_trim_eq_nil (taken : v ∈ Setting.textual) (given : env.get? v.var = some t)
    (nothing : t.trim = []) (visible : isBlank (some t) = false) {s : Settings}
    (loaded : (load homes env).value = .ok s) :
    ¬ (s.get v = default v ∧
      (load homes env).notices = (load homes (env.without v.var)).notices) := by
  rintro ⟨isDefault, same⟩
  have warned (named : v = .level ∨ v = .layout) : False := by
    obtain ⟨_, before, after, others, all⟩ :=
      named_of_trim_eq_nil homes named given nothing visible loaded
    rw [others, all] at same
    simp at same
  cases v with
  | level => exact warned (.inl rfl)
  | layout => exact warned (.inr rfl)
  | file =>
    obtain ⟨file, _⟩ := file_of_trim_eq_nil homes given nothing visible loaded
    cases file.symm.trans isDefault
  | includeStderr | maxBytes | backupCount => exact absurd taken (by decide)

/-- The variables of the level, the layout and the file, with a text of which trimming leaves nothing. If
    the text is all whitespace, the variable counts as not set, whatever the others hold. If it has a
    control that is not whitespace, the variable does not: as a level or a layout it is refused, so that
    the default stays and there is one warning more, and as a file it is the path of the working
    directory, without a warning. -/
theorem load_of_trim_eq_nil (taken : v ∈ Setting.textual) (given : env.get? v.var = some t)
    (nothing : t.trim = []) :
    ((∀ c ∈ t, isWhitespace c.val = true) → load homes env = load homes (env.without v.var)) ∧
    (v = .file → ∃ s, (load homes env).value = .ok s) ∧
    ∀ s, (load homes env).value = .ok s →
      ((s.get v = default v ∧
          (load homes env).notices = (load homes (env.without v.var)).notices) ↔
        ∀ c ∈ t, isWhitespace c.val = true) ∧
      ((∃ c ∈ t, isWhitespace c.val = false) →
        (v = .file → s.file = some (Path.ofText []) ∧
          (load homes env).notices = (load homes (env.without v.var)).notices) ∧
        (v ≠ .file → s.get v = default v ∧ ∃ before after,
          (load homes (env.without v.var)).notices = before ++ after ∧
          (load homes env).notices = before ++ Notice.warning (text "loader")
            (text "Ignoring invalid logging setting " ++ text v.field ++ text "=''") :: after)) := by
  have blank_iff := isBlank_iff_of_trim_eq_nil nothing
  have visible_iff : isBlank (some t) = false ↔ ∃ c ∈ t, isWhitespace c.val = false := by
    rw [← Bool.not_eq_true, blank_iff]
    simp
  rw [← blank_iff, ← visible_iff]
  refine ⟨load_without_of_blank homes taken given, ?_, ?_⟩
  · rintro rfl
    exact exists_load_of_trim_eq_nil homes given nothing
  · intro s loaded
    refine ⟨⟨?_, ?_⟩, ?_⟩
    · intro unset
      by_contra visible
      exact not_unset_of_trim_eq_nil homes taken given nothing (by simpa using visible) loaded unset
    · intro blank
      obtain ⟨meaningless, accepted⟩ := Setting.meaning?_of_blank homes taken blank
      obtain ⟨_, differ⟩ := exists_differsBy homes given loaded
      exact ⟨differ.own_eq_default homes meaningless, differ.silent accepted⟩
    · intro visible
      constructor
      · rintro rfl
        exact file_of_trim_eq_nil homes given nothing visible loaded
      · intro other
        have named : v = .level ∨ v = .layout := by
          simpa [Setting.textual, other] using taken
        exact named_of_trim_eq_nil homes named given nothing visible loaded

end Nothing

/-- A layout of a tab, a separator and a space counts as not set, and a level of a space and U+0001 costs
    a warning. -/
theorem load_of_trim_eq_nil_blank_and_control :
    let env := [(Setting.layout.var, [0x09, 0x1C, 0x20]), (Setting.level.var, [0x20, 0x01])]
    load oneUser env = load oneUser (Environment.without env Setting.layout.var) ∧
    ∃ s, (load oneUser env).value = .ok s ∧ s.level = .info ∧ (load oneUser env).notices ≠ [] := by
  intro env
  have noFile : file? oneUser env = .ok none := rfl
  have layout : Environment.get? env Setting.layout.var = some [0x09, 0x1C, 0x20] := rfl
  have level : Environment.get? env Setting.level.var = some [0x20, 0x01] := rfl
  have loaded : (load oneUser env).value = .ok (ofEach (Environment.setting oneUser env)) := by
    rw [load_eq oneUser env noFile]
  have blank := (load_of_trim_eq_nil oneUser (by decide) layout rfl).1
  have control := ((load_of_trim_eq_nil oneUser (by decide) level rfl).2.2 _ loaded).2
  obtain ⟨isDefault, before, after, _, all⟩ := (control ⟨0x01, by decide, by decide⟩).2 (by decide)
  refine ⟨blank ?_, _, loaded, isDefault, by simp [all]⟩
  rw [List.forall_mem_cons, List.forall_mem_cons, List.forall_mem_singleton]
  decide

/-- A control counts as the working directory, where a blank would count as no file. -/
theorem load_control_as_file :
    let env := [(Setting.file.var, [0x01])]
    Text.trim [0x01] = [] ∧ (load oneUser env).value = .ok { file := some (Path.ofText []) } ∧
      some (Path.ofText []) ≠ default .file := by
  intro env
  exact ⟨rfl, rfl, by simp [default, get]⟩

end Settings

end UnitText
