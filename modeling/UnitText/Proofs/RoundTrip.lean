import UnitText.Proofs.Loading
import UnitText.Proofs.Numerals
import UnitText.Proofs.UnitView

/-!
# Settings through the environment

Settings can be written to the environment and loaded again. Each setting has forms: a name or a
truth value may be spelled in any mixture of capital and small letters, and spaces and tabs around a
form do not count. A text that pads a form means the setting again, so settings that an environment
carries in this way are loaded as they were, without a warning.
-/

namespace UnitText

/-! ## Padding -/

/-- Whether a code point is a space or a tab. -/
def isPadding (c : CodePoint) : Bool := c == 0x20 || c == 0x09

/-- Whether a text is another one with spaces and tabs before and after it. -/
def IsPadded (t padded : Text) : Prop :=
  ∃ before after, padded = before ++ t ++ after ∧ (∀ c ∈ before, isPadding c = true) ∧
    ∀ c ∈ after, isPadding c = true

theorem isTrimmed_of_isPadding {c : CodePoint} (padding : isPadding c = true) :
    isTrimmed c = true := by
  simp only [isPadding, Bool.or_eq_true, beq_iff_eq] at padding
  rcases padding with rfl | rfl <;> rfl

theorem isNumeralSpace_of_isPadding {c : CodePoint} (padding : isPadding c = true) :
    isNumeralSpace c = true := by
  simp only [isPadding, Bool.or_eq_true, beq_iff_eq] at padding
  rcases padding with rfl | rfl <;> decide

theorem isBlank_of_isPadding {t : Text} (padding : ∀ c ∈ t, isPadding c = true) :
    isBlank (some t) = true := by
  rw [isBlank, Option.getD_some, Text.units, List.all_flatMap, List.all_eq_true]
  intro c member
  have kind := padding c member
  simp only [isPadding, Bool.or_eq_true, beq_iff_eq] at kind
  rcases kind with rfl | rfl <;> decide

theorem isBlank_append (s t : Text) :
    isBlank (some (s ++ t)) = (isBlank (some s) && isBlank (some t)) := by
  rw [isBlank, isBlank, isBlank, Option.getD_some, Option.getD_some, Option.getD_some,
    Text.units_append, List.all_append]

theorem isBlank_of_isPadded {t padded : Text} (padding : IsPadded t padded) :
    isBlank (some padded) = isBlank (some t) := by
  obtain ⟨before, after, rfl, atStart, atEnd⟩ := padding
  rw [isBlank_append, isBlank_append, isBlank_of_isPadding atStart, isBlank_of_isPadding atEnd,
    Bool.true_and, Bool.and_true]

theorem Text.trimRight_append {t after : Text} (removed : ∀ c ∈ after, isTrimmed c = true) :
    (t ++ after).trimRight = t.trimRight := by
  rw [trimRight, trimRight, dropWhileRight, dropWhileRight, List.reverse_append,
    List.dropWhile_append_of_pos fun c member => removed c (List.mem_reverse.mp member)]

/-- Trimming removes padding before it looks at the text within. -/
theorem trim_of_isPadded {t padded : Text} (padding : IsPadded t padded) :
    padded.trim = t.trim := by
  obtain ⟨before, after, rfl, atStart, atEnd⟩ := padding
  have removed : ∀ c ∈ after, isTrimmed c = true := fun c member =>
    isTrimmed_of_isPadding (atEnd c member)
  rw [Text.trim, Text.trim, Text.trimLeft, List.append_assoc,
    List.dropWhile_append_of_pos fun c member => isTrimmed_of_isPadding (atStart c member),
    List.dropWhile_append]
  split
  · rename_i nothing
    have whole : (after ++ []).dropWhile isTrimmed = [] := List.dropWhile_append_of_pos removed
    rw [← List.append_nil after, whole, Text.trimLeft, List.isEmpty_iff.mp nothing]
  · exact Text.trimRight_append removed

theorem readInteger?_of_isPadded {n : Nat} {padded : Text}
    (short : (natText n).length ≤ maxDigits) (padding : IsPadded (natText n) padded) :
    padded.readInteger? = some (n : Int) := by
  obtain ⟨before, after, rfl, atStart, atEnd⟩ := padding
  exact readInteger?_natText short (fun c member => isNumeralSpace_of_isPadding (atStart c member))
    fun c member => isNumeralSpace_of_isPadding (atEnd c member)

/-! ## Words in capital and small letters -/

/-- Whether a text is a word of visible ASCII. -/
def IsWord (t : Text) : Prop := t ≠ [] ∧ ∀ c ∈ t, 0x20 < c.val ∧ c.val < 0x7F

instance instDecidableIsWord (t : Text) : Decidable (IsWord t) :=
  @instDecidableAnd _ _ inferInstance (List.decidableBAll _ t)

theorem lowerAscii_val (c : CodePoint) :
    (lowerAscii c).val = if 0x41 ≤ c.val ∧ c.val ≤ 0x5A then c.val + 0x20 else c.val := by
  rw [lowerAscii]
  split <;> rfl

/-- A text whose small form is a word is a word. -/
theorem isWord_of_map_lowerAscii {t : Text} (word : IsWord (t.map lowerAscii)) : IsWord t := by
  refine ⟨fun empty => word.1 (by rw [empty]; rfl), fun c member => ?_⟩
  have lower := word.2 _ (List.mem_map_of_mem member)
  rw [lowerAscii_val] at lower
  split at lower <;> omega

theorem trim_of_isWord {t : Text} (word : IsWord t) : t.trim = t := by
  have kept : ∀ c ∈ t, ¬ isTrimmed c = true := by
    intro c member
    have := word.2 c member
    simp only [isTrimmed, decide_eq_true_eq]
    omega
  have atStart : t.dropWhile isTrimmed = t := by
    cases t with
    | nil => rfl
    | cons c rest => exact List.dropWhile_cons_of_neg (kept c (List.mem_cons_self ..))
  have atEnd : t.reverse.dropWhile isTrimmed = t.reverse := by
    cases turned : t.reverse with
    | nil => rfl
    | cons c rest =>
      have member : c ∈ t := List.mem_reverse.mp (by rw [turned]; exact List.mem_cons_self ..)
      exact List.dropWhile_cons_of_neg (kept c member)
  rw [Text.trim, Text.trimLeft, atStart, Text.trimRight, dropWhileRight, atEnd, List.reverse_reverse]

theorem not_isWhitespace_of_visible {n : Nat} (low : 0x20 < n) (high : n < 0x7F) :
    isWhitespace n = false := by
  rw [← Bool.not_eq_true, isWhitespace_iff_of_lt (by omega)]
  omega

theorem isBlank_of_isWord {t : Text} (word : IsWord t) : isBlank (some t) = false := by
  obtain ⟨c, rest, rfl⟩ := List.exists_cons_of_ne_nil word.1
  have ⟨low, high⟩ := word.2 c (List.mem_cons_self ..)
  rw [isBlank, Option.getD_some, Text.units_cons, CodePoint.units_of_lt (by omega), List.cons_append,
    List.all_cons, not_isWhitespace_of_visible low high, Bool.false_and]

/-- Folding a word to ASCII makes its capital letters small. -/
theorem foldToAscii_of_isWord {t : Text} (word : IsWord t) :
    t.foldToAscii = t.map lowerAscii := by
  rw [Text.foldToAscii, List.map_eq_flatMap]
  refine List.flatMap_congr fun c member => ?_
  have visible := word.2 c member
  rw [foldToAscii, lowerAscii]
  split
  · rfl
  · have other (d : CodePoint) (beyond : 0x7F ≤ d.val) : c ≠ d := by
      rintro rfl
      omega
    simp only [other 0xDF (by decide), other 0x1E9E (by decide), other 0x17F (by decide),
      other 0x212A (by decide), other 0xFB00 (by decide), other 0xFB01 (by decide),
      other 0xFB02 (by decide), other 0xFB03 (by decide), other 0xFB04 (by decide),
      other 0xFB05 (by decide), other 0xFB06 (by decide), or_self, if_false]

/-- The simple lower-case form does not tell a capital letter from its small one. -/
theorem simpleLower_lowerAscii (c : CodePoint) :
    simpleLower (lowerAscii c).val = simpleLower c.val := by
  have letters : ∀ n < 26, simpleLower (0x41 + n + 0x20) = simpleLower (0x41 + n) := by
    decide +kernel
  rw [lowerAscii_val]
  split
  · have letter := letters (c.val - 0x41) (by omega)
    rwa [Nat.add_sub_cancel' (by omega)] at letter
  · rfl

/-- To the comparison that ignores case, a word and its small form look the same. -/
theorem folded_units_of_isWord {t : Text} (word : IsWord t) :
    Comparison.exactIgnoreCase.comparator.folded t.units =
      Comparison.exactIgnoreCase.comparator.folded (Text.units (t.map lowerAscii)) := by
  have visible := word.2
  clear word
  induction t with
  | nil => rfl
  | cons c t ih =>
    have ⟨_, high⟩ := visible c (List.mem_cons_self ..)
    have flat : (lowerAscii c).val < 0x10000 := by rw [lowerAscii_val]; split <;> omega
    rw [List.map_cons, Text.units_cons, Text.units_cons, CodePoint.units_of_lt (by omega),
      CodePoint.units_of_lt flat, List.singleton_append, List.singleton_append,
      Comparator.folded_cons, Comparator.folded_cons,
      ih fun d later => visible d (List.mem_cons_of_mem c later)]
    congr 1
    exact congrArg Int.ofNat (simpleLower_lowerAscii c).symm

/-- Which truth value a text spells depends on what the comparison that ignores case sees of it. -/
theorem Spelling.accepts_congr (s : Spelling) {t t' : Text}
    (blank : isBlank (some t) = isBlank (some t'))
    (same : Comparison.exactIgnoreCase.comparator.folded t.trim.units =
      Comparison.exactIgnoreCase.comparator.folded t'.trim.units) :
    s.accepts (some t) = s.accepts (some t') := by
  have words : (s.words.any fun w => Comparison.exactIgnoreCase.equals (some t.trim) (some w)) =
      s.words.any fun w => Comparison.exactIgnoreCase.equals (some t'.trim) (some w) := by
    congr 1
    funext w
    rw [Bool.eq_iff_iff, Comparison.equals_some_iff, Comparison.equals_some_iff, same]
  have lengths := congrArg List.length same
  rw [Comparator.length_folded, Comparator.length_folded] at lengths
  simp only [accepts, blank, words]
  split
  · rfl
  · split
    · rename_i u single
      rw [single] at same lengths
      obtain ⟨u', single'⟩ := List.length_eq_one_iff.mp lengths.symm
      rw [single'] at same ⊢
      have lower : simpleLower u.val = simpleLower u'.val :=
        Int.ofNat.inj (List.cons.inj same).1
      rw [lower]
    · rename_i several
      split
      · rename_i u' single'
        rw [single'] at lengths
        obtain ⟨u, single⟩ := List.length_eq_one_iff.mp lengths
        exact absurd single (several u)
      · rfl

theorem truth?_of_isPadded {t padded : Text} (word : IsWord (t.map lowerAscii))
    (padding : IsPadded t padded) :
    Environment.truth? padded = Environment.truth? (t.map lowerAscii) := by
  have original := isWord_of_map_lowerAscii word
  have alike (s : Spelling) : s.accepts (some padded) = s.accepts (some (t.map lowerAscii)) := by
    refine s.accepts_congr ?_ ?_
    · rw [isBlank_of_isPadded padding, isBlank_of_isWord original, isBlank_of_isWord word]
    · rw [trim_of_isPadded padding, trim_of_isWord original, trim_of_isWord word,
        folded_units_of_isWord original]
  rw [Environment.truth?, Environment.truth?, spellsTrue, spellsTrue, spellsFalse, spellsFalse,
    alike, alike]

/-! ## Forms of a setting -/

/-- The spellings of a truth value. -/
def truthSpellings : Bool → List Text
  | true => ["true", "yes", "t", "y", "1"].map text
  | false => ["false", "no", "f", "n", "0"].map text

namespace Setting

/-- Whether a text is a form of the value of a setting. The absent file has none. -/
def IsForm : (v : Setting) → v.type → Text → Prop
  | .level, l, t => t.map lowerAscii = text l.name
  | .layout, l, t => t.map lowerAscii = text l.name
  | .file, path?, t => ∃ p, path? = some p ∧ t = p.toText
  | .includeStderr, b, t => t.map lowerAscii ∈ truthSpellings b
  | .maxBytes, n, t | .backupCount, n, t => t = natText n

/-- Whether a value of a setting can be read again from its forms: a number must not have too many
    digits, and the path of a file must not begin with a tilde, nor be blank, nor be changed by
    trimming. -/
def IsReadable : (v : Setting) → v.type → Prop
  | .file, path? => ∀ p, path? = some p →
    p.toText.head? ≠ some 0x7E ∧ p.toText.trim = p.toText ∧ isBlank (some p.toText) = false
  | .maxBytes, n | .backupCount, n => (natText n).length ≤ maxDigits
  | .level, _ | .layout, _ | .includeStderr, _ => True

/-- A text that pads a form of a name is read as what has the name. -/
theorem named?_of_isPadded {α : Type} {all : List α} {name : α → String} {a : α}
    (unique : all.find? (fun b => text (name b) == text (name a)) = some a)
    (word : IsWord (text (name a))) {t padded : Text} (form : t.map lowerAscii = text (name a))
    (padding : IsPadded t padded) : named? all name padded = some a := by
  rw [← form] at word
  have original := isWord_of_map_lowerAscii word
  rw [named?, isBlank_of_isPadded padding, isBlank_of_isWord original, if_neg Bool.false_ne_true,
    trim_of_isPadded padding, trim_of_isWord original, foldToAscii_of_isWord original, form, unique]

theorem truth?_of_truthSpellings {b : Bool} {t : Text} (member : t ∈ truthSpellings b) :
    IsWord t ∧ Environment.truth? t = some b := by
  have spelled : ∀ t ∈ truthSpellings b, IsWord t ∧ Environment.truth? t = some b := by
    cases b <;> decide +kernel
  exact spelled t member

theorem natFrom?_of_isPadded {bound n : Nat} {t padded : Text} (enough : bound ≤ n)
    (short : (natText n).length ≤ maxDigits) (form : t = natText n) (padding : IsPadded t padded) :
    natFrom? bound padded = some n := by
  rw [form] at padding
  rw [natFrom?, readInteger?_of_isPadded short padding, Option.bind_some, if_neg (by omega),
    Int.toNat_natCast]

end Setting

theorem Path.expandHome_of_not_tilde {homes : Homes} {p : Path}
    (plain : p.toText.head? ≠ some 0x7E) : p.expandHome homes = .ok p := by
  rcases expandHome_cases homes p with ⟨user, rest, noRoot, names, _⟩ | ⟨_, kept⟩
  · refine absurd ?_ plain
    rw [toText, if_neg (by simp [names]), noRoot, names]
    cases rest with
    | nil => rfl
    | cons next rest => rfl
  · exact kept

namespace Setting

/-- Whether some value is read as this one for a setting. -/
def IsProper (v : Setting) (a : v.type) : Prop := ∃ given, v.read .lax given = .ok a

theorem isProper_default (v : Setting) : v.IsProper (Settings.default v) := by
  cases v with
  | level => exact ⟨.text (text "info"), by decide +kernel⟩
  | file => exact ⟨.null, rfl⟩
  | layout => exact ⟨.text (text "text"), by decide +kernel⟩
  | includeStderr => exact ⟨.bool false, rfl⟩
  | maxBytes => exact ⟨.int 10485760, rfl⟩
  | backupCount => exact ⟨.int 5, rfl⟩

theorem le_of_asNat {lib : Validator} {bound n : Nat} {given : Value}
    (read : lib.asNat bound given = .ok n) : bound ≤ n := by
  obtain ⟨m, _, bounded⟩ := bind_eq_ok_iff.mp read
  split at bounded
  · cases bounded
  · obtain rfl := Except.ok.inj bounded
    omega

theorem isNormal_of_asPath {p : Path} {given : Value} (read : given.asPath = .ok (some p)) :
    p.IsNormal := by
  cases given with
  | path t | text t =>
    obtain rfl := Option.some.inj (Except.ok.inj read)
    exact Path.isNormal_ofText t
  | null => simp [Value.asPath] at read
  | bool _ | int _ | float _ | bytes _ | list _ | dict _ => cases read

/-- A text that pads a form of a value means the value. -/
theorem meaning?_of_isPadded (homes : Homes) {v : Setting} {a : v.type} (proper : v.IsProper a)
    (readable : v.IsReadable a) {t padded : Text} (form : v.IsForm a t)
    (padding : IsPadded t padded) : v.meaning? homes padded = some a := by
  obtain ⟨given, read⟩ := proper
  cases v with
  | level => exact named?_of_isPadded (by cases a <;> decide) (by cases a <;> decide) form padding
  | layout => exact named?_of_isPadded (by cases a <;> decide) (by cases a <;> decide) form padding
  | file =>
    obtain ⟨p, rfl, rfl⟩ := form
    obtain ⟨plain, trimmed, visible⟩ := readable p rfl
    have path : Path.ofText p.toText = p := 
      Path.ofText_toText (isNormal_of_asPath (mapError_eq_ok_iff.mp read))
    rw [meaning?, nonblank?, isBlank_of_isPadded padding, visible, if_neg Bool.false_ne_true,
      trim_of_isPadded padding, trimmed, Option.bind_some, path,
      Path.expandHome_of_not_tilde plain]
    rfl
  | includeStderr =>
    obtain ⟨word, spelled⟩ := truth?_of_truthSpellings form
    exact (truth?_of_isPadded word padding).trans spelled
  | maxBytes => exact natFrom?_of_isPadded (le_of_asNat read) readable form padding
  | backupCount => exact natFrom?_of_isPadded (le_of_asNat read) readable form padding

end Setting

/-! ## Settings that an environment carries -/

namespace Environment

/-- Whether an environment carries settings: each variable is set to a text that pads a form of its
    setting. Only the variable of the file is not set if there is no file. -/
def Carries (env : Environment) (s : Settings) : Prop :=
  ∀ v : Setting,
    (∃ t padded, env.get? v.var = some padded ∧ v.IsForm (s.get v) t ∧ IsPadded t padded) ∨
    (v = .file ∧ s.file = none ∧ env.get? v.var = none)

/-- An environment in which nothing is rejected has nothing to complain about. -/
theorem complaints_eq_nil (homes : Homes) {env : Environment} {check : Setting → Text → Bool}
    (accepted : ∀ v t, env.get? v.var = some t → check v t = false) (settings : List Setting) :
    env.complaints homes check settings = [] := by
  rw [List.eq_nil_iff_forall_not_mem]
  intro n member
  obtain ⟨v, _, t, given, rejected, _⟩ := (mem_complaints homes env).mp member
  rw [accepted v t given] at rejected
  cases rejected

end Environment

namespace Settings

/-- Whether settings can be built from named values. -/
def IsValid (s : Settings) : Prop := ∃ fields, ofFields fields = .ok s

theorem isProper_get {s : Settings} (valid : s.IsValid) (v : Setting) : v.IsProper (s.get v) := by
  obtain ⟨fields, built⟩ := valid
  rw [ofFields_eq_ite] at built
  split at built
  · obtain rfl := Except.ok.inj built
    rw [readable, get_ofEach]
    cases read : readIn .lax fields v with
    | error issue => exact v.isProper_default
    | ok a =>
      rw [readIn, readField] at read
      cases found : fields.find? (·.1 == text v.field) with
      | none =>
        rw [found] at read
        obtain rfl := Except.ok.inj read
        exact v.isProper_default
      | some field =>
        rw [found] at read
        exact ⟨field.2, read⟩
  · cases built

/-- Whether an environment means settings: each variable means its setting, or is not set and its
    setting has the default. -/
def AreMeant (homes : Homes) (env : Environment) (s : Settings) : Prop :=
  ∀ v : Setting,
    (∃ t, env.get? v.var = some t ∧ v.meaning? homes t = some (s.get v)) ∨
    (env.get? v.var = none ∧ s.get v = default v)

section Meant

variable {homes : Homes} {env : Environment} {s : Settings} (meant : AreMeant homes env s)
include meant

theorem AreMeant.setting (v : Setting) : env.setting homes v = s.get v := by
  rw [Environment.setting]
  rcases meant v with ⟨t, given, means⟩ | ⟨unset, isDefault⟩
  · rw [given, Option.bind_some, means, Option.getD_some]
  · rw [unset, isDefault]
    rfl

theorem AreMeant.accepted (v : Setting) (t : Text) (given : env.get? v.var = some t) :
    v.isRejected t = false := by
  rcases meant v with ⟨t', given', means⟩ | ⟨unset, _⟩
  · obtain rfl : t = t' := Option.some.inj (given.symm.trans given')
    by_contra rejected
    rw [Setting.meaning?_of_isRejected homes (by simpa using rejected)] at means
    cases means
  · rw [unset] at given
    cases given

/-- A home directory that is needed is known. -/
theorem AreMeant.exists_file : ∃ file, file? homes env = .ok file := by
  rw [file?_eq_match]
  rcases meant .file with ⟨t, given, means⟩ | ⟨unset, _⟩
  · rw [given, Option.bind_some]
    rw [Setting.meaning?] at means
    cases within : nonblank? t with
    | none => exact ⟨none, rfl⟩
    | some t =>
      rw [within, Option.bind_some] at means
      cases expanded : (Path.ofText t).expandHome homes with
      | error e =>
        rw [expanded] at means
        cases means
      | ok p => exact ⟨some p, by simp only [expanded, Except.map]⟩
  · rw [unset]
    exact ⟨none, rfl⟩

/-- Settings that are meant are loaded, without a warning. -/
theorem AreMeant.load_eq : load homes env = ⟨.ok s, []⟩ := by
  obtain ⟨file, found⟩ := meant.exists_file
  have each : ofEach (env.setting homes) = s := by
    rw [funext meant.setting]
    rfl
  have readable (v : Setting) (t : Text) (given : env.get? v.var = some t) :
      v.isUnreadable t = false := (Bool.or_eq_false_iff.mp (meant.accepted v t given)).1
  have possible (v : Setting) (t : Text) (given : env.get? v.var = some t) :
      v.isImproper t = false := (Bool.or_eq_false_iff.mp (meant.accepted v t given)).2
  rw [Settings.load_eq homes env found, each, Environment.complaints_eq_nil homes readable,
    Environment.complaints_eq_nil homes possible]
  rfl

end Meant

/-- Settings survive the environment. If their numbers have not too many digits, and if the path of
    the file, if there is one, is neither blank nor changed by trimming and does not begin with a
    tilde, then every environment that carries them gives them again, without a warning. -/
theorem load_of_carries (homes : Homes) {s : Settings} (valid : s.IsValid)
    (maxBytesFits : (natText s.maxBytes).length ≤ maxDigits)
    (backupCountFits : (natText s.backupCount).length ≤ maxDigits)
    (plainFile : ∀ p, s.file = some p →
      p.toText.head? ≠ some 0x7E ∧ p.toText.trim = p.toText ∧ isBlank (some p.toText) = false)
    {env : Environment} (carried : env.Carries s) : load homes env = ⟨.ok s, []⟩ := by
  have readable (v : Setting) : v.IsReadable (s.get v) := by
    cases v with
    | level | layout | includeStderr => trivial
    | file => exact plainFile
    | maxBytes => exact maxBytesFits
    | backupCount => exact backupCountFits
  refine AreMeant.load_eq fun v => ?_
  rcases carried v with ⟨t, padded, given, form, padding⟩ | ⟨rfl, noFile, unset⟩
  · exact .inl ⟨padded, given,
      Setting.meaning?_of_isPadded homes (isProper_get valid v) (readable v) form padding⟩
  · exact .inr ⟨unset, noFile⟩

/-- Settings that are all different from the defaults, in an environment that writes them with
    padding and in mixed letters. -/
theorem load_of_carries_all_set :
    let s : Settings :=
      { level := .debug, file := some (Path.ofText (text "/var/log/a b.log")), layout := .json,
        includeStderr := true, maxBytes := 1, backupCount := 0 }
    let env : Environment :=
      [(Setting.level.var, text "\t DeBug "), (Setting.file.var, text " /var/log/a b.log\t"),
        (Setting.layout.var, text "JSON"), (Setting.includeStderr.var, text "  yEs"),
        (Setting.maxBytes.var, text "1 "), (Setting.backupCount.var, text "\t0")]
    s.IsValid ∧ env.Carries s ∧ load oneUser env = ⟨.ok s, []⟩ := by
  intro s env
  have valid : s.IsValid := ⟨s.toFields, by decide +kernel⟩
  have padding (before t after : String)
      (spaces : ((text before ++ text after).all isPadding) = true) :
      IsPadded (text t) (text before ++ text t ++ text after) :=
    ⟨text before, text after, rfl,
      fun c member => List.all_eq_true.mp spaces c (List.mem_append_left _ member),
      fun c member => List.all_eq_true.mp spaces c (List.mem_append_right _ member)⟩
  have carried : env.Carries s := by
    intro v
    refine .inl ?_
    cases v with
    | level =>
      have form : (text "DeBug").map lowerAscii = text "debug" := by decide +kernel
      exact ⟨_, _, by decide +kernel, form, padding "\t " "DeBug" " " rfl⟩
    | file =>
      exact ⟨_, _, by decide +kernel, ⟨_, rfl, by decide +kernel⟩,
        padding " " "/var/log/a b.log" "\t" rfl⟩
    | layout =>
      have form : (text "JSON").map lowerAscii = text "json" := by decide +kernel
      exact ⟨_, _, by decide +kernel, form, padding "" "JSON" "" rfl⟩
    | includeStderr =>
      have form : (text "yEs").map lowerAscii ∈ truthSpellings true := by decide +kernel
      exact ⟨_, _, by decide +kernel, form, padding "  " "yEs" "" rfl⟩
    | maxBytes =>
      have form : text "1" = natText 1 := by decide +kernel
      exact ⟨_, _, by decide +kernel, form, padding "" "1" " " rfl⟩
    | backupCount =>
      have form : text "0" = natText 0 := by decide +kernel
      exact ⟨_, _, by decide +kernel, form, padding "\t" "0" "" rfl⟩
  refine ⟨valid, carried, load_of_carries oneUser valid ?_ ?_ ?_ carried⟩
  · decide +kernel
  · decide +kernel
  · rintro p found
    obtain rfl := Option.some.inj found
    decide +kernel

end Settings

end UnitText
