import UnitText.Log.Disk
import UnitText.Proofs.CodeUnits
import UnitText.Proofs.Segments

/-!
# Paths and their texts

Reading a text as a path leaves a normal path, whose text reads back as the same path, and expanding
the home directory keeps it normal. Expanding fails only for a path that begins with the name of a
user of whom no home directory is known. Every text that an operation on files makes of a path is
made of what the path's own text and the working directory hold.
-/

namespace UnitText

theorem mem_separated {separator : Text} {parts : List Text} {c : CodePoint}
    (member : c ∈ Value.separated separator parts) : c ∈ separator ∨ ∃ part ∈ parts, c ∈ part := by
  induction parts with
  | nil => simp [Value.separated] at member
  | cons part rest ih =>
    cases rest with
    | nil =>
      rw [Value.separated] at member
      exact .inr ⟨part, List.mem_singleton_self part, by simpa using member⟩
    | cons next rest =>
      rw [separated_cons_cons, List.mem_append, List.mem_append] at member
      rcases member with (inPart | inSeparator) | later
      · exact .inr ⟨part, List.mem_cons_self .., inPart⟩
      · exact .inl inSeparator
      · rcases ih later with inSeparator | ⟨other, inRest, inside⟩
        · exact .inl inSeparator
        · exact .inr ⟨other, List.mem_cons_of_mem part inRest, inside⟩

theorem mem_separated_of_mem {separator part : Text} {parts : List Text} {c : CodePoint}
    (member : part ∈ parts) (inside : c ∈ part) : c ∈ Value.separated separator parts := by
  induction parts with
  | nil => cases member
  | cons first rest ih =>
    cases rest with
    | nil =>
      obtain rfl := List.mem_singleton.mp member
      simpa [Value.separated] using inside
    | cons next rest =>
      rw [separated_cons_cons, List.mem_append, List.mem_append]
      rcases List.mem_cons.mp member with rfl | later
      · exact .inl (.inl inside)
      · exact .inr (ih later)

namespace Path

/-! ## Normal paths -/

/-- Whether a name is as reading leaves it: not empty, not `.`, and without a slash. -/
def IsNormalName (name : Text) : Prop :=
  name ≠ [] ∧ name ≠ text "." ∧ ∀ c ∈ name, (c == slash) = false

/-- Whether all names of a path are as reading leaves them. -/
def IsNormal (p : Path) : Prop := ∀ name ∈ p.names, IsNormalName name

theorem isNormal_ofText (t : Text) : (ofText t).IsNormal := by
  intro name member
  rw [ofText, namesOf, List.mem_filter, Bool.and_eq_true] at member
  obtain ⟨segment, nonempty, other⟩ := member
  exact ⟨by simpa using nonempty, by simpa using other,
    not_isDelimiter_of_mem_segments segment⟩

theorem takeWhile_slash_separated {names : List Text} (normal : ∀ name ∈ names, IsNormalName name) :
    (Value.separated [slash] names).takeWhile (· == slash) = [] := by
  cases names with
  | nil => rfl
  | cons name rest =>
    obtain ⟨nonempty, _, clean⟩ := normal name (List.mem_cons_self ..)
    obtain ⟨c, others, rfl⟩ := List.exists_cons_of_ne_nil nonempty
    have first := clean c (List.mem_cons_self ..)
    cases rest with
    | nil => simp [Value.separated, first]
    | cons next rest => simp [separated_cons_cons, first]

theorem rootOf_append_separated (root : Root) {names : List Text}
    (normal : ∀ name ∈ names, IsNormalName name) :
    rootOf (root.toText ++ Value.separated [slash] names) = root := by
  have rest := takeWhile_slash_separated normal
  cases root with
  | none => rw [Root.toText, List.nil_append, rootOf, rest]; rfl
  | single => rw [Root.toText, List.singleton_append, rootOf, List.takeWhile_cons, rest]; rfl
  | double =>
    rw [Root.toText, List.cons_append, List.singleton_append, rootOf, List.takeWhile_cons,
      List.takeWhile_cons, rest]
    rfl

theorem namesOf_slash_cons (t : Text) : namesOf (slash :: t) = namesOf t := by
  rw [namesOf, segments, if_pos (by rfl), List.filter_cons]
  rfl

theorem namesOf_append_separated (root : Root) {names : List Text}
    (normal : ∀ name ∈ names, IsNormalName name) :
    namesOf (root.toText ++ Value.separated [slash] names) = names := by
  have kept : names.filter (fun name => !name.isEmpty && name != text ".") = names := by
    rw [List.filter_eq_self]
    intro name member
    obtain ⟨nonempty, other, _⟩ := normal name member
    simp [nonempty, other]
  have unrooted : namesOf (Value.separated [slash] names) = names := by
    cases names with
    | nil => rfl
    | cons name rest =>
      rw [namesOf, segments_separated rfl (List.cons_ne_nil name rest)
        fun part member => (normal part member).2.2, kept]
  cases root with
  | none => exact unrooted
  | single => rw [Root.toText, List.singleton_append, namesOf_slash_cons, unrooted]
  | double =>
    rw [Root.toText, List.cons_append, List.singleton_append, namesOf_slash_cons, namesOf_slash_cons,
      unrooted]

/-- The text of a normal path reads back as the path. -/
theorem ofText_toText {p : Path} (normal : p.IsNormal) : ofText p.toText = p := by
  obtain ⟨root, names⟩ := p
  unfold toText
  split
  · rename_i empty
    obtain ⟨rfl, rfl⟩ := empty
    rfl
  · rw [ofText, rootOf_append_separated root normal, namesOf_append_separated root normal]

/-! ## Home directories -/

/-- Whether a home directory is known of the user with a name; the empty name is the current
    user's. -/
def IsUserKnown (homes : Homes) (user : Text) : Prop :=
  user = [] ∨ (checkEncodable user = .ok () ∧ ∃ entry ∈ homes.others, entry.1 = user)

/-- Whether a path begins with the name of a user of whom no home directory is known. -/
def NamesUnknownUser (homes : Homes) (p : Path) : Prop :=
  p.root = .none ∧ ∃ user rest, p.names = (0x7E :: user) :: rest ∧ ¬ IsUserKnown homes user

theorem find_eq_error_iff {homes : Homes} {user : Text} :
    (∃ e, Homes.find homes user = .error e) ↔ ¬ IsUserKnown homes user := by
  unfold Homes.find IsUserKnown
  by_cases empty : user = []
  · simp [empty]
  · rw [if_neg (by simpa using empty)]
    cases encodable : checkEncodable user with
    | error e => simp [empty, bind, Except.bind]
    | ok _ =>
      cases found : homes.others.find? (·.1 == user) with
      | none =>
        have absent : ¬ ∃ entry ∈ homes.others, entry.1 = user := by
          rintro ⟨entry, member, named⟩
          have missed := List.find?_eq_none.mp found entry member
          simp [named] at missed
        simpa [empty, bind, Except.bind] using absent
      | some entry =>
        have named : entry.1 = user := by simpa using List.find?_some found
        have member := List.mem_of_find?_eq_some found
        simp only [bind, Except.bind, reduceCtorEq, exists_false, false_iff, not_not]
        exact .inr ⟨trivial, entry, member, named⟩

/-- A path that begins with a tilde is put below the home directory, if there is one, and any other
    path is kept. -/
theorem expandHome_cases (homes : Homes) (p : Path) :
    (∃ user rest, p.root = .none ∧ p.names = (0x7E :: user) :: rest ∧
      p.expandHome homes = (Homes.find homes user).map fun home =>
        ⟨(ofText home).root, (ofText home).names ++ rest⟩) ∨
    ((¬ ∃ user rest, p.root = .none ∧ p.names = (0x7E :: user) :: rest) ∧
      p.expandHome homes = .ok p) := by
  unfold expandHome
  split
  · rename_i c user rest noRoot names
    by_cases tilde : c = 0x7E
    · refine .inl ⟨user, rest, noRoot, by rw [names, tilde], ?_⟩
      rw [if_pos (by rw [tilde]; rfl)]
      cases Homes.find homes user <;> rfl
    · refine .inr ⟨?_, if_neg fun same => tilde (Fin.ext same)⟩
      rintro ⟨user', rest', _, names'⟩
      rw [names] at names'
      injection names' with first _
      injection first with first _
      exact tilde first
  · rename_i other
    refine .inr ⟨?_, rfl⟩
    rintro ⟨user, rest, noRoot, names⟩
    exact other _ _ _ noRoot names

/-- Expanding the home directory of a path fails exactly if the user is unknown. -/
theorem expandHome_eq_error_iff {homes : Homes} {p : Path} :
    (∃ e, p.expandHome homes = .error e) ↔ p.NamesUnknownUser homes := by
  rcases expandHome_cases homes p with ⟨user, rest, noRoot, names, expanded⟩ | ⟨plain, expanded⟩
  · have failed : (∃ e, p.expandHome homes = .error e) ↔ ¬ IsUserKnown homes user := by
      rw [expanded, ← find_eq_error_iff]
      cases Homes.find homes user <;> simp [Except.map]
    rw [failed]
    constructor
    · intro unknown
      exact ⟨noRoot, user, rest, names, unknown⟩
    · rintro ⟨_, user', rest', names', unknown⟩
      rw [names] at names'
      injection names' with first _
      injection first with _ same
      exact same ▸ unknown
  · rw [expanded]
    constructor
    · rintro ⟨e, failed⟩
      cases failed
    · rintro ⟨noRoot, user, rest, names, _⟩
      exact absurd ⟨user, rest, noRoot, names⟩ plain

theorem isNormal_expandHome {homes : Homes} {p q : Path} (normal : p.IsNormal)
    (expanded : p.expandHome homes = .ok q) : q.IsNormal := by
  rcases expandHome_cases homes p with ⟨user, rest, _, names, below⟩ | ⟨_, kept⟩
  · rw [below] at expanded
    cases known : Homes.find homes user with
    | error e =>
      rw [known] at expanded
      cases expanded
    | ok home =>
      rw [known] at expanded
      obtain rfl := Except.ok.inj expanded
      intro name member
      rcases List.mem_append.mp member with inHome | inRest
      · exact isNormal_ofText home name inHome
      · exact normal name (by rw [names]; exact List.mem_cons_of_mem _ inRest)
  · rw [kept] at expanded
    obtain rfl := Except.ok.inj expanded
    exact normal

/-! ## Texts that have a form as bytes -/

/-- Whether a text has a form as bytes without a zero byte. -/
def IsEncodable (t : Text) : Prop := ∀ c ∈ t, isUnencodable c = false ∧ c ≠ 0

theorem checkEncodable_eq_ok_iff {t : Text} : checkEncodable t = .ok () ↔ IsEncodable t := by
  unfold checkEncodable IsEncodable
  split
  · rename_i c found
    have bad : isUnencodable c = true := List.find?_some found
    have member := List.mem_of_find?_eq_some found
    constructor
    · intro passed
      cases passed
    · intro encodable
      rw [(encodable c member).1] at bad
      cases bad
  · rename_i none
    have encoded : ∀ c ∈ t, isUnencodable c = false := by simpa using none
    split
    · rename_i zero
      have member : (0 : CodePoint) ∈ t := by simpa using zero
      constructor
      · intro passed
        cases passed
      · intro encodable
        exact absurd rfl (encodable 0 member).2
    · rename_i nonzero
      refine ⟨fun _ c member => ⟨encoded c member, ?_⟩, fun _ => rfl⟩
      rintro rfl
      exact nonzero (by simpa using member)

@[simp] theorem isEncodable_append {s t : Text} :
    IsEncodable (s ++ t) ↔ IsEncodable s ∧ IsEncodable t := List.forall_mem_append

theorem isEncodable_slash : IsEncodable [slash] := by
  intro c member
  obtain rfl := List.mem_singleton.mp member
  exact ⟨rfl, by decide⟩

theorem isEncodable_separated_slash {parts : List Text} :
    IsEncodable (Value.separated [slash] parts) ↔ ∀ part ∈ parts, IsEncodable part := by
  constructor
  · intro encodable part member c inside
    exact encodable c (mem_separated_of_mem member inside)
  · intro encodable c member
    rcases mem_separated member with inSlash | ⟨part, inParts, inside⟩
    · exact isEncodable_slash c inSlash
    · exact encodable part inParts c inside

theorem isEncodable_toText {p : Path} : IsEncodable p.toText ↔ ∀ name ∈ p.names, IsEncodable name := by
  obtain ⟨root, names⟩ := p
  have rooted : IsEncodable root.toText := by
    cases root with
    | none => intro c member; cases member
    | single => exact isEncodable_slash
    | double => exact isEncodable_append.mpr ⟨isEncodable_slash, isEncodable_slash⟩
  unfold toText
  split
  · rename_i empty
    obtain ⟨rfl, rfl⟩ := empty
    have point : text "." = [0x2E] := by decide
    refine iff_of_true ?_ fun name member => absurd member List.not_mem_nil
    intro c member
    rw [point, List.mem_singleton] at member
    rw [member]
    exact ⟨rfl, by decide⟩
  · rw [isEncodable_append, isEncodable_separated_slash]
    exact and_iff_right rooted

theorem isEncodable_parent {p : Path} (encodable : IsEncodable p.toText) :
    IsEncodable p.parent.toText := by
  rw [isEncodable_toText] at encodable ⊢
  exact fun name member => encodable name (List.dropLast_subset _ member)

end Path

namespace Disk

/-! ## Places -/

theorem mem_start {d : Disk} {p : Path} {name : Text} :
    (name ∈ (d.start p).1 → name = [Path.slash]) ∧ (name ∈ (d.start p).2 → name ∈ p.names) := by
  unfold start
  split
  · split
    · rename_i names
      rw [names]
      split
      · exact ⟨fun member => absurd member List.not_mem_nil, List.mem_cons_of_mem _⟩
      · exact ⟨fun member => absurd member List.not_mem_nil, id⟩
    · exact ⟨fun member => absurd member List.not_mem_nil, fun member => absurd member List.not_mem_nil⟩
  · exact ⟨List.mem_singleton.mp, id⟩

/-- A place that is found without looking at the disk is made of names of the path. -/
theorem mem_absolute {d : Disk} {p : Path} {name : Text} (member : name ∈ d.absolute p) :
    name = [Path.slash] ∨ name ∈ p.names := by
  have walked : ∀ (names : List Text) (place : Place),
      name ∈ names.foldl (fun place next => if next = up then place.dropLast else place ++ [next]) place →
      name ∈ place ∨ name ∈ names := by
    intro names
    induction names with
    | nil => intro place found; exact .inl found
    | cons next rest ih =>
      intro place found
      rcases ih _ found with inPlace | inRest
      · simp only at inPlace
        split at inPlace
        · exact .inl (List.dropLast_subset _ inPlace)
        · rcases List.mem_append.mp inPlace with before | last
          · exact .inl before
          · exact .inr (List.mem_singleton.mp last ▸ List.mem_cons_self ..)
      · exact .inr (List.mem_cons_of_mem next inRest)
  rcases walked _ _ member with atStart | onTheWay
  · exact .inl (mem_start.1 atStart)
  · exact .inr (mem_start.2 onTheWay)

/-- The text of a place from the root has a form as bytes if the working directory and the path
    have one. -/
theorem isEncodable_absoluteText {d : Disk} {p : Path} (directory : Path.IsEncodable d.label)
    (encodable : Path.IsEncodable p.toText) : Path.IsEncodable (d.absoluteText (d.absolute p)) := by
  have names : ∀ name ∈ d.absolute p, Path.IsEncodable name := by
    intro name member
    rcases mem_absolute member with rfl | inPath
    · exact Path.isEncodable_slash
    · exact Path.isEncodable_toText.mp encodable name inPath
  unfold absoluteText
  split
  · exact directory
  · rename_i first rest place
    rw [place] at names
    split
    · rw [Path.isEncodable_append, Place.toText, Path.isEncodable_separated_slash]
      exact List.forall_mem_cons.mp names
    · rw [Path.isEncodable_append, Path.isEncodable_append, Place.toText, place,
        Path.isEncodable_separated_slash]
      exact ⟨⟨directory, Path.isEncodable_slash⟩, names⟩

theorem label_ensureDirectory {d d' : Disk} {p : Path} (made : d.ensureDirectory p = .ok d') :
    d'.label = d.label := by
  unfold ensureDirectory makeDirectory at made
  split at made
  · rename_i d₁ attempt
    obtain rfl := Except.ok.inj made
    split at attempt
    · cases attempt
    · split at attempt
      · cases attempt
      · obtain rfl := Except.ok.inj attempt
        rfl
  · split at made
    · obtain rfl := Except.ok.inj made
      rfl
    · cases made

theorem label_makeDirectories (d : Disk) (p : Path) (n : Nat) :
    (d.makeDirectories p n).1.label = d.label := by
  induction n with
  | zero => rfl
  | succ n ih =>
    rw [makeDirectories]
    simp only
    split
    · split
      · rename_i d₁ above
        have kept : d₁.label = d.label := by rw [← ih, above]
        split
        · exact (label_ensureDirectory ‹_›).trans kept
        · exact kept
      · exact ih
    · split
      · exact label_ensureDirectory ‹_›
      · rfl

end Disk

end UnitText
