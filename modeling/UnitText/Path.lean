import UnitText.Text.Segments

/-!
# Paths

A path is a root and the names after it. Reading a text as a path drops empty names and the name
`.`, keeps `..`, and keeps two slashes at the front but not more. A path without a root whose first
name begins with a tilde can be expanded by the home directory of a user.
-/

namespace UnitText

/-- Where a path begins: at the working directory, or at a root written with one slash or two. -/
inductive Path.Root where
  | none
  | single
  | double
deriving DecidableEq, Repr

/-- A root and the names after it. -/
structure Path where
  root : Path.Root
  names : List Text
deriving DecidableEq, Repr

/-- Why a path cannot be used. -/
inductive Path.Error where
  /-- No home directory is known for the user that the path names. -/
  | homeUnknown
  /-- The path holds U+0000. -/
  | nullInPath
  /-- The code points from `first` up to `last`, of which the first one is given, are surrogates that
      have no form as bytes. -/
  | notEncodable (point : CodePoint) (first last : Nat)
deriving DecidableEq, Repr

/-- The home directories that are known. -/
structure Homes where
  /-- The home directory of the current user. -/
  own : Text
  /-- The names of other users, each with a home directory. -/
  others : List (Text × Text)

namespace Path

/-- The slash between names. -/
def slash : CodePoint := 0x2F

/-- The text of a root. -/
def Root.toText : Root → Text
  | .none => []
  | .single => [slash]
  | .double => [slash, slash]

/-- The root at the front of a text. -/
def rootOf (t : Text) : Root :=
  match (t.takeWhile (· == slash)).length with
  | 0 => .none
  | 2 => .double
  | _ => .single

/-- The names in a text, without empty ones and the name `.`. -/
def namesOf (t : Text) : List Text :=
  (segments (· == slash) t).filter fun name => !name.isEmpty && name != text "."

/-- Reads a text as a path. -/
def ofText (t : Text) : Path := ⟨rootOf t, namesOf t⟩

/-- The text of a path; the path without a root and names is `.`. -/
def toText (p : Path) : Text :=
  if p.root = .none ∧ p.names = [] then text "."
  else p.root.toText ++ Value.separated [slash] p.names

/-- The path without its last name. -/
def parent (p : Path) : Path := ⟨p.root, p.names.dropLast⟩

/-- Whether a code point has no form as bytes. Surrogates from U+DC80 to U+DCFF stand for bytes. -/
def isUnencodable (c : CodePoint) : Bool :=
  decide (0xD800 ≤ c.val) && decide (c.val ≤ 0xDFFF)
    && !(decide (0xDC80 ≤ c.val) && decide (c.val ≤ 0xDCFF))

/-- Checks that a text has a form as bytes without a zero byte. -/
def checkEncodable (t : Text) : Except Error Unit :=
  match t.find? isUnencodable with
  | some c =>
    let first := t.findIdx isUnencodable
    let run := (t.drop first).takeWhile fun c => decide (0xD800 ≤ c.val) && decide (c.val ≤ 0xDFFF)
    .error (.notEncodable c first (first + run.length - 1))
  | none => if t.contains 0 then .error .nullInPath else .ok ()

/-- The home directory of the user with a name; the empty name is the current user's. -/
def Homes.find (homes : Homes) (user : Text) : Except Error Text :=
  if user.isEmpty then .ok homes.own
  else do
    checkEncodable user
    match homes.others.find? (·.1 == user) with
    | some entry => .ok entry.2
    | none => .error .homeUnknown

/-- Replaces a tilde and a user's name at the front of a path by the home directory of that user. -/
def expandHome (homes : Homes) (p : Path) : Except Error Path :=
  match p.root, p.names with
  | .none, (c :: user) :: rest =>
    if c.val = 0x7E then do
      let home := ofText (← Homes.find homes user)
      return ⟨home.root, home.names ++ rest⟩
    else .ok p
  | _, _ => .ok p

/-- The wording of an error. -/
def Error.message : Error → Text
  | .homeUnknown => text "Could not determine home directory."
  | .nullInPath => text "embedded null byte"
  | .notEncodable c first last =>
    if first = last then
      text "'utf-8' codec can't encode character '\\u" ++ fixedHex 4 c.val ++ text "' in position "
        ++ natText first ++ text ": surrogates not allowed"
    else
      text "'utf-8' codec can't encode characters in position " ++ natText first ++ text "-"
        ++ natText last ++ text ": surrogates not allowed"

end Path

end UnitText
