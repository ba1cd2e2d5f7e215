import UnitText.Path

/-!
# The directory of a log

A `Disk` holds the directories and files below a working directory. Directories are made along a
path, a file is opened at its end, and files are renamed when they are replaced. An operation that
fails gives the cause and the path that it concerns.
-/

namespace UnitText

/-- Why an operation on files fails. -/
inductive DiskError.Cause where
  | notFound
  | exists
  | notDirectory
  | isDirectory
  | nameTooLong
deriving DecidableEq, Repr

/-- A failed operation on the file or directory with a path. -/
structure DiskError where
  cause : DiskError.Cause
  path : Text
deriving DecidableEq, Repr

namespace DiskError

/-- The number of a cause. -/
def number : Cause → Nat
  | .notFound => 2
  | .exists => 17
  | .notDirectory => 20
  | .isDirectory => 21
  | .nameTooLong => 36

/-- The wording of a cause. -/
def wording : Cause → String
  | .notFound => "No such file or directory"
  | .exists => "File exists"
  | .notDirectory => "Not a directory"
  | .isDirectory => "Is a directory"
  | .nameTooLong => "File name too long"

/-- The wording of an error. -/
def message (e : DiskError) : Text :=
  text "[Errno " ++ natText (number e.cause) ++ text "] " ++ text (wording e.cause) ++ text ": "
    ++ quoted e.path

end DiskError

/-- The number of bytes of a code point. -/
def CodePoint.byteCount (c : CodePoint) : Nat :=
  if c.val < 0x80 then 1
  else if c.val < 0x800 then 2
  else if 0xDC80 ≤ c.val ∧ c.val ≤ 0xDCFF then 1
  else if c.val < 0x10000 then 3
  else 4

/-- The number of bytes of a text. A surrogate from U+DC80 to U+DCFF stands for one byte. -/
def Text.byteCount (t : Text) : Nat := t.foldr (fun c n => c.byteCount + n) 0

/-- The names on the way from the working directory. Places outside begin with the name `/`, which no
    file has. -/
abbrev Place := List Text

/-- The path of a place, relative to the working directory. -/
def Place.toText (place : Place) : Text := Value.separated [Path.slash] place

/-- What there is at a place. -/
inductive DiskEntry where
  | directory
  | file (contents : Text)
deriving DecidableEq, Repr

/-- The directories and files below a working directory. -/
structure Disk where
  /-- The path of the working directory itself. -/
  label : Text
  entries : List (Place × DiskEntry)
deriving DecidableEq, Repr

namespace Disk

/-- What there is at a place. The working directory and the root are always there. -/
def get? (d : Disk) (place : Place) : Option DiskEntry :=
  if place = [] ∨ place = [[Path.slash]] then some .directory
  else (d.entries.find? (·.1 == place)).map (·.2)

/-- Puts an entry at a place. -/
def put (d : Disk) (place : Place) (entry : DiskEntry) : Disk :=
  { d with entries := putEntry (· == ·) d.entries place entry }

/-- Removes the entry at a place. -/
def erase (d : Disk) (place : Place) : Disk :=
  { d with entries := d.entries.filter fun e => e.1 != place }

/-- The contents of the file at a place; none if there is no file. -/
def contents (d : Disk) (place : Place) : Text :=
  match d.get? place with
  | some (.file t) => t
  | _ => []

/-- The greatest number of bytes of a name. -/
def maxNameBytes : Nat := 255

/-- The greatest number of bytes of a path. -/
def maxPathBytes : Nat := 4095

/-- Whether a name is too long. -/
def isTooLong (name : Text) : Bool := decide (maxNameBytes < name.byteCount)

/-- The name of the directory above. -/
def up : Text := text ".."

/-- The place where a path begins, and the names from there. -/
def start (d : Disk) (p : Path) : Place × List Text :=
  match p.root with
  | .none =>
    match p.names with
    | name :: rest => if name = d.label then ([], rest) else ([], name :: rest)
    | [] => ([], [])
  | _ => ([[Path.slash]], p.names)

/-- Follows names from a place. Every one but the last must lead to a directory that is there. -/
def walk (d : Disk) (place : Place) : List Text → Except DiskError.Cause Place
  | [] => .ok place
  | name :: rest =>
    if isTooLong name then .error .nameTooLong
    else
      let next := if name = up then place.dropLast else place ++ [name]
      if rest = [] then .ok next
      else
        match d.get? next with
        | some .directory => d.walk next rest
        | some (.file _) => .error .notDirectory
        | none => .error .notFound

/-- The place of a path, in which every name but the last leads to a directory. -/
def find (d : Disk) (p : Path) : Except DiskError.Cause Place :=
  if maxPathBytes < p.toText.byteCount then .error .nameTooLong
  else
    let (place, names) := d.start p
    d.walk place names

/-- Whether a path leads to a directory. -/
def isDirectory (d : Disk) (p : Path) : Bool :=
  match d.find p with
  | .ok place => d.get? place == some .directory
  | .error _ => false

/-- Makes the directory of a path. -/
def makeDirectory (d : Disk) (p : Path) : Except DiskError.Cause Disk :=
  match d.find p with
  | .error cause => .error cause
  | .ok place =>
    match d.get? place with
    | some _ => .error .exists
    | none => .ok (d.put place .directory)

/-- Makes the directory of a path, unless it is there. -/
def ensureDirectory (d : Disk) (p : Path) : Except DiskError Disk :=
  match d.makeDirectory p with
  | .ok d => .ok d
  | .error cause => if d.isDirectory p then .ok d else .error ⟨cause, p.toText⟩

/-- The path of the first `n` names. -/
def firstNames (p : Path) (n : Nat) : Path := { p with names := p.names.take n }

/-- Makes the directories of the first `n` names of a path, as far as they are not there. What has
    been made before an error stays. -/
def makeDirectories (d : Disk) (p : Path) : Nat → Disk × Option DiskError
  | 0 => (d, none)
  | n + 1 =>
    let path := firstNames p (n + 1)
    let attempt (d : Disk) : Disk × Option DiskError :=
      match d.ensureDirectory path with
      | .ok d => (d, none)
      | .error e => (d, some e)
    match d.makeDirectory path with
    | .error .notFound =>
      match d.makeDirectories p n with
      | (d, none) => attempt d
      | failed => failed
    | _ => attempt d

/-- The place of a path whose names are followed without looking at the disk. -/
def absolute (d : Disk) (p : Path) : Place :=
  let (place, names) := d.start p
  names.foldl (fun place name => if name = up then place.dropLast else place ++ [name]) place

/-- The path of a place, from the root. -/
def absoluteText (d : Disk) (place : Place) : Text :=
  match place with
  | [] => d.label
  | first :: rest =>
    if first = [Path.slash] then first ++ Place.toText rest
    else d.label ++ [Path.slash] ++ Place.toText place

/-- Opens the file at a place for appending, and makes it if it is not there. -/
def openFile (d : Disk) (place : Place) : Except DiskError Disk :=
  match d.get? place with
  | some .directory => .error ⟨.isDirectory, d.absoluteText place⟩
  | some (.file _) => .ok d
  | none =>
    if (place.getLast?.map isTooLong).getD false then .error ⟨.nameTooLong, d.absoluteText place⟩
    else .ok (d.put place (.file []))

/-- Appends to the file at a place. -/
def append (d : Disk) (place : Place) (t : Text) : Disk :=
  d.put place (.file (d.contents place ++ t))

/-- Removes the file at a place. Directories are not removed. -/
def removeFile (d : Disk) (place : Place) : Option Disk :=
  match d.get? place with
  | some .directory => none
  | _ => some (d.erase place)

/-- Gives an entry, with all that is below it, another name. -/
def rename (d : Disk) (source target : Place) : Option Disk :=
  if (target.getLast?.map isTooLong).getD false then none
  else
    some { d with
      entries := d.entries.map fun e =>
        if source.isPrefixOf e.1 then (target ++ e.1.drop source.length, e.2) else e }

/-- The path of an entry, relative to the working directory. -/
def entryText (e : Place × DiskEntry) : Text :=
  match e.2 with
  | .directory => Place.toText e.1 ++ [Path.slash]
  | .file _ => Place.toText e.1

/-- The entries below the working directory, in the order of their paths, each with the contents of
    the file. -/
def listing (d : Disk) : List (Text × Option Text) :=
  let inside := d.entries.filter fun e => e.1.head? != some [Path.slash]
  sortByName Prod.fst (inside.map fun e =>
    (entryText e, match e.2 with
      | .directory => none
      | .file t => some t))

end Disk

end UnitText
