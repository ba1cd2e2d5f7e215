import UnitText.Comparison
import UnitText.Text.Escape
import UnitText.Text.Segments

/-!
# Requests

A `Request` is an operation on texts with the arguments as a caller gives them, some of which may be
missing. `Request.run` checks the arguments in a fixed order and then answers; whatever it refuses,
it refuses by a `Request.Failure`. Apart from arguments that are rejected, these are two limits: the
copies of one code point are counted in a machine word, and an integer with too many digits is not
written, neither in an answer nor in a rejection.
-/

namespace UnitText

/-- An end of a text. -/
inductive Side where
  | left
  | right
deriving DecidableEq, Repr

/-- An operation with its arguments. -/
inductive Request where
  | units (value : Text)
  | ofUnits (numbers : List Int)
  | unitLength (value : Text)
  | hasSupplementary (value : Text)
  | slice (value : Text) (start stop : Option Int)
  | isAbsentOrEmpty (value : Option Text)
  | isBlank (value : Option Text)
  | spellsTrue (value : Option Text)
  | spellsFalse (value : Option Text)
  | equals (a b : Option Text) (choice : Comparison.Choice)
  | compare (a b : Option Text) (choice : Comparison.Choice)
  | hash (value : Option Text)
  | hashIgnoreCase (value : Option Text)
  | matchesAt (value : Option Text) (offset : Option Int) (comparand : Option Text)
      (comparandOffset length : Option Int) (choice : Comparison.Choice)
  | hasAffix (side : Side) (value affix : Option Text) (comparison : Comparison)
  | removeAffix (side : Side) (trimming : Bool) (value affix : Option Text)
      (comparison : Comparison)
  | dropMembers (side : Side) (trimming : Bool) (value : Option Text)
      (members : Option (List Text))
  | trim (value : Option Text)
  | trimSide (side : Side) (value : Option Text)
  | pad (side : Side) (value : Option Text) (width : Option Int)
  | fill (unit : Value) (length : Option Int)
  | byteEstimate (value : Option Text)
  | escapeSingle (unit : Value) (quote : Bool)
  | escape (value : Option Text) (quote : Bool)
  | escapeMessage (value : Text)
  | joinWritten (separator : Option Text) (entries : Option (List Value))
  | joinPlaced (separator : Option Text) (entries : List (Option Text))
  | concatEntries (entries : Option (List Value))
  | concatTexts (entries : List (Option Text))
  | split (value : Option Text) (delimiters : Option (List Value)) (dropEmpty : Bool)

/-- What an operation answers. -/
inductive Answer where
  | text (value : Text)
  | flag (value : Bool)
  | number (value : Int)
  | texts (values : List Text)
  | units (values : List CodeUnit)
deriving DecidableEq, Repr

/-- Why an operation gives no answer. -/
inductive Request.Failure where
  | rejected (rejection : Rejection)
  | notUnit (error : Text.UnitRangeError)
  /-- There are to be more copies than a machine word counts. -/
  | tooManyCopies
  /-- An integer that is to be written has too many digits. -/
  | longNumeral

/-- The wording of a failure. -/
def Request.Failure.message : Request.Failure → Text
  | .rejected r => r.message
  | .notUnit _ => []
  | .tooManyCopies => text "cannot fit 'int' into an index-sized integer"
  | .longNumeral => longNumeralMessage

/-- Whether part of a text matches part of another, for arguments that a caller gives. -/
def textMatchesAt (value : Option Text) (offset : Option Int) (comparand : Option Text)
    (comparandOffset length : Option Int) (choice : Comparison.Choice) : Except Rejection Bool := do
  let a ← required (text "value") value
  let b ← required (text "comparand") comparand
  let i ← requiredNat (text "offset") offset
  let j ← requiredNat (text "comparand_offset") comparandOffset
  let n ← requiredNat (text "length") length
  let m ← choice.resolve
  return m.comparator.matchesAt a.units i b.units j n

/-- Whether a text has an affix, for arguments that a caller gives. At the right the affix is checked
    before the text. -/
def textHasAffix (side : Side) (value affix : Option Text) (m : Comparison) :
    Except Rejection Bool :=
  match side with
  | .left => do
    let t ← required (text "value") value
    let p ← required (text "prefix") affix
    return t.hasPrefix p m
  | .right => do
    let s ← required (text "suffix") affix
    let t ← required (text "value") value
    return t.hasSuffix s m

namespace Side

/-- Removes an affix at this end, with or without trimming around it. -/
def removeAffix (side : Side) (trimming : Bool) (t : Text) (affix : Option Text)
    (m : Comparison) : Text :=
  match side, trimming with
  | .left, false => t.removeLeft affix m
  | .left, true => t.trimRemoveLeft affix m
  | .right, false => t.removeRight affix m
  | .right, true => t.trimRemoveRight affix m

/-- Removes the run of members at this end, with or without trimming around it. -/
def dropMembers (side : Side) (trimming : Bool) (t : Text) (members : List Text) : Text :=
  match side, trimming with
  | .left, false => t.dropMembers members
  | .left, true => t.trimDropMembers members
  | .right, false => t.dropMembersRight members
  | .right, true => t.trimDropMembersRight members

/-- Trims this end. -/
def trim (side : Side) (t : Text) : Text :=
  match side with
  | .left => t.trimLeft
  | .right => t.trimRight

/-- Fills up at this end. -/
def pad (side : Side) (t : Text) (width : Nat) : Text :=
  match side with
  | .left => t.padLeft width
  | .right => t.padRight width

end Side

namespace Request

/-- The failure that reports a rejection, which needs a wording. -/
def Failure.ofRejection (r : Rejection) : Failure :=
  if r.isWritable then .rejected r else .longNumeral

/-- The outcome of an operation that can only reject its arguments. -/
def outcome {α : Type} (answer : α → Answer) (r : Except Rejection α) : Except Failure Answer :=
  (r.map answer).mapError .ofRejection

/-- The most copies that a machine word counts. -/
def maxCopies : Nat := 0x7FFFFFFFFFFFFFFF

/-- Checks that a number of copies can be made. -/
def checkCopies (count : Nat) : Except Failure Unit :=
  if maxCopies < count then .error .tooManyCopies else .ok ()

/-- Checks that values can be written as text. -/
def checkWritable (values : List Value) : Except Failure Unit :=
  if Value.allWritable values then .ok () else .error .longNumeral

/-- The answer to a request. -/
def run : Request → Except Failure Answer
  | .units value => .ok (.units value.units)
  | .ofUnits numbers => ((Text.ofUnitValues numbers).map .text).mapError .notUnit
  | .unitLength value => .ok (.number value.unitLength)
  | .hasSupplementary value => .ok (.flag value.hasSupplementary)
  | .slice value start stop => .ok (.text (value.sliceUnits start stop))
  | .isAbsentOrEmpty value => .ok (.flag (UnitText.isAbsentOrEmpty value))
  | .isBlank value => .ok (.flag (UnitText.isBlank value))
  | .spellsTrue value => .ok (.flag (UnitText.spellsTrue value))
  | .spellsFalse value => .ok (.flag (UnitText.spellsFalse value))
  | .equals a b choice => outcome .flag (textEquals a b choice)
  | .compare a b choice => outcome .number (textCompare a b choice)
  | .hash value => .ok (.number (value.getD []).hash)
  | .hashIgnoreCase value => .ok (.number (value.getD []).hashIgnoreCase)
  | .matchesAt value offset comparand comparandOffset length choice =>
    outcome .flag (textMatchesAt value offset comparand comparandOffset length choice)
  | .hasAffix side value affix m => outcome .flag (textHasAffix side value affix m)
  | .removeAffix side trimming value affix m => outcome .text do
    let t ← required (text "value") value
    return side.removeAffix trimming t affix m
  | .dropMembers side trimming value members => outcome .text do
    let t ← required (text "value") value
    let ms ← required (text "remove_chars") members
    return side.dropMembers trimming t ms
  | .trim value => outcome .text do return (← required (text "value") value).trim
  | .trimSide side value => outcome .text do return side.trim (← required (text "value") value)
  | .pad side value width => do
    let t ← (required (text "value") value).mapError .ofRejection
    let w ← (requiredNat (text "width") width).mapError .ofRejection
    checkCopies (w - t.unitLength)
    return .text (side.pad t w)
  | .fill unit length => do
    let u ← (requiredUnit (text "ch") unit).mapError .ofRejection
    let n ← (requiredNat (text "length") length).mapError .ofRejection
    checkCopies n
    return .text (List.replicate n u.toCodePoint)
  | .byteEstimate value => outcome (fun n : Nat => .number n) do
    return (← required (text "value") value).byteEstimate
  | .escapeSingle unit quote => outcome .text do
    return UnitText.escapeSingle (← requiredUnit (text "ch") unit) quote
  | .escape value quote => outcome .text do
    return (← required (text "value") value).escape quote
  | .escapeMessage value => .ok (.text value.escapeMessage)
  | .joinWritten separator entries => do
    let vs ← (required (text "values") entries).mapError .ofRejection
    checkWritable vs
    return .text (UnitText.joinWritten separator vs)
  | .joinPlaced separator entries => .ok (.text (UnitText.joinPlaced separator entries))
  | .concatEntries entries => do
    let vs ← (required (text "values") entries).mapError .ofRejection
    checkWritable vs
    return .text (UnitText.concatEntries vs)
  | .concatTexts entries => .ok (.text (UnitText.concatTexts entries))
  | .split value delimiters dropEmpty => outcome .texts (splitAt value delimiters dropEmpty)

/-- Runs steps one after the other on a current text. A text that a step answers becomes the current
    text; any other outcome leaves it. -/
def pipeline (current : Text) : List (Text → Request) → List (Except Failure Answer)
  | [] => []
  | step :: rest =>
    let outcome := (step current).run
    let next := match outcome with
      | .ok (.text t) => t
      | _ => current
    outcome :: pipeline next rest

end Request

end UnitText
