import UnitText.Argument

/-!
# Splitting and joining

A text is cut at every code point that is a delimiter (`split`). Segments of length zero are dropped
unless asked for; the empty text has no segments at all.
-/

namespace UnitText

/-- The segments between the delimiters; there is one more segment than there are delimiters. -/
def segments (isDelimiter : CodePoint → Bool) : Text → List Text
  | [] => [[]]
  | c :: rest =>
    if isDelimiter c then [] :: segments isDelimiter rest
    else
      match segments isDelimiter rest with
      | [] => [[c]]
      | first :: others => (c :: first) :: others

/-- Cuts a text at the delimiters. -/
def Text.split (t : Text) (delimiters : List CodeUnit) (dropEmpty : Bool) : List Text :=
  if t.isEmpty then []
  else
    let all := segments (fun c => delimiters.any fun d => d.val == c.val) t
    if dropEmpty then all.filter (fun s => !s.isEmpty) else all

/-- The delimiters that a caller gives; each must be a text of one code unit. -/
def requiredDelimiters (delimiters : Option (List Value)) : Except Rejection (List CodeUnit) := do
  (← required (text "delimiters") delimiters).mapM (requiredUnit (text "delimiters"))

/-- Cuts a text at the delimiters that a caller gives. They are checked even if there is no text to
    cut. -/
def splitAt (value : Option Text) (delimiters : Option (List Value)) (dropEmpty : Bool) :
    Except Rejection (List Text) := do
  let ds ← requiredDelimiters delimiters
  return (value.getD []).split ds dropEmpty

/-!
## Joining

Entries that are absent are left out. `joinWritten` puts the separator between two entries that are
both written (`join`, `concat`); `joinPlaced` puts it before every written entry but one at the first
position (`join_values`, `concat_values`), so an absent first entry leaves a leading separator.
-/

/-- The separator that is written, which is empty if none is given. -/
def separatorText (separator : Option Text) : Text := separator.getD []

/-- The text of an entry, unless it is absent. -/
def Value.entry? : Value → Option Text
  | .null => none
  | v => some v.display

/-- Joins the entries that are there, with a separator between each two. -/
def joinWritten (separator : Option Text) (entries : List Value) : Text :=
  Value.separated (separatorText separator) (entries.filterMap Value.entry?)

/-- Each entry that is there, after the separator. -/
def joinAfter (separator : Option Text) : List (Option Text) → Text
  | [] => []
  | none :: rest => joinAfter separator rest
  | some t :: rest => separatorText separator ++ t ++ joinAfter separator rest

/-- Joins the entries that are there, each after the separator unless it has the first position. -/
def joinPlaced (separator : Option Text) : List (Option Text) → Text
  | [] => []
  | first :: rest => first.getD [] ++ joinAfter separator rest

/-- The entries that are there, without separators. -/
def concatEntries (entries : List Value) : Text := joinWritten none entries

/-- The texts that are there, without separators. -/
def concatTexts (entries : List (Option Text)) : Text := joinPlaced none entries

end UnitText
