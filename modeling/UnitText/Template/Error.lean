import UnitText.Value

/-!
# What can be wrong with a template

A template and its arguments may not fit together. Each way in which they do not is an `Error`, with
its wording and the family it belongs to.
-/

namespace UnitText.Template

/-- Why a template cannot be filled. -/
inductive Error where
  | noMapping
  | unclosedKey
  | missingKey (key : Text)
  | tooFewArguments
  | tooManyArguments
  | amountNotInteger
  | widthArgumentTooLarge
  | precisionArgumentTooLarge
  | widthTooLarge
  | precisionTooLarge
  | incomplete
  | unknownConversion (c : CodePoint) (position : Nat)
  | notReal (conversion : CodePoint) (kind : String)
  | notInteger (conversion : CodePoint) (kind : String)
  | notFloat (kind : String)
  | notCharacter
  | characterOutOfRange
  | integerOfNan
  | integerOfInfinity
  | floatOverflow
  /-- An integer that has too many digits to be written. -/
  | longNumeral
  | outOfMemory
deriving DecidableEq, Repr

/-- What kind of mistake an error is. -/
inductive Family where
  /-- A value of the wrong kind. -/
  | kind
  /-- A value that is of the right kind and cannot be used. -/
  | value
  /-- A number that is out of range. -/
  | range
  /-- A key that is not there. -/
  | key
  /-- A result that is too large to be built. -/
  | memory
deriving DecidableEq, Repr

namespace Error

/-- The family of an error. -/
def family : Error → Family
  | .noMapping | .tooFewArguments | .tooManyArguments | .amountNotInteger | .notReal .. |
    .notInteger .. | .notFloat _ | .notCharacter => .kind
  | .unclosedKey | .widthTooLarge | .precisionTooLarge | .incomplete | .unknownConversion .. |
    .integerOfNan | .longNumeral => .value
  | .widthArgumentTooLarge | .precisionArgumentTooLarge | .characterOutOfRange |
    .integerOfInfinity | .floatOverflow => .range
  | .missingKey _ => .key
  | .outOfMemory => .memory

/-- The wording of an error. -/
def message : Error → Text
  | .noMapping => text "format requires a mapping"
  | .unclosedKey => text "incomplete format key"
  | .missingKey key => quoted key
  | .tooFewArguments => text "not enough arguments for format string"
  | .tooManyArguments => text "not all arguments converted during string formatting"
  | .amountNotInteger => text "* wants int"
  | .widthArgumentTooLarge => text "Python int too large to convert to C ssize_t"
  | .precisionArgumentTooLarge => text "Python int too large to convert to C int"
  | .widthTooLarge => text "width too big"
  | .precisionTooLarge => text "precision too big"
  | .incomplete => text "incomplete format"
  | .unknownConversion c position =>
    text "unsupported format character '" ++ [if 31 ≤ c.val ∧ c.val ≤ 126 then c else 0x3F]
      ++ text "' (0x" ++ inBase 16 c.val ++ text ") at index " ++ natText position
  | .notReal c kind =>
    text "%" ++ [c] ++ text " format: a real number is required, not " ++ text kind
  | .notInteger c kind =>
    text "%" ++ [c] ++ text " format: an integer is required, not " ++ text kind
  | .notFloat kind => text "must be real number, not " ++ text kind
  | .notCharacter => text "%c requires int or char"
  | .characterOutOfRange => text "%c arg not in range(0x110000)"
  | .integerOfNan => text "cannot convert float NaN to integer"
  | .integerOfInfinity => text "cannot convert float infinity to integer"
  | .floatOverflow => text "int too large to convert to float"
  | .longNumeral => longNumeralMessage
  | .outOfMemory => []

end Error

end UnitText.Template
