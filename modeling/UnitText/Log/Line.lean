import UnitText.Log.Record
import UnitText.Text.Escape

/-!
# Records as text

A record is written in one of two layouts. In a text line the message is escaped, so that it stays
on one line; what is known about an exception follows on lines of its own (`EscapingFormatter`). The
line is that of a copy of the record, whose message is the escaped one and has no arguments, so that
nothing is filled in twice. A JSON line is one object whose members have a fixed order
(`JSONFormatter`).
-/

namespace UnitText

/-- A part of a text line. -/
inductive LinePart where
  | literal (t : Text)
  | time
  | name
  | level
  | message
deriving DecidableEq, Repr

/-- The parts of a text line, in order. -/
abbrev LineStyle := List LinePart

namespace LineStyle

/-- The message alone. -/
def bare : LineStyle := [.message]

/-- Level, log and message between bars. -/
def short : LineStyle := [.level, .literal (text "|"), .name, .literal (text "|"), .message]

/-- Time, log, level and message between dashes. -/
def full : LineStyle :=
  [.time, .literal (text " - "), .name, .literal (text " - "), .level, .literal (text " - "),
   .message]

end LineStyle

/-- Why a record cannot be written. -/
inductive FormatError where
  | template (error : Template.Error)
  | yearOutOfRange (year : Int)
  | json (error : JsonError)
deriving DecidableEq, Repr

namespace FormatError

/-- The family of an error. -/
def family : FormatError → Template.Family
  | .template e => e.family
  | .yearOutOfRange _ => .value
  | .json (.key _) => .kind
  | .json .longNumeral => .value

/-- The wording of an error. -/
def message : FormatError → Text
  | .template e => e.message
  | .yearOutOfRange y => text "year " ++ intText y ++ text " is out of range"
  | .json (.key kind) => text "keys must be str, int, float, bool or None, not " ++ text kind
  | .json .longNumeral => longNumeralMessage

end FormatError

namespace Record

/-- Adds a text on lines of its own, unless it is empty. -/
def addLines (line added : Text) : Text :=
  if added.isEmpty then line
  else if line.getLast? = some 0x0A then line ++ added
  else line ++ [0x0A] ++ added

/-- The text of the exception that a text line ends with. -/
def exceptionLines (r : Record) : Text :=
  match r.exceptionText with
  | some (c :: rest) => c :: rest
  | _ => (r.reported.map ReportedException.toText).getD []

/-- The escaped message, with the name of the argument that a reported exception is about. -/
def lineMessage (r : Record) (message : Text) : Text :=
  match r.argument? with
  | some argument =>
    message.escapeMessage ++ UnitText.text " [argument=" ++ argument ++ UnitText.text "]"
  | none => message.escapeMessage

/-- The copy of a record that has the escaped message in place of its own. -/
def escaped (r : Record) (message : Text) : Record :=
  { r with message := .text (r.lineMessage message), arguments := [] }

/-- Whether the value that a part of a text line shows can be written. -/
def canShow (r : Record) : LinePart → Bool
  | .name => r.name.isWritable
  | .level => r.levelName.isWritable
  | _ => true

/-- One part of a text line. -/
def linePart (r : Record) (message : Text) : LinePart → Text
  | .literal t => t
  | .time => r.moment.lineText
  | .name => r.name.display
  | .level => r.levelName.display
  | .message => message

/-- A message in a style, with the exception and the stack after it. -/
def withLines (r : Record) (style : LineStyle) (message : Text) : Text :=
  addLines (addLines (style.flatMap (r.linePart message)) r.exceptionLines) (r.stackText.getD [])

/-- A record in a style, with its message as it is filled in. -/
def format (r : Record) (style : LineStyle) : Except FormatError Text :=
  match r.text with
  | .error e => .error (.template e)
  | .ok message =>
    if style.all r.canShow then .ok (r.withLines style message) else .error (.template .longNumeral)

/-- A record as a text line. -/
def toLine (r : Record) (style : LineStyle) : Except FormatError Text :=
  match r.text with
  | .error e => .error (.template e)
  | .ok message => (r.escaped message).format style

/-- A record as it is written where no layout is set: the message as it stands. -/
def toPlain (r : Record) : Except FormatError Text := r.format .bare

/-- A member of an object, if there is a value for it. -/
def member? {α : Type} (name : String) (toValue : α → Value) : Option α → List (Value × Value)
  | some a => [(.text (UnitText.text name), toValue a)]
  | none => []

/-- The attached data as an object, if there is any. -/
def contextObject? (r : Record) : Option Value :=
  if r.context.isEmpty then none else some (.dict (r.context.map fun a => (.text a.1, a.2)))

/-- The members of a JSON line. -/
def members (r : Record) (time message : Text) : List (Value × Value) :=
  [(.text (UnitText.text "timestamp"), .text time),
   (.text (UnitText.text "level"), r.levelName),
   (.text (UnitText.text "logger"), r.name),
   (.text (UnitText.text "message"), .text message)]
    ++ member? "argument" .text r.argument?
    ++ member? "context" id r.contextObject?
    ++ member? "exception" (fun e => .text (ReportedException.toText e)) r.reported

/-- A record as a JSON line. -/
def toJsonLine (r : Record) : Except FormatError Text :=
  match r.moment.isoText with
  | .error year => .error (.yearOutOfRange year)
  | .ok time =>
    match r.text with
    | .error e => .error (.template e)
    | .ok message => (Value.toJson (.dict (r.members time message))).mapError .json

end Record

/-- A record in a layout. -/
def Layout.line (layout : Layout) (r : Record) : Except FormatError Text :=
  match layout with
  | .text => r.toLine .full
  | .json => r.toJsonLine

end UnitText
