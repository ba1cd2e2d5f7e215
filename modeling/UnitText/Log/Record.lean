import UnitText.Settings.Basic
import UnitText.Template.Fill

/-!
# Moments and records

A moment is counted in microseconds from the beginning of 1970 and is kept as the nearest binary
number of seconds. It is written in two ways: to the second for people, and to the microsecond for
machines. Dates are those of the Gregorian calendar, in both directions without end.
-/

namespace UnitText

/-- A date of the Gregorian calendar. -/
structure CalendarDate where
  year : Int
  month : Nat
  day : Nat
deriving DecidableEq, Repr

/-- The days from the first of March of the year 0 to the beginning of 1970. -/
def daysBeforeEpoch : Int := 719468

/-- The date of a day, counted from the beginning of 1970. Years are taken to begin in March, so that
    the leap day is the last day of a year, and of a cycle of 400 years. -/
def CalendarDate.ofDay (day : Int) : CalendarDate :=
  let shifted := day + daysBeforeEpoch
  let cycle := Int.fdiv shifted 146097
  let dayOfCycle := (shifted - cycle * 146097).toNat
  let yearOfCycle :=
    (dayOfCycle - dayOfCycle / 1460 + dayOfCycle / 36524 - dayOfCycle / 146096) / 365
  let dayOfYear := dayOfCycle - (365 * yearOfCycle + yearOfCycle / 4 - yearOfCycle / 100)
  let monthFromMarch := (5 * dayOfYear + 2) / 153
  let month := if monthFromMarch < 10 then monthFromMarch + 3 else monthFromMarch - 9
  { year := yearOfCycle + cycle * 400 + (if month ≤ 2 then 1 else 0)
    month
    day := dayOfYear - (153 * monthFromMarch + 2) / 5 + 1 }

/-- A moment, as a number of seconds. -/
structure Moment where
  seconds : Binary64
deriving DecidableEq, Repr

namespace Moment

/-- The moment after a number of microseconds. -/
def ofMicroseconds (n : Int) : Moment := ⟨Binary64.ofRatio (decide (n < 0)) n.natAbs 1000000⟩

/-- The last full second. -/
def wholeSeconds (m : Moment) : Int := m.seconds.floor?.getD 0

/-- The nearest microsecond, a tie to the even one. -/
def microseconds (m : Moment) : Int :=
  match m.seconds with
  | .finite negative significand exponent =>
    let (n, d) := Binary64.magnitude significand exponent
    let rounded : Nat := roundDiv (n * 1000000) d
    if negative then -(rounded : Int) else rounded
  | _ => 0

/-- A natural number with at least `width` digits. -/
def padded (width n : Nat) : Text := fillLeft 0x30 width (natText n)

/-- Hours, minutes and seconds of a second of a day. -/
def clockText (second : Nat) : Text :=
  padded 2 (second / 3600) ++ text ":" ++ padded 2 (second / 60 % 60) ++ text ":"
    ++ padded 2 (second % 60)

/-- A month and a day, each after a dash, and the time of the day. -/
def afterYear (date : CalendarDate) (second : Nat) : Text :=
  text "-" ++ padded 2 date.month ++ text "-" ++ padded 2 date.day ++ text "T" ++ clockText second

/-- The day of a second, and the second of that day. -/
def splitDay (seconds : Int) : Int × Nat :=
  (Int.fdiv seconds 86400, (Int.fmod seconds 86400).toNat)

/-- A moment to the second, with the offset from universal time. -/
def lineText (m : Moment) : Text :=
  let (day, second) := splitDay m.wholeSeconds
  let date := CalendarDate.ofDay day
  intText date.year ++ afterYear date second ++ text "+0000"

/-- A moment to the microsecond; a full second has no decimals. Only years of at most four digits can
    be written, and any other year is given back. -/
def isoText (m : Moment) : Except Int Text :=
  let micros := m.microseconds
  let (day, second) := splitDay (Int.fdiv micros 1000000)
  let fraction := (Int.fmod micros 1000000).toNat
  let date := CalendarDate.ofDay day
  if date.year < 1 ∨ 9999 < date.year then .error date.year
  else
    .ok (padded 4 date.year.toNat ++ afterYear date second
      ++ (if fraction = 0 then [] else text "." ++ padded 6 fraction) ++ text "+00:00")

end Moment

/-!
## Records

A record is what is logged at one moment: a message with its arguments, where it comes from and how
much it weighs, and perhaps an exception. Attributes may be attached to it. An attribute with the
name of a part of the record does not count as attached data (`record_context`); some of them replace
that part. The argument that an exception is about is kept apart from its text (`invalid_argument`).
-/

/-- A report of an exception: the argument that it is about, if it is the rejection of one, and its
    text with all that has been traced of it. The text names at least the class of the exception. -/
structure ReportedException where
  argument? : Option Text
  toText : Text
  nonempty : toText ≠ []
deriving DecidableEq, Repr

namespace ReportedException

/-- The name of an exception's class and the text of the exception, if it is not empty. -/
def describe (className : String) (message : Text) : Text :=
  if message.isEmpty then text className else text className ++ text ": " ++ message

theorem describe_ne_nil {className : String} (named : text className ≠ []) (message : Text) :
    describe className message ≠ [] := by
  rw [describe]
  split
  · exact named
  · intro empty
    exact named (List.append_eq_nil_iff.mp (List.append_eq_nil_iff.mp empty).1).1

/-- The report that there is no exception. -/
def nothing : ReportedException where
  argument? := none
  toText := text "NoneType: None"
  nonempty := by decide

/-- The report of a rejected argument, without a trace. -/
def argument (e : ArgumentError) : ReportedException where
  argument? := some e.argument
  toText := describe "ordtext.exceptions.InvalidArgumentError" e.message
  nonempty := describe_ne_nil (by decide) _

/-- The report of a value that cannot be used, without a trace. -/
def value (message : Option Text) : ReportedException where
  argument? := none
  toText := describe "ValueError" (message.getD [])
  nonempty := describe_ne_nil (by decide) _

/-- The report of a failure at run time, without a trace. -/
def runtime (message : Option Text) : ReportedException where
  argument? := none
  toText := describe "RuntimeError" (message.getD [])
  nonempty := describe_ne_nil (by decide) _

/-- The report of a key that is not there, without a trace. -/
def key (k : Option Text) : ReportedException where
  argument? := none
  toText := describe "KeyError" ((k.map quoted).getD [])
  nonempty := describe_ne_nil (by decide) _

end ReportedException

/-- What is logged at one moment. -/
structure Record where
  /-- The name of the log, a text unless an attribute has replaced it. -/
  name : Value
  /-- The name of the weight, a text unless an attribute has replaced it. -/
  levelName : Value
  message : Value
  arguments : List Value
  moment : Moment
  reported : Option ReportedException
  /-- The text of the exception, if it has been made before. -/
  exceptionText : Option Text
  stackText : Option Text
  /-- The attached data, in the order of attachment. -/
  attributes : List (Text × Value)

namespace Record

/-- The names of the parts of a record. -/
def partNames : List Text :=
  ["name", "msg", "args", "levelname", "levelno", "pathname", "filename", "module", "exc_info",
   "exc_text", "stack_info", "lineno", "funcName", "created", "msecs", "relativeCreated", "thread",
   "threadName", "processName", "process", "message", "asctime"].map text

/-- The text in a value, if it is one. -/
def textIn? : Value → Option Text
  | .text t => some t
  | _ => none

/-- Whether a value counts as nothing: it is absent, false, zero or empty. -/
def isNothing : Value → Bool
  | .null => true
  | .bool b => !b
  | .int n => n == 0
  | .float x => x.sameValue (.zero false)
  | .text t => t.isEmpty
  | .bytes bs => bs.isEmpty
  | .path _ => false
  | .list items => items.isEmpty
  | .dict entries => entries.isEmpty

/-- The moment after a number of seconds. -/
def momentIn? : Value → Option Moment
  | .int n =>
    match Binary64.ofInt n with
    | .finite s m e => some ⟨.finite s m e⟩
    | _ => none
  | .float (.finite s m e) => some ⟨.finite s m e⟩
  | _ => none

/-- Attaches an attribute. In place of the arguments a value stands for one argument or for none, in
    place of the moment a number of seconds for another moment, and in place of the reported exception
    what counts as nothing for none. Values of other kinds make no sense in these three places. -/
def attach (r : Record) (name : Text) (value : Value) : Record :=
  if partNames.contains name then
    if name = text "name" then { r with name := value }
    else if name = text "levelname" then { r with levelName := value }
    else if name = text "msg" then { r with message := value }
    else if name = text "args" then { r with arguments := if isNothing value then [] else [value] }
    else if name = text "created" then { r with moment := (momentIn? value).getD r.moment }
    else if name = text "exc_info" then
      { r with reported := if isNothing value then none else r.reported }
    else if name = text "exc_text" then { r with exceptionText := textIn? value }
    else if name = text "stack_info" then { r with stackText := textIn? value }
    else r
  else { r with attributes := putEntry (· == ·) r.attributes name value }

/-- Attaches attributes one after the other. -/
def attachAll (r : Record) (attributes : List (Text × Value)) : Record :=
  attributes.foldl (fun r a => r.attach a.1 a.2) r

/-- The message with its arguments filled in. -/
def text (r : Record) : Except Template.Error Text := do
  let template ← Template.ifWritable r.message r.message.display
  Template.fill template r.arguments

/-- The argument that a reported exception is about. -/
def argument? (r : Record) : Option Text := r.reported.bind ReportedException.argument?

/-- Whether an attribute is private to whoever attached it. -/
def isPrivate (name : Text) : Bool := name.head? == some 0x5F

/-- The attached data that readers of the log see. -/
def context (r : Record) : List (Text × Value) :=
  r.attributes.filter fun a => !isPrivate a.1

end Record

end UnitText
