import UnitText.Argument
import UnitText.Path

/-!
# Levels, settings and notices

The weight of a log record is a number. Four of the weights are levels that a log can be set to; a
few more have a name of their own. The settings say what is logged, in which form, and where
(`LoggingConfig`).
-/

namespace UnitText

/-- A level that a log can be set to. -/
inductive Level where
  | debug
  | info
  | warning
  | error
deriving DecidableEq, Repr

namespace Level

/-- All levels, by the order of their names. -/
def all : List Level := [.debug, .error, .info, .warning]

/-- The name of a level as a setting. -/
def name : Level → String
  | .debug => "debug"
  | .info => "info"
  | .warning => "warning"
  | .error => "error"

/-- The weight of a level. -/
def weight : Level → Int
  | .debug => 10
  | .info => 20
  | .warning => 30
  | .error => 40

end Level

/-- The name of a weight. -/
def weightName (w : Int) : Text :=
  if w = 0 then text "NOTSET"
  else if w = 10 then text "DEBUG"
  else if w = 20 then text "INFO"
  else if w = 30 then text "WARNING"
  else if w = 40 then text "ERROR"
  else if w = 50 then text "CRITICAL"
  else text "Level " ++ intText w

/-!
## Settings of the log

What is logged, in which form, and where.
-/

/-- The form of a log line. -/
inductive Layout where
  | text
  | json
deriving DecidableEq, Repr

namespace Layout

/-- All layouts, by the order of their names. -/
def all : List Layout := [.json, .text]

/-- The name of a layout as a setting. -/
def name : Layout → String
  | .text => "text"
  | .json => "json"

end Layout

/-- The settings of a log. Without a file it is written to the error stream alone. -/
structure Settings where
  level : Level := .info
  file : Option Path := none
  layout : Layout := .text
  /-- Whether the error stream is written to beside a file. -/
  includeStderr : Bool := false
  /-- The size from which the file is replaced by a new one. -/
  maxBytes : Nat := 10485760
  /-- The number of replaced files that are kept. -/
  backupCount : Nat := 5
deriving DecidableEq, Repr

/-!
## Notices

What the library itself has to report while it works: arguments that it rejects and settings that it
cannot use. A notice has its final wording; the attributes attached to it are for readers of the log
that keep data apart from the wording.
-/

/-- A report of the library about its own work. -/
structure Notice where
  level : Level
  /-- The part of the library that reports. -/
  source : Text
  message : Text
  attributes : List (Text × Value)

/-- The name of the package, under which all of its parts report. -/
def packageName : Text := text "ordtext"

/-- The notice about an argument that the checks reject. -/
def Rejection.notice? (r : Rejection) : Option Notice :=
  if r.isLogged then
    some {
      level := .debug
      source := packageName ++ text ".core.validation"
      message := text "Rejected argument " ++ r.argument ++ text ": " ++ r.message
      attributes := [(text "argument", .text r.argument)] }
  else none

/-- A warning that a part of the configuration cannot be used. -/
def Notice.warning (part message : Text) : Notice where
  level := .warning
  source := packageName ++ text ".config." ++ part
  message := message
  attributes := []

end UnitText
