import UnitText.Log.Logger
import UnitText.Request
import UnitText.Settings.Load

/-!
# Sessions

A session is a sequence of steps on one logger and one directory. The logger is set up by settings
given by name (`configure_logging` of a `LoggingConfig`) or by the environment (`setup_logging`). The
clock starts at a fixed moment and advances by a second with every step.
-/

namespace UnitText.Session

/-- A step of a session. -/
inductive Step where
  /-- Sets up the logger by settings given by name. -/
  | configure (fields : List (Text × Value))
  /-- Sets up the logger by the environment. -/
  | setup (env : Environment)
  /-- Logs a message. -/
  | log (source : Text) (weight : Int) (message : Value) (arguments : List Value)
      (attributes : List (Text × Value)) (reported : Option ReportedException)
  /-- Runs a request, whose rejected argument is logged. -/
  | call (request : Request)
  | makeDirectory (path : Path)
  | writeFile (path : Path) (contents : Text)

/-- What comes of a step. -/
inductive Outcome where
  | done
  | configured
  | settings (s : Settings)
  | answer (result : Except Request.Failure Answer)
  | refused (errors : List FieldError)
  | badPath (error : Path.Error)
  | badDisk (error : DiskError)
  /-- An attribute has the name of a part of the record. -/
  | overwrites (name : Text)

/-- The seconds at the beginning of a session. -/
def startSeconds : Int := 1700000000

/-- The moment of a step. -/
def moment (index : Nat) : Moment := .ofMicroseconds ((startSeconds + index) * 1000000)

/-- The name of a log; without one it is the log that all others are below. -/
def sourceName (source : Text) : Text := if source.isEmpty then text "root" else source

/-- The record of a message that is logged. -/
def eventOf (now : Moment) (source : Text) (weight : Int) (message : Value) (arguments : List Value)
    (attributes : List (Text × Value)) (reported : Option ReportedException) : Event where
  source := source
  weight := weight
  record := Record.attachAll {
    name := .text (sourceName source)
    levelName := .text (weightName weight)
    message
    arguments
    moment := now
    reported
    exceptionText := none
    stackText := none
    attributes := [] } attributes

/-- Logs a message, unless an attribute has the name of a part of the record. Nothing is looked at if
    the record is not heavy enough. -/
def logMessage (w : LogState) (e : Event) (attributes : List (Text × Value)) : LogState × Outcome :=
  if !e.isEnabled w.logger then (w, .done)
  else
    match attributes.find? fun a => Record.partNames.contains a.1 with
    | some a => (w, .overwrites a.1)
    | none => (w.handle e, .done)

/-- The notices that come with the outcome of a request. -/
def noticesOf : Except Request.Failure Answer → List Notice
  | .error (.rejected r) => r.notice?.toList
  | _ => []

/-- Sets up the logger by settings. -/
def configureBy (w : LogState) (now : Moment) (s : Settings) (outcome : Outcome) :
    LogState × Outcome :=
  match w.configure now s with
  | (w, .ok ()) => (w, outcome)
  | (w, .error e) => (w, .badPath e)

/-- Makes the directories of a path. -/
def ensureDirectories (w : LogState) (path : Path) : LogState × Option DiskError :=
  let (disk, error) := w.disk.makeDirectories path path.names.length
  ({ w with disk }, error)

/-- Writes a file, with the directories above it. -/
def writeFile (w : LogState) (path : Path) (contents : Text) : LogState × Outcome :=
  match ensureDirectories w path.parent with
  | (w, some e) => (w, .badDisk e)
  | (w, none) =>
    let place := w.disk.absolute path
    match w.disk.openFile place with
    | .error e => (w, .badDisk e)
    | .ok disk => ({ w with disk := disk.put place (.file contents) }, .done)

/-- Carries out a step at a moment. -/
def step (w : LogState) (now : Moment) : Step → LogState × Outcome
  | .configure fields =>
    match Settings.ofFields fields with
    | .error errors => (w, .refused errors)
    | .ok s => configureBy w now s .configured
  | .setup env =>
    let loaded := Settings.load w.homes env
    let w := w.report now loaded.notices
    match loaded.value with
    | .error (.path e) => (w, .badPath e)
    | .error (.refused errors) => (w, .refused errors)
    | .ok s => configureBy w now s (.settings s)
  | .log source weight message arguments attributes reported =>
    logMessage w (eventOf now source weight message arguments attributes reported) attributes
  | .call request =>
    let result := request.run
    (w.report now (noticesOf result), .answer result)
  | .makeDirectory path =>
    match ensureDirectories w path with
    | (w, some e) => (w, .badDisk e)
    | (w, none) => (w, .done)
  | .writeFile path contents => writeFile w path contents

/-- Carries out steps from the one with an index on. Each outcome comes with the state after it, in
    which the error stream holds what that step has written. -/
def runFrom (w : LogState) (index : Nat) : List Step → List (Outcome × LogState)
  | [] => []
  | s :: rest =>
    let (w, outcome) := step { w with stderr := [] } (moment index) s
    (outcome, w) :: runFrom w (index + 1) rest

/-- Carries out a session in an empty directory with a path. -/
def run (directory : Text) (users : List (Text × Text)) (steps : List Step) :
    List (Outcome × LogState) :=
  runFrom { disk := ⟨directory, []⟩, homes := ⟨directory, users⟩ } 0 steps

end UnitText.Session
