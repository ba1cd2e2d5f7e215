import UnitText.Log.Disk
import UnitText.Log.Line

/-!
# The logger and its files

A line is appended to a log file unless the file would reach its greatest size; then the file is put
aside first and a new one begun (`RotatingFileHandler`). Files put aside are numbered, the newest with
one, and at most a given number of them is kept. With none to keep, the file just grows.
-/

namespace UnitText

/-- A log file: where it is, when it is put aside, and whether it is open. -/
structure FileSink where
  place : Place
  maxBytes : Nat
  backupCount : Nat
  isOpen : Bool
deriving DecidableEq, Repr

namespace FileSink

/-- The place of a file that has been put aside. -/
def backup (place : Place) (n : Nat) : Place :=
  place.dropLast ++ [(place.getLast?.getD []) ++ text "." ++ natText n]

/-- Moves a file, if it is there, in place of another one. -/
def shift (d : Disk) (source target : Place) : Option Disk :=
  match d.get? source with
  | none => some d
  | some _ => do (← d.removeFile target).rename source target

/-- Moves the files that have been put aside, from number `n` down, to the number after their own.
    What has been moved before a failure stays. -/
def shiftBackups (place : Place) : Nat → Disk → Disk × Bool
  | 0, d => (d, true)
  | n + 1, d =>
    match shift d (backup place (n + 1)) (backup place (n + 2)) with
    | some d => shiftBackups place n d
    | none => (d, false)

/-- Puts the file aside. -/
def putAside (s : FileSink) (d : Disk) : Disk × Bool :=
  match s.backupCount with
  | 0 => (d, true)
  | n + 1 =>
    match shiftBackups s.place n d with
    | (d, false) => (d, false)
    | (d, true) =>
      match d.removeFile (backup s.place 1) with
      | none => (d, false)
      | some d =>
        match shift d s.place (backup s.place 1) with
        | some d => (d, true)
        | none => (d, false)

/-- Opens the file if it is closed. -/
def reopen (s : FileSink) (d : Disk) : Disk × FileSink :=
  if s.isOpen then (d, s)
  else
    match d.openFile s.place with
    | .ok d => (d, { s with isOpen := true })
    | .error _ => (d, s)

/-- Puts the file aside and begins a new one. -/
def rollOver (s : FileSink) (d : Disk) : Disk × FileSink :=
  let (d, done) := s.putAside d
  let closed := { s with isOpen := false }
  if done then closed.reopen d else (d, closed)

/-- Whether a line of `length` code points would bring the file to its greatest size. -/
def isFull (s : FileSink) (d : Disk) (length : Nat) : Bool :=
  decide (s.maxBytes ≤ (d.contents s.place).byteCount + length)

/-- Appends a line, if the file is open and the line can be encoded. -/
def append (s : FileSink) (d : Disk) (line : Text) : Disk :=
  if s.isOpen && !line.any (fun c => isSurrogate c.val) then d.append s.place line else d

/-- Writes a record in a layout. A record that cannot be written is dropped. -/
def write (s : FileSink) (d : Disk) (layout : Layout) (r : Record) : Disk × FileSink :=
  let (d, s) := s.reopen d
  if !s.isOpen then (d, s)
  else
    match layout.line r with
    | .error _ => (d, s)
    | .ok t =>
      let line := t ++ [0x0A]
      if s.isFull d line.length then
        let (d, s) := s.rollOver d
        (s.append d line, s)
      else (s.append d line, s)

end FileSink

/-!
## The logger of the package

The logger has handlers, each of which writes a record in its layout to a file or to the error
stream; an application may have attached handlers of other kinds, its guests. Setting the logger up
closes all that it has (`_close_handlers`) and attaches new handlers (`configure_logging`). If the file
cannot be opened the error stream takes its place, with a warning; a path that makes no sense is an
error, and leaves the logger without handlers.
-/

/-- Where a handler writes. -/
inductive Sink where
  | file (sink : FileSink)
  | stderr
deriving DecidableEq, Repr

/-- A place to write to and the layout of the lines. -/
structure Handler where
  sink : Sink
  layout : Layout
deriving DecidableEq, Repr

namespace Handler

/-- Closes the file of a handler. The error stream stays as it is. -/
def close (h : Handler) : Handler :=
  match h.sink with
  | .file s => { h with sink := .file { s with isOpen := false } }
  | .stderr => h

/-- Whether a handler holds a file open. -/
def holdsFile (h : Handler) : Bool :=
  match h.sink with
  | .file s => s.isOpen
  | .stderr => false

end Handler

/-- A handler of another kind, of which nothing is known but whether it holds a file open. -/
structure Guest where
  holdsFile : Bool
deriving DecidableEq, Repr

/-- Closes a handler of another kind. -/
def Guest.close (_ : Guest) : Guest := ⟨false⟩

/-- The logger of the package. -/
structure Logger where
  /-- The least weight of the records that are handled, or zero if it has not been set. -/
  threshold : Int := 0
  /-- Whether records are passed on beyond the package. -/
  propagate : Bool := true
  handlers : List Handler := []
  /-- The handlers that were attached before. -/
  retired : List Handler := []
  guests : List Guest := []
  /-- The handlers of other kinds that were attached before. -/
  dismissed : List Guest := []
deriving DecidableEq, Repr

namespace Logger

/-- Closes and detaches all handlers, and sets the threshold. -/
def reset (l : Logger) (threshold : Int) : Logger where
  threshold := threshold
  propagate := false
  handlers := []
  retired := l.retired ++ l.handlers.map Handler.close
  guests := []
  dismissed := l.dismissed ++ l.guests.map Guest.close

/-- Attaches a handler after the others. -/
def attach (l : Logger) (h : Handler) : Logger := { l with handlers := l.handlers ++ [h] }

/-- The number of files that are held open. -/
def openFiles (l : Logger) : Nat :=
  (l.handlers ++ l.retired).countP Handler.holdsFile
    + (l.guests ++ l.dismissed).countP Guest.holdsFile

end Logger

/-- A record on its way: the log that it is for, and its weight. -/
structure Event where
  source : Text
  weight : Int
  record : Record

namespace Event

/-- The threshold where none is set, and of what is written when there is no handler. -/
def defaultThreshold : Int := Level.warning.weight

/-- Whether a log belongs to the package. -/
def isOwn (source : Text) : Bool :=
  source == packageName || (packageName ++ text ".").isPrefixOf source

/-- The threshold of a log. -/
def threshold (l : Logger) (source : Text) : Int :=
  if isOwn source ∧ l.threshold ≠ 0 then l.threshold else defaultThreshold

/-- Whether a record is heavy enough to be handled. -/
def isEnabled (e : Event) (l : Logger) : Bool :=
  decide (0 < e.weight) && decide (threshold l e.source ≤ e.weight)

/-- The handlers of a log. -/
def handlers (l : Logger) (source : Text) : List Handler := if isOwn source then l.handlers else []

/-- Whether a log has handlers of other kinds. -/
def hasGuests (l : Logger) (source : Text) : Bool := isOwn source && !l.guests.isEmpty

/-- A record of a notice. -/
def ofNotice (now : Moment) (n : Notice) : Event where
  source := n.source
  weight := n.level.weight
  record := {
    name := .text n.source
    levelName := .text (weightName n.level.weight)
    message := .text n.message
    arguments := []
    moment := now
    reported := none
    exceptionText := none
    stackText := none
    attributes := n.attributes }

end Event

/-- The logger and what it writes to. -/
structure LogState where
  logger : Logger := {}
  disk : Disk
  /-- What has been written to the error stream. -/
  stderr : Text := []
  homes : Homes

namespace LogState

/-- Writes a line to the error stream, if there is one. -/
def writeError (w : LogState) (line : Except FormatError Text) : LogState :=
  match line with
  | .ok t => { w with stderr := w.stderr ++ t ++ [0x0A] }
  | .error _ => w

/-- Lets each handler write a record, and gives the handlers as they are then. -/
def handleAll (r : Record) : LogState → List Handler → LogState × List Handler
  | w, [] => (w, [])
  | w, h :: rest =>
    match h.sink with
    | .stderr =>
      let (w, rest) := handleAll r (w.writeError (h.layout.line r)) rest
      (w, h :: rest)
    | .file s =>
      let (disk, s) := s.write w.disk h.layout r
      let (w, rest) := handleAll r { w with disk } rest
      (w, { h with sink := .file s } :: rest)

/-- Handles a record. Without any handler a record that is heavy enough goes to the error stream as it
    stands. What guests write is not told. -/
def handle (w : LogState) (e : Event) : LogState :=
  if !e.isEnabled w.logger then w
  else
    match Event.handlers w.logger e.source with
    | [] =>
      if Event.hasGuests w.logger e.source then w
      else if Event.defaultThreshold ≤ e.weight then w.writeError e.record.toPlain
      else w
    | handlers =>
      let (w, handlers) := handleAll e.record w handlers
      { w with logger := { w.logger with handlers } }

/-- Handles notices one after the other. -/
def report (w : LogState) (now : Moment) (notices : List Notice) : LogState :=
  notices.foldl (fun w n => w.handle (.ofNotice now n)) w

/-- Attaches a handler. -/
def attach (w : LogState) (h : Handler) : LogState := { w with logger := w.logger.attach h }

/-- Why a log file cannot be opened. -/
inductive OpenError where
  | path (error : Path.Error)
  /-- The directories above the file cannot be made or the file cannot be opened, for a reason. -/
  | disk (reason : Text)

/-- What comes of opening a log file: the disk as it is then, and the place of the file. -/
abbrev Opening := Disk × Except OpenError Place

/-- Opens the log file of a path: expands the path, makes the directories above the file, and opens
    it. -/
def openLog (homes : Homes) (d : Disk) (path : Path) : Opening :=
  match path.expandHome homes with
  | .error e => (d, .error (.path e))
  | .ok path =>
    match Path.checkEncodable path.parent.toText with
    | .error e => (d, .error (.path e))
    | .ok () =>
      match d.makeDirectories path.parent path.parent.names.length with
      | (d, some e) => (d, .error (.disk e.message))
      | (d, none) =>
        let place := d.absolute path
        match Path.checkEncodable (d.absoluteText place) with
        | .error e => (d, .error (.path e))
        | .ok () =>
          match d.openFile place with
          | .error e => (d, .error (.disk e.message))
          | .ok d => (d, .ok place)

/-- The warning that a log file cannot be opened. -/
def cannotOpen (path : Path) (reason : Text) : Notice where
  level := .warning
  source := packageName
  message := text "Could not open log file " ++ path.toText ++ text ": " ++ reason
  attributes := [(text "log_file", .text path.toText)]

/-- Sets up the logger at a moment. The log file, if there is to be one, is opened by `opening`. -/
def configureWith (opening : Homes → Disk → Path → Opening) (w : LogState) (now : Moment)
    (s : Settings) : LogState × Except Path.Error Unit :=
  let w := { w with logger := w.logger.reset s.level.weight }
  let stderr : Handler := ⟨.stderr, s.layout⟩
  match s.file with
  | none => (w.attach stderr, .ok ())
  | some path =>
    match opening w.homes w.disk path with
    | (disk, .error (.path e)) => ({ w with disk }, .error e)
    | (disk, .error (.disk reason)) =>
      let w := LogState.attach { w with disk } stderr
      (w.report now [cannotOpen path reason], .ok ())
    | (disk, .ok place) =>
      let file : Handler := ⟨.file ⟨place, s.maxBytes, s.backupCount, true⟩, s.layout⟩
      let w := LogState.attach { w with disk } file
      (if s.includeStderr then w.attach stderr else w, .ok ())

/-- Sets up the logger at a moment. -/
def configure (w : LogState) (now : Moment) (s : Settings) : LogState × Except Path.Error Unit :=
  w.configureWith openLog now s

end LogState

end UnitText
