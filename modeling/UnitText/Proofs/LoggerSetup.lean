import UnitText.Log.Logger
import UnitText.Proofs.LogLines
import UnitText.Proofs.Paths

/-!
# Setting up the logger

Whatever handlers the logger has, a call that sets it up closes and detaches them, tries the log file
and attaches the handlers that the settings ask for. `configureWith_eq` says what a call does for
every outcome of opening the file. If the file cannot be opened the error stream takes its place and gets a
warning. Only a path that makes no sense ends a call early, and then no handler is left.
-/

namespace UnitText

/-! ## Handlers and their files -/

theorem Handler.holdsFile_close (h : Handler) : h.close.holdsFile = false := by
  obtain ⟨sink, layout⟩ := h
  cases sink <;> rfl

/-- The handlers that settings ask for, if the log file is at a place: one for the file, and one for
    the error stream if it is asked for or there is no file. -/
def Settings.handlers (s : Settings) : Option Place → List Handler
  | some place =>
    ⟨.file ⟨place, s.maxBytes, s.backupCount, true⟩, s.layout⟩ ::
      (if s.includeStderr then [⟨.stderr, s.layout⟩] else [])
  | none => [⟨.stderr, s.layout⟩]

theorem Settings.handlers_ne_nil (s : Settings) (place? : Option Place) : s.handlers place? ≠ [] := by
  cases place? <;> exact List.cons_ne_nil _ _

theorem Settings.layout_of_mem_handlers {s : Settings} {place? : Option Place} {h : Handler}
    (member : h ∈ s.handlers place?) : h.layout = s.layout := by
  cases place? with
  | none => rw [List.mem_singleton.mp member]
  | some place =>
    rcases List.mem_cons.mp member with rfl | rest
    · rfl
    · split at rest
      · rw [List.mem_singleton.mp rest]
      · cases rest

theorem Settings.countP_holdsFile_handlers (s : Settings) (place? : Option Place) :
    (s.handlers place?).countP Handler.holdsFile = if place?.isSome then 1 else 0 := by
  cases place? with
  | none => rfl
  | some place =>
    rw [handlers, List.countP_cons_of_pos rfl]
    split <;> rfl

namespace Logger

/-- The logger set up by settings, with its log file at a place. -/
def setUp (l : Logger) (s : Settings) (place? : Option Place) : Logger :=
  { l.reset s.level.weight with handlers := s.handlers place? }

/-- No handler that has been detached holds a file open. -/
structure IsTidy (l : Logger) : Prop where
  retired : ∀ h ∈ l.retired, h.holdsFile = false
  dismissed : ∀ g ∈ l.dismissed, g.holdsFile = false

variable {l : Logger}

/-- The files of a tidy logger are those of the handlers that are attached. -/
theorem IsTidy.openFiles_eq (tidy : l.IsTidy) : l.openFiles =
    l.handlers.countP Handler.holdsFile + l.guests.countP Guest.holdsFile := by
  have retired : l.retired.countP Handler.holdsFile = 0 :=
    List.countP_eq_zero.mpr fun h member => by simp [tidy.retired h member]
  have dismissed : l.dismissed.countP Guest.holdsFile = 0 :=
    List.countP_eq_zero.mpr fun g member => by simp [tidy.dismissed g member]
  rw [openFiles, List.countP_append, List.countP_append, retired, dismissed]
  rfl

theorem IsTidy.reset (tidy : l.IsTidy) (threshold : Int) : (l.reset threshold).IsTidy where
  retired h member := by
    rcases List.mem_append.mp member with before | now
    · exact tidy.retired h before
    · obtain ⟨attached, _, rfl⟩ := List.mem_map.mp now
      exact attached.holdsFile_close
  dismissed g member := by
    rcases List.mem_append.mp member with before | now
    · exact tidy.dismissed g before
    · obtain ⟨attached, _, rfl⟩ := List.mem_map.mp now
      rfl

theorem IsTidy.setUp (tidy : l.IsTidy) (s : Settings) (place? : Option Place) :
    (l.setUp s place?).IsTidy where
  retired := (tidy.reset s.level.weight).retired
  dismissed := (tidy.reset s.level.weight).dismissed

/-- While the log file is being opened, no file is held open. -/
theorem openFiles_reset (tidy : l.IsTidy) (threshold : Int) : (l.reset threshold).openFiles = 0 :=
  (tidy.reset threshold).openFiles_eq

theorem openFiles_setUp_le (tidy : l.IsTidy) (s : Settings) (place? : Option Place) :
    (l.setUp s place?).openFiles ≤ 1 := by
  have attached := s.countP_holdsFile_handlers place?
  rw [(tidy.setUp s place?).openFiles_eq]
  change (s.handlers place?).countP Handler.holdsFile + 0 ≤ 1
  split at attached <;> omega

end Logger

/-! ## The warning -/

/-- A JSON object with named members, each of which is written already. -/
def jsonObject (members : List (String × Text)) : Text :=
  text "\x7b"
    ++ Value.separated (text ", ") (members.map fun m => jsonString (text m.1) ++ text ": " ++ m.2)
    ++ text "\x7d"

/-- The line of the warning that a log file cannot be opened. A moment whose year does not have four
    digits cannot be written in JSON. -/
def warningLine? (layout : Layout) (now : Moment) (path : Path) (reason : Text) : Option Text :=
  let message := text "Could not open log file " ++ path.toText ++ text ": " ++ reason
  match layout with
  | .text => some (now.lineText ++ text " - ordtext - WARNING - " ++ message.escapeMessage)
  | .json =>
    now.isoText.toOption.map fun time =>
      jsonObject
        [("timestamp", jsonString time), ("level", jsonString (text "WARNING")),
         ("logger", jsonString (text "ordtext")), ("message", jsonString message),
         ("context", jsonObject [("log_file", jsonString path.toText)])]

/-- Without a trace there is nothing on a line but the parts of its style. -/
theorem Record.withLines_of_isPlain {r : Record} (plain : r.IsPlain) (style : LineStyle)
    (message : Text) : r.withLines style message = style.flatMap (r.linePart message) := by
  rw [withLines, exceptionLines_of_isPlain plain, plain.stackText]
  rfl

theorem Record.toJsonLine_of_isoText_error {r : Record} {year : Int}
    (timeless : r.moment.isoText = .error year) : r.toJsonLine = .error (.yearOutOfRange year) := by
  rw [toJsonLine, timeless]

theorem Record.toJsonLine_of_isoText_ok {r : Record} {time message : Text}
    (timed : r.moment.isoText = .ok time) (filled : r.text = .ok message) :
    r.toJsonLine = (Value.toJson (.dict (r.members time message))).mapError .json := by
  rw [toJsonLine, timed]
  simp only [filled]

namespace Event

variable (now : Moment) (n : Notice)

theorem isPlain_ofNotice : (ofNotice now n).record.IsPlain := ⟨rfl, rfl, rfl⟩

theorem line_text_ofNotice : Layout.text.line (ofNotice now n).record =
    .ok (now.lineText ++ (text " - " ++ (n.source ++ (text " - " ++ (weightName n.level.weight ++
      (text " - " ++ n.message.escapeMessage)))))) := by
  have line := Record.withLines_of_isPlain (isPlain_ofNotice now n) .full n.message.escapeMessage
  simp only [LineStyle.full, List.flatMap_cons, List.flatMap_nil, List.append_nil] at line
  exact congrArg Except.ok line

end Event

namespace LogState

theorem line_cannotOpen (layout : Layout) (now : Moment) (path : Path) (reason : Text) :
    (layout.line (Event.ofNotice now (cannotOpen path reason)).record).toOption =
      warningLine? layout now path reason := by
  cases layout with
  | text =>
    have between : text " - ordtext - WARNING - " =
        text " - " ++ (text "ordtext" ++ (text " - " ++ (text "WARNING" ++ text " - "))) := by decide
    have line : warningLine? .text now path reason =
        some (now.lineText ++ (text " - " ++ (text "ordtext" ++ (text " - " ++
          (text "WARNING" ++ text " - ")))) ++ (cannotOpen path reason).message.escapeMessage) :=
      congrArg (fun t => some (now.lineText ++ t ++ (cannotOpen path reason).message.escapeMessage))
        between
    rw [Event.line_text_ofNotice, line]
    simp only [List.append_assoc]
    rfl
  | json =>
    let r := (Event.ofNotice now (cannotOpen path reason)).record
    have moment : r.moment.isoText = now.isoText := rfl
    have filled : r.text = .ok (cannotOpen path reason).message := rfl
    rw [Layout.line, warningLine?]
    cases iso : now.isoText with
    | error year =>
      rw [Record.toJsonLine_of_isoText_error (moment.trans iso)]
      rfl
    | ok time =>
      have members : r.members time (cannotOpen path reason).message =
          [(.text (text "timestamp"), .text time), (.text (text "level"), .text (text "WARNING")),
           (.text (text "logger"), .text (text "ordtext")),
           (.text (text "message"), .text (cannotOpen path reason).message),
           (.text (text "context"), .dict [(.text (text "log_file"), .text path.toText)])] := by rfl
      rw [Record.toJsonLine_of_isoText_ok (moment.trans iso) filled, members]
      simp only [Value.toJson, Value.toJsonEntries, Value.jsonKey]
      rfl

/-- What writing a line adds to the error stream. -/
def ended : Option Text → Text
  | some line => line ++ [0x0A]
  | none => []

theorem writeError_eq (w : LogState) (line : Except FormatError Text) :
    w.writeError line = { w with stderr := w.stderr ++ ended line.toOption } := by
  cases line with
  | ok line => rw [writeError, List.append_assoc]; rfl
  | error e => exact congrArg (fun t => { w with stderr := t }) (List.append_nil w.stderr).symm

/-- What the warning about a file that cannot be opened adds to the error stream, at a level. -/
def warningText (s : Settings) (now : Moment) (path : Path) (reason : Text) : Text :=
  if s.level.weight ≤ Level.warning.weight then ended (warningLine? s.layout now path reason) else []

theorem handleAll_stderr (r : Record) (w : LogState) (layout : Layout) :
    handleAll r w [⟨.stderr, layout⟩] = (w.writeError (layout.line r), [⟨.stderr, layout⟩]) := rfl

/-- With the error stream as its only handler, the logger writes the warning there once, if its level
    admits warnings. -/
theorem report_cannotOpen {w : LogState} {s : Settings} (level : w.logger.threshold = s.level.weight)
    (handlers : w.logger.handlers = [⟨.stderr, s.layout⟩]) (now : Moment) (path : Path)
    (reason : Text) : w.report now [cannotOpen path reason] =
      { w with stderr := w.stderr ++ warningText s now path reason } := by
  have own : Event.isOwn packageName = true := by decide
  have threshold : Event.threshold w.logger packageName = s.level.weight := by
    have set : s.level.weight ≠ 0 := by cases s.level <;> decide
    rw [Event.threshold, level, if_pos ⟨own, set⟩]
  have enabled : (Event.ofNotice now (cannotOpen path reason)).isEnabled w.logger =
      decide (s.level.weight ≤ Level.warning.weight) := by
    rw [Event.isEnabled, Event.ofNotice, cannotOpen, threshold]
    rfl
  rw [report, List.foldl_cons, List.foldl_nil, handle, enabled, warningText]
  by_cases admits : s.level.weight ≤ Level.warning.weight
  · have reached : Event.handlers w.logger (Event.ofNotice now (cannotOpen path reason)).source =
        [⟨.stderr, s.layout⟩] := (if_pos own).trans handlers
    simp only [admits, decide_true, Bool.not_true, Bool.false_eq_true, if_false, if_true, reached,
      handleAll_stderr, writeError_eq, line_cannotOpen]
    rw [← handlers]
  · rw [if_neg admits, decide_eq_false admits]
    exact congrArg (fun t => { w with stderr := t }) (List.append_nil w.stderr).symm

/-! ## One call -/

/-- What comes of the log file of settings. -/
inductive FileResult where
  | unwanted
  | opened (place : Place)
  /-- The file of a path cannot be opened, for a reason. -/
  | failed (path : Path) (reason : Text)
  /-- The path makes no sense. -/
  | badPath (error : Path.Error)
deriving DecidableEq

namespace FileResult

/-- The place of the file, if it has been opened. -/
def place? : FileResult → Option Place
  | .opened place => some place
  | _ => none

/-- What comes of a file that cannot be opened. -/
def ofError (path : Path) : OpenError → FileResult
  | .disk reason => .failed path reason
  | .path e => .badPath e

/-- What is written to the error stream about the file. -/
def warning (s : Settings) (now : Moment) : FileResult → Text
  | .failed path reason => warningText s now path reason
  | _ => []

end FileResult

section Call

variable (opening : Homes → Disk → Path → Opening) (w : LogState) (now : Moment) (s : Settings)

/-- Tries the log file of settings: what comes of the file, and the disk after it. -/
def tryFile : FileResult × Disk :=
  match s.file with
  | none => (.unwanted, w.disk)
  | some path =>
    match opening w.homes w.disk path with
    | (disk, .ok place) => (.opened place, disk)
    | (disk, .error e) => (.ofError path e, disk)

/-- What a call that sets up the logger does: unless the path makes no sense, the logger gets the
    handlers of the settings, and a file that cannot be opened gets a warning. -/
theorem configureWith_eq : w.configureWith opening now s =
    match (w.tryFile opening s).1 with
    | .badPath e =>
      ({ w with logger := w.logger.reset s.level.weight, disk := (w.tryFile opening s).2 }, .error e)
    | result =>
      ({ w with
          logger := w.logger.setUp s result.place?
          disk := (w.tryFile opening s).2
          stderr := w.stderr ++ result.warning s now }, .ok ()) := by
  have quiet : w.stderr ++ [] = w.stderr := List.append_nil w.stderr
  unfold configureWith tryFile
  cases file : s.file with
  | none =>
    simp only [FileResult.place?, FileResult.warning, quiet]
    rfl
  | some path =>
    simp only
    cases opening w.homes w.disk path with
    | mk disk result =>
      cases result with
      | ok place =>
        simp only [FileResult.place?, FileResult.warning, quiet, Logger.setUp, Settings.handlers]
        split <;> rfl
      | error e =>
        cases e with
        | path e => rfl
        | disk reason =>
          simp only
          -- The warning is reported after the error stream has taken the place of the file.
          rw [report_cannotOpen (s := s) rfl rfl]
          rfl

variable {opening w now s}

/-- A call that returns has done all that the settings ask for. -/
theorem configureWith_of_ok (returned : (w.configureWith opening now s).2 = .ok ()) :
    (w.configureWith opening now s).1 =
      { w with
        logger := w.logger.setUp s (w.tryFile opening s).1.place?
        disk := (w.tryFile opening s).2
        stderr := w.stderr ++ (w.tryFile opening s).1.warning s now } := by
  rw [configureWith_eq] at returned ⊢
  split
  · rename_i bad
    rw [bad] at returned
    cases returned
  · rfl

theorem tryFile_of_error {path : Path} {error : OpenError} (file : s.file = some path)
    (failed : (opening w.homes w.disk path).2 = .error error) :
    (w.tryFile opening s).1 = .ofError path error := by
  have opened : opening w.homes w.disk path = ((opening w.homes w.disk path).1, .error error) :=
    Prod.ext rfl failed
  rw [tryFile, file]
  simp only
  rw [opened]

/-- A call that does not return has met a path that makes no sense. -/
theorem configureWith_eq_error_iff {e : Path.Error} : (w.configureWith opening now s).2 = .error e ↔
    ∃ path, s.file = some path ∧ (opening w.homes w.disk path).2 = .error (.path e) := by
  rw [configureWith_eq]
  constructor
  · intro failed
    split at failed
    · rename_i e' bad
      obtain rfl := Except.error.inj failed
      unfold tryFile at bad
      split at bad
      · cases bad
      · rename_i path file
        refine ⟨path, file, ?_⟩
        split at bad
        · cases bad
        · rename_i error found
          cases error with
          | disk reason => cases bad
          | path e =>
            obtain rfl := FileResult.badPath.inj bad
            rw [found]
    · cases failed
  · rintro ⟨path, file, failed⟩
    rw [tryFile_of_error file failed]
    rfl

theorem configureWith_ok_iff : (w.configureWith opening now s).2 = .ok () ↔
    (w.configureWith opening now s).1.logger.handlers ≠ [] := by
  rw [configureWith_eq]
  split
  · exact iff_of_false (fun returned => by cases returned) (fun left => left rfl)
  · exact iff_of_true rfl (s.handlers_ne_nil _)

end Call

/-! ## Paths that make sense -/

/-- Whether a path makes sense as the name of a log file: it begins with no unknown user, and neither
    the path once it is expanded nor the working directory has a code point without a form as
    bytes. -/
def IsNameable (w : LogState) (path : Path) : Prop :=
  ∃ expanded, path.expandHome w.homes = .ok expanded ∧ Path.IsEncodable expanded.toText ∧
    Path.IsEncodable w.disk.label

/-- All that can go wrong with a path that makes sense is the disk. -/
theorem openLog_ne_error_path {w : LogState} {path : Path} (nameable : w.IsNameable path)
    (e : Path.Error) : (openLog w.homes w.disk path).2 ≠ .error (.path e) := by
  obtain ⟨expanded, home, encodable, directory⟩ := nameable
  have above : Path.checkEncodable expanded.parent.toText = .ok () :=
    Path.checkEncodable_eq_ok_iff.mpr (Path.isEncodable_parent encodable)
  -- The working directory stands in the full name that the file is opened by, after its directories
  -- have been made.
  have label := Disk.label_makeDirectories w.disk expanded.parent expanded.parent.names.length
  rw [openLog, home]
  simp only
  rw [above]
  simp only
  cases made : w.disk.makeDirectories expanded.parent expanded.parent.names.length with
  | mk disk failed =>
    rw [made] at label
    cases failed with
    | some e => simp
    | none =>
      have own : Path.checkEncodable (disk.absoluteText (disk.absolute expanded)) = .ok () :=
        Path.checkEncodable_eq_ok_iff.mpr
          (Disk.isEncodable_absoluteText (label ▸ directory) encodable)
      simp only [own]
      cases disk.openFile (disk.absolute expanded) <;> simp

/-- A call that sets up the logger returns exactly if it leaves a handler, and it does not return
    exactly if the path of the log file makes no sense. If the disk does not let it open the file, for
    whatever reason, the error stream is left. With a path whose user is known and that has a form as
    bytes, or without a path, it always returns; with the name of an unknown user it leaves nothing. -/
theorem configure_leaves_handler (opening : Homes → Disk → Path → Opening) (w : LogState)
    (now : Moment) (s : Settings) :
    ((w.configureWith opening now s).2 = .ok () ↔
      (w.configureWith opening now s).1.logger.handlers ≠ []) ∧
    (∀ e, (w.configureWith opening now s).2 = .error e ↔
      ∃ path, s.file = some path ∧ (opening w.homes w.disk path).2 = .error (.path e)) ∧
    (∀ path reason, s.file = some path →
      (opening w.homes w.disk path).2 = .error (.disk reason) →
        (w.configureWith opening now s).2 = .ok () ∧
        (w.configureWith opening now s).1.logger.handlers = [⟨.stderr, s.layout⟩]) ∧
    ((∀ path, s.file = some path → w.IsNameable path) →
      (w.configure now s).2 = .ok () ∧ (w.configure now s).1.logger.handlers ≠ []) ∧
    (∀ path, s.file = some path → path.NamesUnknownUser w.homes →
      (∃ e, (w.configure now s).2 = .error e) ∧ (w.configure now s).1.logger.handlers = []) := by
  refine ⟨configureWith_ok_iff, fun e => configureWith_eq_error_iff, ?_, ?_, ?_⟩
  · intro path reason file failed
    rw [configureWith_eq, tryFile_of_error file failed]
    exact ⟨rfl, rfl⟩
  · intro nameable
    have returned : (w.configure now s).2 = .ok () := by
      cases outcome : (w.configure now s).2 with
      | ok _ => rfl
      | error e =>
        obtain ⟨path, file, bad⟩ := configureWith_eq_error_iff.mp outcome
        exact absurd bad (openLog_ne_error_path (nameable path file) e)
    exact ⟨returned, configureWith_ok_iff.mp returned⟩
  · intro path file unknown
    obtain ⟨e, home⟩ := Path.expandHome_eq_error_iff.mpr unknown
    have failed : (openLog w.homes w.disk path).2 = .error (.path e) := by rw [openLog, home]
    have raised : (w.configure now s).2 = .error e :=
      configureWith_eq_error_iff.mpr ⟨path, file, failed⟩
    refine ⟨⟨e, raised⟩, ?_⟩
    -- A handler would have made the call return.
    by_contra left
    rw [configure, configureWith_ok_iff.mpr left] at raised
    cases raised

/-- A logger that writes to an open file in an otherwise empty directory. -/
def writing : LogState where
  logger := { handlers := [⟨.file ⟨[text "app.log"], 1000, 1, true⟩, .text⟩] }
  disk := ⟨text "work", [([text "app.log"], .file [])]⟩
  homes := ⟨text "/home/tester", []⟩

/-- A file that stands where a directory is wanted is left for the error stream. -/
theorem configure_leaves_handler_blocked :
    let s : Settings := { file := some (Path.ofText (text "app.log/new.log")) }
    writing.IsNameable (Path.ofText (text "app.log/new.log")) ∧
    (writing.configure (.ofMicroseconds 0) s).2 = .ok () ∧
    (writing.configure (.ofMicroseconds 0) s).1.logger.handlers = [⟨.stderr, .text⟩] := by
  intro s
  have nameable : writing.IsNameable (Path.ofText (text "app.log/new.log")) :=
    ⟨_, rfl, Path.checkEncodable_eq_ok_iff.mp (by rfl), Path.checkEncodable_eq_ok_iff.mp (by rfl)⟩
  obtain ⟨_, _, fallback, _⟩ := configure_leaves_handler openLog writing (.ofMicroseconds 0) s
  exact ⟨nameable, fallback _ _ rfl (by rfl)⟩

/-- The name of an unknown user: the open file is closed, and nothing takes its place. -/
theorem configure_leaves_none_for_unknown_user :
    let s : Settings := { file := some (Path.ofText (text "~nouser_zz/app.log")) }
    (writing.configure (.ofMicroseconds 0) s).2 = .error .homeUnknown ∧
    (writing.configure (.ofMicroseconds 0) s).1.logger.handlers = [] ∧
    (writing.configure (.ofMicroseconds 0) s).1.logger.openFiles = 0 := by
  exact ⟨by rfl, by rfl, by rfl⟩

end LogState

end UnitText
