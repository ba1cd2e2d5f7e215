import UnitText.Proofs.LoggerSetup

/-!
# Setting up the logger again and again

Calls that set up the logger follow one another, each with settings of its own and with any outcome of
opening its log file. One call keeps what has been detached closed, so every run of calls does, and
at most the file of the last call is held open. What a call that returns leaves behind is told by its
settings and by what has come of its file alone.
-/

namespace UnitText.LogState

/-- A call that sets up the logger, and how opening a log file comes out in it. -/
structure Call where
  now : Moment
  settings : Settings
  opening : Homes → Disk → Path → Opening

namespace Call

/-- Carries out a call. -/
def run (c : Call) (w : LogState) : LogState × Except Path.Error Unit :=
  w.configureWith c.opening c.now c.settings

/-- What comes of the log file in a call. -/
def file (c : Call) (w : LogState) : FileResult := (w.tryFile c.opening c.settings).1

variable {c : Call} {w : LogState}

/-- Every handler that was attached before a call is detached and closed by it, of whatever kind it is
    and whether the call returns or not. -/
theorem detached_run (c : Call) (w : LogState) :
    (c.run w).1.logger.retired = w.logger.retired ++ w.logger.handlers.map Handler.close ∧
    (c.run w).1.logger.dismissed = w.logger.dismissed ++ w.logger.guests.map Guest.close := by
  rw [run, configureWith_eq]
  split <;> exact ⟨rfl, rfl⟩

theorem isTidy_run (tidy : w.logger.IsTidy) : (c.run w).1.logger.IsTidy := by
  have closed := tidy.reset c.settings.level.weight
  obtain ⟨retired, dismissed⟩ := detached_run c w
  exact ⟨retired ▸ closed.retired, dismissed ▸ closed.dismissed⟩

theorem openFiles_run_le_one (tidy : w.logger.IsTidy) : (c.run w).1.logger.openFiles ≤ 1 := by
  rw [run, configureWith_eq]
  split
  -- A call that does not return has closed what there was and opened nothing.
  · have closed := Logger.openFiles_reset tidy c.settings.level.weight
    exact closed.le.trans (Nat.zero_le 1)
  · exact Logger.openFiles_setUp_le tidy c.settings _

end Call

/-- The state after calls, some of which may not have returned. -/
def after (w : LogState) (calls : List Call) : LogState := calls.foldl (fun w c => (c.run w).1) w

theorem after_append_singleton (w : LogState) (calls : List Call) (c : Call) :
    w.after (calls ++ [c]) = (c.run (w.after calls)).1 := by
  rw [after, List.foldl_append]
  rfl

theorem isTidy_after {w : LogState} (tidy : w.logger.IsTidy) (calls : List Call) :
    (w.after calls).logger.IsTidy := by
  induction calls generalizing w with
  | nil => exact tidy
  | cons c calls ih => exact ih (Call.isTidy_run tidy)

/-- In a run of calls that begins with any handlers, no file is held open while a call opens its own,
    and after it at most one is. A call that returns leaves the logger as its settings and the outcome
    of its file say: the handlers are those of the settings, in their layout, and those from before,
    of whatever kind, are detached and closed. The error stream gets one line, the warning, if the file
    could not be opened and the level admits warnings, and nothing otherwise; opening the file is all
    that is done to the disk. -/
theorem logger_after_calls {w : LogState} (tidy : w.logger.IsTidy) (calls : List Call) (c : Call) :
    ((w.after calls).logger.reset c.settings.level.weight).openFiles = 0 ∧
    (w.after (calls ++ [c])).logger.openFiles ≤ 1 ∧
    ((c.run (w.after calls)).2 = .ok () →
      (w.after (calls ++ [c])).logger =
        { threshold := c.settings.level.weight
          propagate := false
          handlers := c.settings.handlers (c.file (w.after calls)).place?
          retired := (w.after calls).logger.retired ++
            (w.after calls).logger.handlers.map Handler.close
          guests := []
          dismissed := (w.after calls).logger.dismissed ++
            (w.after calls).logger.guests.map Guest.close } ∧
      (∀ h ∈ (w.after (calls ++ [c])).logger.handlers, h.layout = c.settings.layout) ∧
      (∀ h ∈ (w.after (calls ++ [c])).logger.retired, h.holdsFile = false) ∧
      (∀ g ∈ (w.after (calls ++ [c])).logger.dismissed, g.holdsFile = false) ∧
      (w.after (calls ++ [c])).stderr =
        (w.after calls).stderr ++ (c.file (w.after calls)).warning c.settings c.now ∧
      (w.after (calls ++ [c])).disk = ((w.after calls).tryFile c.opening c.settings).2) := by
  have before := isTidy_after tidy calls
  have closed : (w.after (calls ++ [c])).logger.IsTidy := isTidy_after tidy (calls ++ [c])
  rw [after_append_singleton] at closed ⊢
  refine ⟨Logger.openFiles_reset before _, Call.openFiles_run_le_one before, ?_⟩
  intro returned
  have state : (c.run (w.after calls)).1 = _ := configureWith_of_ok returned
  rw [state] at closed ⊢
  exact ⟨rfl, fun h member => Settings.layout_of_mem_handlers member, closed.retired,
    closed.dismissed, rfl, rfl⟩

/-- A call whose log file is opened at a place. -/
def opens (place : Place) (s : Settings) : Call := ⟨.ofMicroseconds 0, s, fun _ d _ => (d, .ok place)⟩

/-- A call whose log file cannot be opened, for a reason. -/
def fails (reason : Text) (s : Settings) : Call :=
  ⟨.ofMicroseconds 0, s, fun _ d _ => (d, .error (.disk reason))⟩

/-- A file beside the error stream, and then one that is not allowed to be opened. -/
theorem logger_after_calls_denied :
    let path := Path.ofText (text "new.log")
    let first := opens [text "new.log"] { file := some path, includeStderr := true }
    let second := fails (text "[Errno 13] Permission denied: 'new.log'") { file := some path }
    writing.logger.IsTidy ∧ (second.run (writing.after [first])).2 = .ok () ∧
    (writing.after [first]).logger.openFiles = 1 ∧
    (writing.after [first, second]).logger.handlers = [⟨.stderr, .text⟩] ∧
    (writing.after [first, second]).logger.openFiles ≤ 1 ∧
    (writing.after [first, second]).stderr =
      text "1970-01-01T00:00:00+0000 - ordtext - WARNING - Could not open log file new.log: [Errno 13] Permission denied: 'new.log'\n" := by
  intro path first second
  have tidy : writing.logger.IsTidy :=
    ⟨fun h member => absurd member List.not_mem_nil, fun g member => absurd member List.not_mem_nil⟩
  have returned : (second.run (writing.after [first])).2 = .ok () := by rfl
  obtain ⟨_, one, rest⟩ := logger_after_calls tidy [first] second
  obtain ⟨logger, _, _, _, written, _⟩ := rest returned
  refine ⟨tidy, returned, by rfl, congrArg Logger.handlers logger, one, written.trans ?_⟩
  decide +kernel

end UnitText.LogState
