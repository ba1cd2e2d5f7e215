import UnitText.Proofs.LoggerRuns
import UnitText.Session

/-!
# Sessions, step after step

A step of a session sets up the logger, or it only writes. Writing may close a log file and open it
again, so `Logger.closed` forgets which files are open: it is all that writing keeps, and all that
matters to the calls that set up the logger. A session does to the logger what its calls do
(`Session.run_follows_calls`), so in every state that it goes through the logger is as the last of
them has left it (`Session.run_logger`).
-/

namespace UnitText

/-! ## What writing keeps -/

/-- The logger with its log files closed: all there is to it but which of its files are open. -/
def Logger.closed (l : Logger) : Logger := { l with handlers := l.handlers.map Handler.close }

namespace FileSink

/-- The log file, closed. -/
def closed (s : FileSink) : FileSink := { s with isOpen := false }

theorem closed_reopen (s : FileSink) (d : Disk) : (s.reopen d).2.closed = s.closed := by
  rw [reopen]
  split
  · rfl
  · split <;> rfl

theorem closed_rollOver (s : FileSink) (d : Disk) : (s.rollOver d).2.closed = s.closed := by
  rw [rollOver]
  simp only
  split
  · exact closed_reopen _ _
  · rfl

theorem closed_write (s : FileSink) (d : Disk) (layout : Layout) (r : Record) :
    (s.write d layout r).2.closed = s.closed := by
  have reopened := s.closed_reopen d
  rw [write]
  simp only
  split
  · exact reopened
  · split
    · exact reopened
    · split
      · exact (closed_rollOver _ _).trans reopened
      · exact reopened

end FileSink

namespace LogState

/-- Nothing but the disk, the error stream and which files are open differs between two states. -/
structure Writes (w w' : LogState) : Prop where
  closed : w'.logger.closed = w.logger.closed
  homes : w'.homes = w.homes

theorem Writes.refl (w : LogState) : w.Writes w := ⟨rfl, rfl⟩

theorem Writes.trans {w w' w'' : LogState} (first : w.Writes w') (second : w'.Writes w'') :
    w.Writes w'' :=
  ⟨second.closed.trans first.closed, second.homes.trans first.homes⟩

theorem writes_writeError (w : LogState) (line : Except FormatError Text) :
    w.Writes (w.writeError line) := by
  rw [writeError_eq]
  exact ⟨rfl, rfl⟩

/-- Handlers that write a record stay the handlers that they are, and the logger that they are taken
    from is not touched. -/
theorem handleAll_keeps (r : Record) (handlers : List Handler) (w : LogState) :
    (handleAll r w handlers).2.map Handler.close = handlers.map Handler.close ∧
    (handleAll r w handlers).1.logger = w.logger ∧ (handleAll r w handlers).1.homes = w.homes := by
  induction handlers generalizing w with
  | nil => exact ⟨rfl, rfl, rfl⟩
  | cons h rest ih =>
    obtain ⟨sink, layout⟩ := h
    cases sink with
    | stderr =>
      obtain ⟨closed, logger, homes⟩ := ih (w.writeError (layout.line r))
      rw [handleAll]
      refine ⟨congrArg (List.cons _) closed, logger.trans ?_, homes.trans ?_⟩ <;>
        rw [writeError_eq]
    | file s =>
      obtain ⟨closed, logger, homes⟩ := ih { w with disk := (s.write w.disk layout r).1 }
      have written := s.closed_write w.disk layout r
      rw [handleAll]
      refine ⟨?_, logger, homes⟩
      exact congrArg₂ List.cons (congrArg (fun s => (⟨.file s, layout⟩ : Handler)) written) closed

theorem writes_handle (w : LogState) (e : Event) : w.Writes (w.handle e) := by
  rw [handle]
  split
  · exact .refl w
  · split
    · split
      · exact .refl w
      · split
        · exact w.writes_writeError _
        · exact .refl w
    -- A log has either the handlers of the package or none.
    · rename_i some
      have attached : Event.handlers w.logger e.source = w.logger.handlers := by
        by_cases own : Event.isOwn e.source
        · exact if_pos own
        · exact absurd (if_neg own) some
      obtain ⟨closed, logger, homes⟩ := handleAll_keeps e.record w.logger.handlers w
      refine ⟨?_, ?_⟩
      · simp only [Logger.closed, attached, closed, logger]
      · simp only [attached, homes]

theorem writes_report (w : LogState) (now : Moment) (notices : List Notice) :
    w.Writes (w.report now notices) := by
  rw [report]
  induction notices generalizing w with
  | nil => exact .refl w
  | cons n notices ih => exact (w.writes_handle (.ofNotice now n)).trans (ih _)

end LogState

/-! ## What a logger has been set up by -/

namespace Handler

/-- Whether a handler writes to a file, open or not. -/
def isFile (h : Handler) : Bool :=
  match h.sink with
  | .file _ => true
  | .stderr => false

theorem isFile_close (h : Handler) : h.close.isFile = h.isFile := by
  obtain ⟨sink, layout⟩ := h
  cases sink <;> rfl

theorem isFile_of_holdsFile {h : Handler} (holds : h.holdsFile = true) : h.isFile = true := by
  obtain ⟨sink, layout⟩ := h
  cases sink with
  | file s => rfl
  | stderr => cases holds

end Handler

/-- The handlers that a call leaves, by what has come of its log file. -/
def LogState.FileResult.handlers (s : Settings) : FileResult → List Handler
  | .badPath _ => []
  | result => s.handlers result.place?

theorem LogState.FileResult.countP_isFile_handlers_le (s : Settings) (result : FileResult) :
    (result.handlers s).countP Handler.isFile ≤ 1 := by
  cases result with
  | opened place =>
    change (s.handlers (some place)).countP Handler.isFile ≤ 1
    rw [Settings.handlers, List.countP_cons_of_pos rfl]
    split <;> exact le_rfl
  | unwanted | failed path reason | badPath e => exact Nat.zero_le 1

namespace Logger

/-- A logger has been set up by settings, with a result for their log file: it is as the call has
    left it, but for files that have been closed since. -/
structure IsSetUpBy (l : Logger) (s : Settings) (result : LogState.FileResult) : Prop where
  threshold : l.threshold = s.level.weight
  propagate : l.propagate = false
  handlers : l.handlers.map Handler.close = (result.handlers s).map Handler.close
  guests : l.guests = []

/-- A logger is as new if there have been no settings, and otherwise set up by the last of them. -/
def IsSetUpByLast (l : Logger) (settings : List Settings) : Prop :=
  match settings.getLast? with
  | none => l = {}
  | some s => ∃ result, l.IsSetUpBy s result

variable {l l' : Logger} {s : Settings} {settings : List Settings} {result : LogState.FileResult}

theorem IsTidy.of_closed_eq (same : l'.closed = l.closed) (tidy : l.IsTidy) : l'.IsTidy := by
  obtain ⟨_, _, _, retired, _, dismissed⟩ := Logger.mk.inj same
  exact ⟨retired ▸ tidy.retired, dismissed ▸ tidy.dismissed⟩

theorem IsSetUpBy.of_closed_eq (same : l'.closed = l.closed) (setUp : l.IsSetUpBy s result) :
    l'.IsSetUpBy s result := by
  obtain ⟨threshold, propagate, handlers, _, guests, _⟩ := Logger.mk.inj same
  exact ⟨threshold.trans setUp.threshold, propagate.trans setUp.propagate,
    handlers.trans setUp.handlers, guests.trans setUp.guests⟩

theorem eq_new_of_closed_eq (new : l.closed = {}) : l = {} := by
  obtain ⟨threshold, propagate, handlers, retired, guests, dismissed⟩ := l
  obtain ⟨rfl, rfl, none, rfl, rfl, rfl⟩ := Logger.mk.inj new
  obtain rfl := List.map_eq_nil_iff.mp none
  rfl

theorem IsSetUpBy.openFiles_le_one (setUp : l.IsSetUpBy s result) (tidy : l.IsTidy) :
    l.openFiles ≤ 1 := by
  have shape : Handler.isFile ∘ Handler.close = Handler.isFile := funext Handler.isFile_close
  have files : l.handlers.countP Handler.isFile = (result.handlers s).countP Handler.isFile := by
    have counted := congrArg (List.countP Handler.isFile) setUp.handlers
    rwa [List.countP_map, List.countP_map, shape] at counted
  calc l.openFiles = l.handlers.countP Handler.holdsFile := by
        rw [tidy.openFiles_eq, setUp.guests]; rfl
    _ ≤ l.handlers.countP Handler.isFile :=
        List.countP_mono_left fun h _ holds => Handler.isFile_of_holdsFile holds
    _ ≤ 1 := files ▸ result.countP_isFile_handlers_le s

theorem IsSetUpByLast.openFiles_le_one (setUp : l.IsSetUpByLast settings) (tidy : l.IsTidy) :
    l.openFiles ≤ 1 := by
  rw [IsSetUpByLast] at setUp
  split at setUp
  · rw [setUp]
    exact Nat.zero_le 1
  · obtain ⟨result, setUp⟩ := setUp
    exact setUp.openFiles_le_one tidy

end Logger

namespace LogState.Call

theorem homes_run (c : Call) (w : LogState) : (c.run w).1.homes = w.homes := by
  rw [run, configureWith_eq]
  split <;> rfl

/-- The logger after a call, with its files closed: the settings, the outcome of the log file and the
    logger before with its files closed are all that it depends on. -/
theorem closed_run (c : Call) (w : LogState) : (c.run w).1.logger.closed =
    { threshold := c.settings.level.weight
      propagate := false
      handlers := ((c.file w).handlers c.settings).map Handler.close
      retired := w.logger.closed.retired ++ w.logger.closed.handlers
      guests := []
      dismissed := w.logger.closed.dismissed ++ w.logger.closed.guests.map Guest.close } := by
  rw [run, configureWith_eq, file]
  split
  · rename_i bad
    rw [bad]
    rfl
  · rename_i _ other
    cases result : (w.tryFile c.opening c.settings).1 with
    | badPath e => exact absurd result (other e)
    | unwanted | opened place | failed path reason => rfl

theorem isSetUpBy_run (c : Call) (w : LogState) :
    (c.run w).1.logger.IsSetUpBy c.settings (c.file w) := by
  obtain ⟨threshold, propagate, handlers, _, guests, _⟩ := Logger.mk.inj (c.closed_run w)
  exact ⟨threshold, propagate, handlers, guests⟩

/-- What a call does to one logger, a call with the same settings does to another one that differs in
    open files only: a call in which opening the log file comes out the same. -/
theorem exists_closed_run_eq {w w' : LogState} (same : w'.logger.closed = w.logger.closed)
    (c : Call) : ∃ c' : Call, c'.settings = c.settings ∧
      (c.run w').1.logger.closed = (c'.run w).1.logger.closed := by
  let c' : Call := { c with opening := fun _ _ path => c.opening w'.homes w'.disk path }
  have file : c'.file w = c.file w' := by
    rw [Call.file, Call.file, tryFile, tryFile]
    cases c.settings.file <;> rfl
  refine ⟨c', rfl, ?_⟩
  rw [closed_run, closed_run, file, same]

end LogState.Call

/-- Calls that begin with a new logger leave it as the last of them has set it up. -/
theorem LogState.isSetUpByLast_after {first : LogState} (new : first.logger = {})
    (calls : List Call) {l : Logger} (same : l.closed = (first.after calls).logger.closed) :
    l.IsSetUpByLast (calls.map Call.settings) := by
  rcases List.eq_nil_or_concat calls with rfl | ⟨earlier, c, rfl⟩
  · exact Logger.eq_new_of_closed_eq (same.trans (congrArg Logger.closed new))
  · rw [List.concat_eq_append] at same ⊢
    rw [after_append_singleton] at same
    rw [Logger.IsSetUpByLast, List.map_append, List.map_singleton, List.getLast?_concat]
    exact ⟨_, (c.isSetUpBy_run _).of_closed_eq same⟩

namespace Session

open LogState (Call Writes openLog)

/-! ## One step -/

/-- The settings that a step comes to set up the logger by, if it comes so far. -/
def Step.settings? (homes : Homes) : Step → Option Settings
  | .configure fields => (Settings.ofFields fields).toOption
  | .setup env => (Settings.load homes env).value.toOption
  | _ => none

section Step

variable {w : LogState} {now : Moment} {st : Step}

theorem configureBy_eq (w : LogState) (now : Moment) (s : Settings) (outcome : Outcome) :
    (configureBy w now s outcome).1 = ((⟨now, s, openLog⟩ : Call).run w).1 := by
  rw [configureBy, Call.run, LogState.configure]
  split <;> rename_i run <;> rw [run]

/-- A call that is not stopped by its path leaves the handlers of its settings. -/
theorem handlers_configureBy {w' : LogState} {s : Settings} {outcome outcome' : Outcome}
    (run : configureBy w now s outcome = (w', outcome')) (returned : ∀ e, outcome' ≠ .badPath e) :
    ∃ place?, w'.logger.handlers = s.handlers place? := by
  rw [configureBy] at run
  split at run
  · rename_i v called
    obtain ⟨rfl, rfl⟩ := Prod.mk.inj run
    have state : v = _ :=
      (congrArg Prod.fst called).symm.trans
        (LogState.configureWith_of_ok (congrArg Prod.snd called))
    exact ⟨_, congrArg (fun w : LogState => w.logger.handlers) state⟩
  · obtain ⟨_, rfl⟩ := Prod.mk.inj run
    exact absurd rfl (returned _)

theorem writes_ensureDirectories (w : LogState) (path : Path) :
    w.Writes (ensureDirectories w path).1 := ⟨rfl, rfl⟩

theorem writes_writeFile (w : LogState) (path : Path) (contents : Text) :
    w.Writes (writeFile w path contents).1 := by
  have made := writes_ensureDirectories w path.parent
  rw [writeFile]
  split
  · rename_i run
    rwa [run] at made
  · rename_i run
    rw [run] at made
    simp only
    split
    · exact made
    · exact made.trans ⟨rfl, rfl⟩

/-- A step that has no settings for the logger writes, and does no more to it. -/
theorem writes_step (unset : st.settings? w.homes = none) : w.Writes (step w now st).1 := by
  cases st with
  | configure fields =>
    rw [step]
    cases built : Settings.ofFields fields with
    | error errors => exact .refl w
    | ok s =>
      rw [Step.settings?, built] at unset
      cases unset
  | setup env =>
    have noticed := w.writes_report now (Settings.load w.homes env).notices
    rw [step]
    cases loaded : (Settings.load w.homes env).value with
    | error e => cases e <;> simpa only [loaded] using noticed
    | ok s =>
      rw [Step.settings?, loaded] at unset
      cases unset
  | log source weight message arguments attributes reported =>
    rw [step, logMessage]
    split
    · exact .refl w
    · split
      · exact .refl w
      · exact w.writes_handle _
  | call request => exact w.writes_report now _
  | makeDirectory path =>
    have made := writes_ensureDirectories w path
    rw [step]
    split <;> (rename_i run; rwa [run] at made)
  | writeFile path contents => exact writes_writeFile w path contents

/-- A step that has settings writes, and then it sets up the logger by them. -/
theorem step_eq_configureBy (now : Moment) {s : Settings} (set : st.settings? w.homes = some s) :
    ∃ w' outcome, w.Writes w' ∧ step w now st = configureBy w' now s outcome := by
  cases st with
  | configure fields =>
    refine ⟨w, .configured, .refl w, ?_⟩
    rw [Step.settings?] at set
    rw [step]
    cases built : Settings.ofFields fields with
    | error errors => rw [built] at set; cases set
    | ok s' =>
      rw [built] at set
      obtain rfl := Option.some.inj set
      rfl
  | setup env =>
    refine ⟨_, .settings s, w.writes_report now (Settings.load w.homes env).notices, ?_⟩
    rw [Step.settings?] at set
    rw [step]
    cases loaded : (Settings.load w.homes env).value with
    | error e => rw [loaded] at set; cases set
    | ok s' =>
      rw [loaded] at set
      obtain rfl := Option.some.inj set
      rfl
  | log | call | makeDirectory | writeFile => cases set

end Step

/-! ## All steps -/

/-- The state that a session begins in. -/
def start (directory : Text) (users : List (Text × Text)) : LogState :=
  { disk := ⟨directory, []⟩, homes := ⟨directory, users⟩ }

/-- A state follows steps that have begun in another one: but for open files, its logger is what calls
    with the settings of these steps make of the first logger. -/
structure Follows (first : LogState) (steps : List Step) (w : LogState) : Prop where
  homes : w.homes = first.homes
  calls : ∃ calls : List Call,
    calls.map Call.settings = steps.filterMap (Step.settings? first.homes) ∧
      w.logger.closed = (first.after calls).logger.closed

section Steps

variable {first w w' : LogState} {steps : List Step}

theorem Follows.nil (first : LogState) : Follows first [] first := ⟨rfl, [], rfl, rfl⟩

theorem Follows.writes (before : Follows first steps w) (writes : w.Writes w') :
    Follows first steps w' := by
  obtain ⟨homes, calls, settings, logger⟩ := before
  exact ⟨writes.homes.trans homes, calls, settings, writes.closed.trans logger⟩

/-- What follows steps follows one more after it is carried out. -/
theorem Follows.step (before : Follows first steps w) (now : Moment) (st : Step) :
    Follows first (steps ++ [st]) (Session.step w now st).1 := by
  cases set : st.settings? first.homes with
  | none =>
    obtain ⟨homes, calls, settings, logger⟩ := before.writes (writes_step (before.homes ▸ set))
    refine ⟨homes, calls, settings.trans ?_, logger⟩
    rw [List.filterMap_append, List.filterMap_cons_none set, List.filterMap_nil, List.append_nil]
  | some s =>
    obtain ⟨w', outcome, writes, run⟩ := step_eq_configureBy now (before.homes ▸ set)
    obtain ⟨homes, calls, settings, logger⟩ := before.writes writes
    obtain ⟨c, same, called⟩ := Call.exists_closed_run_eq logger ⟨now, s, openLog⟩
    rw [run, configureBy_eq]
    refine ⟨(Call.homes_run _ w').trans homes, calls ++ [c], ?_, ?_⟩
    · rw [List.map_append, settings, List.filterMap_append, List.filterMap_cons_some set,
        List.filterMap_nil, List.map_singleton, same]
    · rw [called, LogState.after_append_singleton]

/-- Every entry of a run is what a step makes of a state that follows the steps before it. -/
theorem step_of_runFrom {done : List Step} (before : Follows first done w) (index : Nat)
    (steps : List Step) {i : Nat} {outcome : Outcome}
    (reached : (runFrom w index steps)[i]? = some (outcome, w')) :
    ∃ st v, steps[i]? = some st ∧ Follows first (done ++ steps.take i) v ∧
      Session.step v (moment (index + i)) st = (w', outcome) := by
  induction steps generalizing done w index i with
  | nil => cases reached
  | cons st rest ih =>
    have quiet : Follows first done { w with stderr := [] } := before.writes ⟨rfl, rfl⟩
    cases i with
    | zero =>
      obtain ⟨rfl, rfl⟩ := Prod.mk.inj (Option.some.inj reached)
      exact ⟨st, _, rfl, (List.append_nil done).symm ▸ quiet, rfl⟩
    | succ i =>
      obtain ⟨st', v, found, follows, run⟩ :=
        ih (quiet.step (moment index) st) (index + 1) reached
      refine ⟨st', v, found, ?_, ?_⟩
      · rwa [List.take_succ_cons, List.append_cons]
      · rwa [Nat.add_assoc, Nat.add_comm 1 i] at run

end Steps

section Run

variable {directory : Text} {users : List (Text × Text)} {steps : List Step} {i : Nat}
  {outcome : Outcome} {w : LogState}

theorem step_of_run (reached : (run directory users steps)[i]? = some (outcome, w)) :
    ∃ st v, steps[i]? = some st ∧ Follows (start directory users) (steps.take i) v ∧
      Session.step v (moment (0 + i)) st = (w, outcome) :=
  step_of_runFrom (.nil (start directory users)) 0 steps reached

/-- In every state of a session the logger is, but for open files, what calls with the settings of the
    steps so far make of a new one. -/
theorem run_follows_calls (reached : (run directory users steps)[i]? = some (outcome, w)) :
    ∃ calls : List Call, calls.map Call.settings =
        (steps.take (i + 1)).filterMap (Step.settings? ⟨directory, users⟩) ∧
      w.logger.closed = ((start directory users).after calls).logger.closed := by
  obtain ⟨st, v, found, follows, stepped⟩ := step_of_run reached
  have after := follows.step (moment (0 + i)) st
  rw [stepped] at after
  have taken : steps.take (i + 1) = steps.take i ++ [st] := by
    rw [List.take_add_one, found]
    rfl
  rw [taken]
  exact after.calls

/-- After every step of a session at most one log file is held open, and no handler that has been
    detached holds one. The logger is as new until a step has settings for it; from then on it is as
    the last step with settings has set it up, whatever has been written since. That step leaves the
    handlers of its settings, unless it reports that their path makes no sense. -/
theorem run_logger (reached : (run directory users steps)[i]? = some (outcome, w)) :
    w.logger.IsTidy ∧ w.logger.openFiles ≤ 1 ∧
    w.logger.IsSetUpByLast
      ((steps.take (i + 1)).filterMap (Step.settings? ⟨directory, users⟩)) ∧
    (∀ st s, steps[i]? = some st → st.settings? ⟨directory, users⟩ = some s →
      (∀ e, outcome ≠ .badPath e) → ∃ place?, w.logger.handlers = s.handlers place?) := by
  have new : (start directory users).logger.IsTidy :=
    ⟨fun _ member => absurd member List.not_mem_nil, fun _ member => absurd member List.not_mem_nil⟩
  obtain ⟨calls, settings, logger⟩ := run_follows_calls reached
  have tidy : w.logger.IsTidy := (LogState.isTidy_after new calls).of_closed_eq logger
  have setUp := settings ▸ LogState.isSetUpByLast_after rfl calls logger
  refine ⟨tidy, setUp.openFiles_le_one tidy, setUp, ?_⟩
  intro st s found set returned
  obtain ⟨st', v, found', follows, stepped⟩ := step_of_run reached
  obtain rfl := Option.some.inj (found.symm.trans found')
  have homes : v.homes = ⟨directory, users⟩ := follows.homes
  obtain ⟨v', outcome', _, run⟩ := step_eq_configureBy (moment (0 + i)) (homes ▸ set)
  exact handlers_configureBy (run.symm.trans stepped) returned

end Run

end Session

end UnitText
