import LogRelay.AccessLog.Logger
import LogRelay.Proofs.AccessLog.LineText

/-!
A logger against its history. What it does with a request follows from the calls made so far and
their answers alone: from the settings last made, the starts and stops that succeeded and the lines
written before.
-/
set_option autoImplicit false

namespace LogRelay.AccessLog

open Config

inductive Call where
  | setPattern (pattern : String)
  | setEnabled (enabled : Bool)
  | setCondition (condition : Option String)
  | setLoggerName (loggerName : Option String)
  | apply (settings : LogSettings)
  | start
  | stop
  | log (request : Request) (moment : Moment)
  | pass (line : String)

inductive Answer where
  | done
  | settled (result : Except SetupError Unit)
  | line (written : Option String)

structure Dealing where
  call : Call
  answer : Answer

def Dealing.begun : Dealing := ⟨.start, .settled (.ok ())⟩

def Dealing.ended : Dealing := ⟨.stop, .settled (.ok ())⟩

namespace Call

def pattern? : Call → Option String
  | .setPattern pattern => some pattern
  | .apply settings => some settings.pattern
  | _ => none

def enabled? : Call → Option Bool
  | .setEnabled enabled => some enabled
  | .apply settings => some settings.enabled
  | _ => none

def condition? : Call → Option (Option String)
  | .setCondition condition => some condition
  | .apply settings => some settings.condition
  | _ => none

def loggerName? : Call → Option (Option String)
  | .setLoggerName loggerName => some loggerName
  | .apply settings => some settings.loggerName
  | _ => none

end Call

-- A history, here and below, has the latest dealing first.
def lastSet {α : Type} (field : Call → Option α) (initial : α) (history : List Dealing) : α :=
  (history.findSome? fun dealing => field dealing.call).getD initial

def Running (history : List Dealing) : Prop :=
  ∃ later earlier, history = later ++ .begun :: earlier ∧ .ended ∉ later

def Dealing.line? : Dealing → Option String
  | ⟨.log _ _, .line written⟩ => written
  | ⟨.pass line, _⟩ => some line
  | _ => none

-- The cache behind a dealing: only a line that is written can change it.
def Dealing.cacheAfter (pattern : Pattern) (cache : StampCache) : Dealing → StampCache
  | ⟨.log request moment, .line (some _)⟩ => (pattern.write request moment cache).2
  | _ => cache

def cacheBehind (clock : Clock) : List Dealing → StampCache
  | [] => .start clock
  | dealing :: earlier =>
      dealing.cacheAfter (.ofSetting (lastSet Call.pattern? "" earlier)) (cacheBehind clock earlier)

def Logger.serve (logger : Logger) : Call → Answer × Logger
  | .setPattern pattern => (.done, logger.setPattern pattern)
  | .setEnabled enabled => (.done, logger.setEnabled enabled)
  | .setCondition condition => (.done, logger.setCondition condition)
  | .setLoggerName loggerName => (.done, logger.setLoggerName loggerName)
  | .apply settings => (.done, logger.apply settings)
  | .start => (.settled logger.start.1, logger.start.2)
  | .stop => (.settled logger.stop.1, logger.stop.2)
  | .log request moment => (.line (logger.log request moment).1, (logger.log request moment).2)
  | .pass line => (.done, logger.pass line)

def Logger.serveAll (logger : Logger) (history : List Dealing) :
    List Call → Logger × List Dealing
  | [] => (logger, history)
  | call :: later =>
      (logger.serve call).2.serveAll (⟨call, (logger.serve call).1⟩ :: history) later

theorem last_set_cons {α : Type} (field : Call → Option α) (initial : α) (dealing : Dealing)
    (history : List Dealing) : lastSet field initial (dealing :: history) =
      (field dealing.call).getD (lastSet field initial history) := by
  unfold lastSet
  rw [List.findSome?_cons]
  cases field dealing.call <;> rfl

theorem not_running : ¬ Running [] := by
  rintro ⟨later, earlier, split, _⟩
  simp at split

theorem running_cons (dealing : Dealing) (history : List Dealing) :
    Running (dealing :: history) ↔
      dealing = .begun ∨ (dealing ≠ .ended ∧ Running history) := by
  refine ⟨?_, ?_⟩
  · rintro ⟨later, earlier, split, unended⟩
    cases later with
    | nil => exact .inl (List.cons.inj split).1
    | cons first rest =>
        obtain ⟨rfl, behind⟩ := List.cons.inj split
        rw [List.mem_cons, not_or] at unended
        exact .inr ⟨Ne.symm unended.1, rest, earlier, behind, unended.2⟩
  · rintro (rfl | ⟨proceeds, later, earlier, rfl, unended⟩)
    · exact ⟨[], history, rfl, List.not_mem_nil⟩
    · refine ⟨dealing :: later, earlier, rfl, ?_⟩
      rw [List.mem_cons, not_or]
      exact ⟨Ne.symm proceeds, unended⟩

namespace Logger

inductive Served (logger : Logger) : Call → Answer → Logger → Prop where
  | pattern (pattern : String) :
      Served logger (.setPattern pattern) .done (logger.setPattern pattern)
  | enabled (enabled : Bool) :
      Served logger (.setEnabled enabled) .done (logger.setEnabled enabled)
  | condition (condition : Option String) :
      Served logger (.setCondition condition) .done (logger.setCondition condition)
  | loggerName (loggerName : Option String) :
      Served logger (.setLoggerName loggerName) .done (logger.setLoggerName loggerName)
  | settings (settings : LogSettings) :
      Served logger (.apply settings) .done (logger.apply settings)
  | started (idle : logger.phase ≠ .started) (named : logger.isNamed = true) :
      Served logger .start (.settled (.ok ())) { logger with phase := .started }
  | unstarted (error : SetupError)
      (refused : logger.phase = .started ∨ logger.isNamed = false) :
      Served logger .start (.settled (.error error)) logger
  | stopped (running : logger.phase = .started) :
      Served logger .stop (.settled (.ok ())) { logger with phase := .stopped }
  | unstopped (error : SetupError) (idle : logger.phase ≠ .started) :
      Served logger .stop (.settled (.error error)) logger
  | written (request : Request) (moment : Moment) (active : logger.isActive = true)
      (admitted : logger.skips request = false) :
      Served logger (.log request moment)
        (.line (some (logger.pattern.write request moment logger.cache).1))
        ({ logger with cache := (logger.pattern.write request moment logger.cache).2 }.pass
          (logger.pattern.write request moment logger.cache).1)
  | withheld (request : Request) (moment : Moment)
      (silent : logger.isActive = false ∨ logger.skips request = true) :
      Served logger (.log request moment) (.line none) logger
  | passed (line : String) : Served logger (.pass line) .done (logger.pass line)

section Start

variable (logger : Logger) (idle : logger.phase ≠ .started)

include idle

theorem start_named (named : logger.isNamed = true) :
    logger.start = (.ok (), { logger with phase := .started }) := by
  simp [start, Phase.startWith, Phase.start, idle, named]

theorem start_unnamed (unnamed : logger.isNamed = false) :
    logger.start = (.error noName, logger) := by
  simp [start, Phase.startWith, Phase.start, idle, unnamed]

end Start

theorem start_served (logger : Logger) :
    Served logger .start (.settled logger.start.1) logger.start.2 := by
  by_cases running : logger.phase = .started
  · have begins : logger.phase.start = (.error Phase.alreadyStarted, logger.phase) := if_pos running
    have refused : logger.start = (.error Phase.alreadyStarted, logger) := by
      rw [start, Phase.startWith, begins]
    rw [refused]
    exact .unstarted _ (.inl running)
  · cases named : logger.isNamed with
    | true =>
        rw [start_named logger running named]
        exact .started running named
    | false =>
        rw [start_unnamed logger running named]
        exact .unstarted _ (.inr named)

theorem stop_served (logger : Logger) :
    Served logger .stop (.settled logger.stop.1) logger.stop.2 := by
  by_cases running : logger.phase = .started
  · have ended : logger.stop = (.ok (), { logger with phase := .stopped }) := by
      simp [stop, Phase.stop, running]
    rw [ended]
    exact .stopped running
  · have refused : logger.stop = (.error Phase.neverStarted, logger) := by
      simp [stop, Phase.stop, running]
    rw [refused]
    exact .unstopped _ running

theorem log_served (logger : Logger) (request : Request) (moment : Moment) :
    Served logger (.log request moment) (.line (logger.log request moment).1)
      (logger.log request moment).2 := by
  cases active : logger.isActive with
  | false =>
      have silent : logger.log request moment = (none, logger) := by simp [log, active]
      rw [silent]
      exact .withheld request moment (.inl active)
  | true =>
      cases skipped : logger.skips request with
      | true =>
          have silent : logger.log request moment = (none, logger) := by simp [log, skipped]
          rw [silent]
          exact .withheld request moment (.inr skipped)
      | false =>
          have shown : logger.log request moment =
              (some (logger.pattern.write request moment logger.cache).1,
                { logger with cache := (logger.pattern.write request moment logger.cache).2 }.pass
                  (logger.pattern.write request moment logger.cache).1) := by
            simp [log, active, skipped]
          rw [shown]
          exact .written request moment active skipped

theorem serve_served (logger : Logger) (call : Call) :
    Served logger call (logger.serve call).1 (logger.serve call).2 := by
  cases call with
  | setPattern pattern => exact .pattern pattern
  | setEnabled enabled => exact .enabled enabled
  | setCondition condition => exact .condition condition
  | setLoggerName loggerName => exact .loggerName loggerName
  | apply settings => exact .settings settings
  | start => exact start_served logger
  | stop => exact stop_served logger
  | log request moment => exact log_served logger request moment
  | pass line => exact .passed line

section Served

variable (logger next : Logger) (call : Call) (answer : Answer)
  (served : Served logger call answer next)

include served

theorem served_pattern :
    next.pattern = (call.pattern?.map Pattern.ofSetting).getD logger.pattern := by
  cases served <;> rfl

theorem served_enabled : next.enabled = call.enabled?.getD logger.enabled := by
  cases served <;> rfl

theorem served_condition : next.condition = call.condition?.getD logger.condition := by
  cases served <;> rfl

theorem served_logger_name : next.loggerName = call.loggerName?.getD logger.loggerName := by
  cases served <;> rfl

theorem served_phase : next.phase = .started ↔ Dealing.mk call answer = .begun ∨
    (Dealing.mk call answer ≠ .ended ∧ logger.phase = .started) := by
  cases served <;> simp [Dealing.begun, Dealing.ended, setPattern, setEnabled, setCondition,
    setLoggerName, apply, pass]

theorem served_cache :
    next.cache = Dealing.cacheAfter logger.pattern logger.cache ⟨call, answer⟩ := by
  cases served <;> rfl

theorem served_lines :
    next.lines = logger.lines ++ (Dealing.line? ⟨call, answer⟩).toList := by
  cases served <;> first | rfl | exact (List.append_nil _).symm

end Served

-- What a history tells about its logger.
structure Follows (clock : Clock) (history : List Dealing) (logger : Logger) : Prop where
  pattern : logger.pattern = .ofSetting (lastSet Call.pattern? "" history)
  enabled : logger.enabled = lastSet Call.enabled? true history
  condition : logger.condition = lastSet Call.condition? none history
  loggerName : logger.loggerName = lastSet Call.loggerName? none history
  phase : logger.phase = .started ↔ Running history
  cache : logger.cache = cacheBehind clock history
  lines : logger.lines = (history.filterMap Dealing.line?).reverse

theorem fresh_follows (clock : Clock) : Follows clock [] (fresh clock) where
  pattern := by
    have blank : elementsOf "" = [] := scan_end [] []
    simp [fresh, Pattern.empty, Pattern.ofSetting, Pattern.compile, Pattern.expand, blank, lastSet]
  enabled := rfl
  condition := rfl
  loggerName := rfl
  phase := ⟨nofun, fun running => absurd running not_running⟩
  cache := rfl
  lines := rfl

theorem served_follows (clock : Clock) (history : List Dealing) (logger next : Logger) (call : Call)
    (answer : Answer) (follows : Follows clock history logger)
    (served : Served logger call answer next) :
    Follows clock (⟨call, answer⟩ :: history) next where
  pattern := by
    rw [served_pattern logger next call answer served, follows.pattern, last_set_cons]
    cases call.pattern? <;> rfl
  enabled := by
    rw [served_enabled logger next call answer served, follows.enabled, last_set_cons]
  condition := by
    rw [served_condition logger next call answer served, follows.condition, last_set_cons]
  loggerName := by
    rw [served_logger_name logger next call answer served, follows.loggerName, last_set_cons]
  phase := by
    rw [served_phase logger next call answer served, follows.phase, running_cons]
  cache := by
    rw [served_cache logger next call answer served, follows.pattern, follows.cache, cacheBehind]
  lines := by
    rw [served_lines logger next call answer served, follows.lines, List.filterMap_cons]
    cases Dealing.line? ⟨call, answer⟩ <;> simp

theorem serve_all_follows (clock : Clock) (history : List Dealing) (logger : Logger)
    (calls : List Call) (follows : Follows clock history logger) :
    Follows clock (logger.serveAll history calls).2 (logger.serveAll history calls).1 := by
  induction calls generalizing logger history with
  | nil => exact follows
  | cons call later ih =>
      exact ih _ _ (served_follows clock history logger _ call _ follows (serve_served logger call))

theorem is_active_iff (logger : Logger) :
    logger.isActive = true ↔ logger.phase = .started ∧ logger.enabled = true := by
  simp [isActive, Phase.isStarted]

theorem is_named_iff (logger : Logger) :
    logger.isNamed = true ↔ ∃ name, logger.loggerName = some name ∧ name ≠ "" := by
  unfold isNamed
  cases logger.loggerName <;> simp

theorem skips_iff (logger : Logger) (request : Request) : logger.skips request = true ↔
    ∃ name, logger.condition = some name ∧ (request.attribute? name).isSome = true := by
  unfold skips
  cases logger.condition <;> simp

theorem serve_all_calls (history : List Dealing) (logger : Logger) (calls : List Call) :
    (logger.serveAll history calls).2.reverse.map Dealing.call =
      history.reverse.map Dealing.call ++ calls := by
  induction calls generalizing logger history with
  | nil => exact (List.append_nil _).symm
  | cons call later ih =>
      rw [serveAll, ih]
      simp

section Follows

variable (clock : Clock) (history : List Dealing) (logger : Logger)
  (follows : Follows clock history logger)

include follows

theorem follows_active : logger.isActive = true ↔
    Running history ∧ lastSet Call.enabled? true history = true := by
  rw [is_active_iff, follows.phase, follows.enabled]

theorem follows_log (request : Request) (moment : Moment) :
    ((logger.log request moment).1.isSome = true ↔
      (Running history ∧ lastSet Call.enabled? true history = true) ∧
      ¬ ∃ name, lastSet Call.condition? none history = some name ∧
        (request.attribute? name).isSome = true) ∧
    (∀ line, (logger.log request moment).1 = some line → line =
      ((Pattern.ofSetting (lastSet Call.pattern? "" history)).write request moment
        (cacheBehind clock history)).1) ∧
    ((logger.log request moment).1 = none → (logger.log request moment).2 = logger) := by
  rw [← follows_active clock history logger follows, ← follows.condition,
    ← follows.pattern, ← follows.cache, ← skips_iff]
  generalize given : (logger.log request moment).1 = answer
  generalize left : (logger.log request moment).2 = next
  have served := log_served logger request moment
  rw [given, left] at served
  cases served with
  | written _ _ active admitted =>
      refine ⟨by simp [active, admitted], ?_, nofun⟩
      intro line same
      exact (Option.some.inj same).symm
  | withheld _ _ silent =>
      refine ⟨?_, nofun, fun _ => rfl⟩
      rcases silent with inactive | skipped
      · simp [inactive]
      · simp [skipped]

theorem follows_start :
    (logger.start.1 = .ok () ↔ ¬ Running history ∧
      ∃ name, lastSet Call.loggerName? none history = some name ∧ name ≠ "") ∧
    ∀ error, logger.start.1 = .error error → logger.start.2 = logger := by
  rw [← follows.phase, ← follows.loggerName, ← is_named_iff]
  generalize given : logger.start.1 = answer
  generalize left : logger.start.2 = next
  have served := start_served logger
  rw [given, left] at served
  cases served with
  | started idle named => exact ⟨by simp [idle, named], nofun⟩
  | unstarted error refused =>
      refine ⟨?_, fun _ _ => rfl⟩
      rcases refused with running | unnamed
      · simp [running]
      · simp [unnamed]

theorem follows_stop : (logger.stop.1 = .ok () ↔ Running history) ∧
    ∀ error, logger.stop.1 = .error error → logger.stop.2 = logger := by
  rw [← follows.phase]
  generalize given : logger.stop.1 = answer
  generalize left : logger.stop.2 = next
  have served := stop_served logger
  rw [given, left] at served
  cases served with
  | stopped running => exact ⟨by simp [running], nofun⟩
  | unstopped error idle => exact ⟨by simp [idle], fun _ _ => rfl⟩

end Follows

end Logger

def busyDay : List Call :=
  [.start, .setPattern "%m", .setLoggerName (some "access"), .start, .start, .log visit midnight,
    .apply ⟨true, "%U", some "quiet", some "access"⟩,
    .log { visit with attributes := [("quiet", "")] } midnight, .log visit midnight,
    .setEnabled false, .log visit midnight, .pass "as it is", .setEnabled true, .stop, .stop,
    .log visit midnight]

end LogRelay.AccessLog
