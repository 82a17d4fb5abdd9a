import LogRelay.AccessLog.Line
import LogRelay.Config.Settings
import LogRelay.Delivery.Event
import LogRelay.Phase

/-!
The access logger: writes a line for each request while it is started and enabled, unless the
request carries the attribute that its condition names. It can be changed at any time, also while
a request is under way.
-/
set_option autoImplicit false

namespace LogRelay.AccessLog

open Config

structure Logger where
  pattern : Pattern
  enabled : Bool
  condition : Option String
  loggerName : Option String
  phase : Phase
  cache : StampCache
  lines : List String

namespace Logger

def fresh (clock : Clock) : Logger where
  pattern := .empty
  enabled := true
  condition := none
  loggerName := none
  phase := .notStarted
  cache := .start clock
  lines := []

def setPattern (logger : Logger) (pattern : String) : Logger :=
  { logger with pattern := .ofSetting pattern }

def setEnabled (logger : Logger) (enabled : Bool) : Logger :=
  { logger with enabled }

def setCondition (logger : Logger) (condition : Option String) : Logger :=
  { logger with condition }

def setLoggerName (logger : Logger) (loggerName : Option String) : Logger :=
  { logger with loggerName }

def apply (logger : Logger) (settings : LogSettings) : Logger :=
  (((logger.setPattern settings.pattern).setEnabled settings.enabled).setCondition
    settings.condition).setLoggerName settings.loggerName

def ofSettings (clock : Clock) (settings : LogSettings) : Logger :=
  (fresh clock).apply settings

def noName : SetupError := .lifecycle "access log valve: no logger name set"

def isNamed (logger : Logger) : Bool :=
  match logger.loggerName with
  | none => false
  | some name => name ≠ ""

def start (logger : Logger) : Except SetupError Unit × Logger :=
  let prepare := fun phase => (if logger.isNamed then .ok () else .error noName, phase)
  let (result, phase) := logger.phase.startWith prepare
  (result, { logger with phase })

def stop (logger : Logger) : Except SetupError Unit × Logger :=
  let (result, phase) := logger.phase.stop
  (result, { logger with phase })

def isActive (logger : Logger) : Bool := logger.phase.isStarted && logger.enabled

def skips (logger : Logger) (request : Request) : Bool :=
  match logger.condition with
  | none => false
  | some name => (request.attribute? name).isSome

def pass (logger : Logger) (line : String) : Logger :=
  { logger with lines := logger.lines ++ [line] }

def log (logger : Logger) (request : Request) (moment : Moment) : Option String × Logger :=
  if !logger.isActive || logger.skips request then (none, logger)
  else
    let (line, cache) := logger.pattern.write request moment logger.cache
    (some line, { logger with cache }.pass line)

-- Runs the handling of a request, which may change the logger and have other effects in the monad
-- `m`, and logs the request that it gives if the logger was active before.
def aroundIn {m : Type → Type} [Monad m] (logger : Logger) (moment : Moment)
    (handle : Logger → m (Request × Logger)) : m (Request × Logger) := do
  if logger.isActive then
    let (request, changed) ← handle logger
    pure (request, (changed.log request moment).2)
  else handle logger

def around (logger : Logger) (moment : Moment) (handle : Logger → Request × Logger) :
    Request × Logger :=
  Id.run (logger.aroundIn moment handle)

end Logger

def lineEvent (loggerName line : String) : Delivery.Event :=
  ⟨.info, "access_log", [("logger", .plain loggerName), (Delivery.messageField, .plain line)]⟩

end LogRelay.AccessLog
