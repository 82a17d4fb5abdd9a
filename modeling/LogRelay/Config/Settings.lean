import LogRelay.Config.Value
import LogRelay.Delivery.Line
import LogRelay.Delivery.Link
import LogRelay.Phase

/-!
The settings: of the access log and of the collector. They are read from values, in which every
field may be missing, and written as values that read back as the same settings.
-/
set_option autoImplicit false

namespace LogRelay.Config

structure LogSettings where
  enabled : Bool
  pattern : String
  condition : Option String
  loggerName : Option String
deriving DecidableEq, Repr

structure CollectorSettings where
  host : String
  port : UInt16
  category : String
  localHost : Option String
  causes : UInt64
  connectTimeout : Option UInt64
  ioTimeout : Option UInt64
deriving DecidableEq, Repr

structure Settings where
  log : LogSettings
  collector : CollectorSettings
deriving DecidableEq, Repr

namespace LogSettings

def standard : LogSettings := ⟨true, "common", none, none⟩

def ofValue? (value : Value) : Option LogSettings := do
  guard (value.isRecord 4)
  let enabled ← value.readField 0 "enabled" Value.truth? standard.enabled
  let pattern ← value.readField 1 "pattern" Value.text? standard.pattern
  let condition ← value.readField 2 "condition" (Value.orNull Value.text?) standard.condition
  let loggerName ← value.readField 3 "logger_name" (Value.orNull Value.text?) standard.loggerName
  pure { enabled, pattern, condition, loggerName }

end LogSettings

namespace CollectorSettings

def standard : CollectorSettings := ⟨"127.0.0.1", 1463, "default", none, 1, none, none⟩

def ofValue? (value : Value) : Option CollectorSettings := do
  guard (value.isRecord 7)
  let host ← value.readField 0 "remote_host" Value.text? standard.host
  let port ← value.readField 1 "remote_port" Value.word16? standard.port
  let category ← value.readField 2 "category" Value.text? standard.category
  let localHost ←
    value.readField 3 "local_hostname" (Value.orNull Value.text?) standard.localHost
  let causes ← value.readField 4 "stack_trace_depth" Value.word64? standard.causes
  let connectTimeout ←
    value.readField 5 "connect_timeout_ms" (Value.orNull Value.word64?) standard.connectTimeout
  let ioTimeout ←
    value.readField 6 "io_timeout_ms" (Value.orNull Value.word64?) standard.ioTimeout
  pure { host, port, category, localHost, causes, connectTimeout, ioTimeout }

inductive Invalid where
  | category
  | host
  | port
  | connectTimeout
  | ioTimeout
  | localHost
deriving DecidableEq, Repr

def Invalid.message : Invalid → String
  | .category => "category must not be empty"
  | .host => "remote host must not be empty"
  | .port => "remote port must be a positive integer"
  | .connectTimeout => "connect timeout must be a positive number of milliseconds"
  | .ioTimeout => "io timeout must be a positive number of milliseconds"
  | .localHost => "local hostname must be a single line"

def breaksLine (text : String) : Bool :=
  text.toList.any fun c => c = '\r' || c = '\n'

def invalid? (settings : CollectorSettings) : Option Invalid :=
  if settings.category = "" then some .category
  else if settings.host = "" then some .host
  else if settings.port = 0 then some .port
  else if settings.connectTimeout = some 0 then some .connectTimeout
  else if settings.ioTimeout = some 0 then some .ioTimeout
  else if settings.localHost.any breaksLine then some .localHost
  else none

def validate (settings : CollectorSettings) : Except SetupError Unit :=
  match settings.invalid? with
  | none => .ok ()
  | some invalid => .error (.configuration invalid.message)

def endpoint (settings : CollectorSettings) : Delivery.Endpoint where
  host := settings.host
  port := settings.port
  patience :=
    ⟨settings.connectTimeout.map UInt64.toNat, settings.ioTimeout.map UInt64.toNat⟩

end CollectorSettings

namespace Settings

def standard : Settings := ⟨.standard, .standard⟩

def ofValue? (value : Value) : Option Settings := do
  guard (value.isRecord 2)
  let log ← value.readField 0 "access_log" LogSettings.ofValue? .standard
  let collector ← value.readField 1 "scribe" CollectorSettings.ofValue? .standard
  pure ⟨log, collector⟩

def validate (settings : Settings) : Except SetupError Unit := settings.collector.validate

end Settings

def optionalText (text : Option String) : Value :=
  match text with
  | none => .null
  | some text => .text text

def optionalWord (word : Option UInt64) : Value :=
  match word with
  | none => .null
  | some word => .whole word.toNat

def LogSettings.toValue (settings : LogSettings) : Value :=
  .map [("enabled", .truth settings.enabled), ("pattern", .text settings.pattern),
    ("condition", optionalText settings.condition),
    ("logger_name", optionalText settings.loggerName)]

def CollectorSettings.toValue (settings : CollectorSettings) : Value :=
  .map [("remote_host", .text settings.host), ("remote_port", .whole settings.port.toNat),
    ("category", .text settings.category), ("local_hostname", optionalText settings.localHost),
    ("stack_trace_depth", .whole settings.causes.toNat),
    ("connect_timeout_ms", optionalWord settings.connectTimeout),
    ("io_timeout_ms", optionalWord settings.ioTimeout)]

def Settings.toValue (settings : Settings) : Value :=
  .map [("access_log", settings.log.toValue), ("scribe", settings.collector.toValue)]

-- The name of this host: as configured, else as the environment or the system gives it, else
-- empty. An empty name in the environment is none.
def hostName (configured environment system : Option String) : String :=
  match configured with
  | some name => name
  | none => ((environment.filter (· ≠ "")) <|> system).getD ""

def CollectorSettings.layout (settings : CollectorSettings) (environment system : Option String) :
    Delivery.Layout :=
  ⟨hostName settings.localHost environment system, settings.causes.toNat⟩

end LogRelay.Config
