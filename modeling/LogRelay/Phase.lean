/-!
The life of a component: it is set up, started, stopped and started again. A start whose preparation
fails is taken back, unless the preparation has already moved the component on.
-/
set_option autoImplicit false

namespace LogRelay

inductive SetupError where
  | configuration (detail : String)
  | lifecycle (detail : String)
  | io (detail : String)
  | unreadable
deriving DecidableEq, Repr

def SetupError.message : SetupError → String
  | .configuration detail => "Config error: " ++ detail
  | .lifecycle detail => "Lifecycle error: " ++ detail
  | .io detail => "IO error: " ++ detail
  | .unreadable => "Config load error"

def SetupError.isConfiguration : SetupError → Bool
  | .configuration _ | .unreadable => true
  | .lifecycle _ | .io _ => false

inductive Phase where
  | notStarted
  | started
  | stopped
deriving DecidableEq, Repr

namespace Phase

def name : Phase → String
  | .notStarted => "not_started"
  | .started => "started"
  | .stopped => "stopped"

def isStarted (phase : Phase) : Bool := phase == .started

def alreadyStarted : SetupError := .lifecycle "component already started"

def neverStarted : SetupError := .lifecycle "component not started"

def start (phase : Phase) : Except SetupError Unit × Phase :=
  if phase = .started then (.error alreadyStarted, phase) else (.ok (), .started)

def stop (phase : Phase) : Except SetupError Unit × Phase :=
  if phase = .started then (.ok (), .stopped) else (.error neverStarted, phase)

-- Starts, then prepares. The preparation sees the component started and may itself stop or start
-- it; when it fails and the component is still started, the former phase returns.
def startWith (prepare : Phase → Except SetupError Unit × Phase) (phase : Phase) :
    Except SetupError Unit × Phase :=
  match phase.start with
  | (.error refused, same) => (.error refused, same)
  | (.ok (), begun) =>
      match prepare begun with
      | (.ok (), reached) => (.ok (), reached)
      | (.error failed, reached) =>
          (.error failed, if reached = .started then phase else reached)

end Phase

end LogRelay
