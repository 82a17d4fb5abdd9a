import LogRelay.Command.Load
import LogRelay.Command.Order
import LogRelay.Config.Load
import LogRelay.Delivery.Shipper

/-!
Carrying out a command line. Settings come from the file and the environment if the file exists,
else they are the standard ones; options of the command line overrule them.
-/
set_option autoImplicit false

namespace LogRelay.Command

open AccessLog Config Delivery

inductive File where
  | missing
  | other
  | unreadable
  | text (content : String)
deriving DecidableEq, Repr

-- What tasks need of their surroundings, in the monad `m`, with connections of type `κ`.
structure Surroundings (m : Type → Type) (κ : Type) where
  environment : List (String × String)
  systemName : Option String
  clock : Clock
  thread : Option String
  now : m Instant
  milliseconds : m Nat
  file : String → m File
  transport : Endpoint → Transport m κ
  collect : String → Wire.Verdict → m Bool
  print : String → m Unit

def Invocation.overrule (invocation : Invocation) (settings : Settings) : Settings :=
  let collector := settings.collector
  { settings with
    collector := { collector with
      host := invocation.host.getD collector.host
      port := invocation.port.getD collector.port
      category := invocation.category.getD collector.category } }

def settled (path : String) : Loading → Except Problem Settings
  | .ok settings => .ok settings
  | .error error => .error (.loading path error)
  | .stopped => .error .stopped

-- Without a file the environment does not count. What is no file, such as a folder, has nothing in
-- it, and an environment that stops its reader does so over a file that cannot be read as well.
def readFile (path : String) (environment : List (String × String)) :
    File → Except Problem Settings
  | .missing => .ok .standard
  | .other => settled path (Settings.load none environment)
  | .unreadable =>
      .error (if (ofEnvironment? environment).isSome then .loading path .unreadable else .stopped)
  | .text content => settled path (Settings.load (some content) environment)

def Invocation.settings (invocation : Invocation) (environment : List (String × String))
    (file : File) : Except Problem Settings :=
  match readFile invocation.config environment file with
  | .error problem => .error problem
  | .ok settings =>
      let settings := invocation.overrule settings
      match settings.validate with
      | .error error => .error (.setup error)
      | .ok () => .ok settings

def countsText (counts : List (String × UInt64)) : String :=
  let entry := fun (name, count) => "\"" ++ name ++ "\":" ++ Decimal.ofNat (UInt64.toNat count)
  "\x7b" ++ ",".intercalate (counts.map entry) ++ "\x7d"

def tallyText (tally : Tally) : String :=
  countsText (tally.snapshot.map fun (outcome, count) => (outcome.name, count))

section Tasks

variable {m : Type → Type} [Monad m] {κ : Type}

def layoutOf (around : Surroundings m κ) (settings : CollectorSettings) : Layout :=
  settings.layout (around.environment.lookup "HOSTNAME") around.systemName

def tallied (around : Surroundings m κ) (settings : CollectorSettings) :
    Transport (StateT Tally m) κ :=
  (around.transport settings.endpoint).lift StateT.lift

def tellTally (report : Report) : StateT Tally m Unit := modify fun tally => tally.tell report

def tellBoth (tell : Report → m Unit) (report : Report) : StateT Tally m Unit := do
  tellTally report
  StateT.lift (tell report)

def shipperOf (around : Surroundings m κ) (settings : CollectorSettings) : Shipper :=
  ⟨settings.category, layoutOf around settings, .trace⟩

def eventOf (level : Level) (message : String) (errors : List String) : Event :=
  let attached :=
    match ErrorChain.ofTexts errors with
    | none => []
    | some chain => [("error", FieldValue.error chain)]
  ⟨level, "quill", (messageField, .plain message) :: attached⟩

-- Sends one event. What becomes of it is counted, and `tell` hears of it as well.
def runSend (around : Surroundings m κ) (settings : CollectorSettings) (tell : Report → m Unit)
    (event : Event) : m Unit := do
  let transport := tallied around settings
  let shipper := shipperOf around settings
  let ship : StateT Tally m Unit := do
    let courier ← shipper.observe transport (tellBoth tell) (.idle "scribe") event
    let _ ← courier.release transport
  let ((), tally) ← ship.run .zero
  around.print (tallyText tally)

def runBench (around : Surroundings m κ) (settings : CollectorSettings)
    (threads messages : UInt64) : m LoadReport := do
  let transport := tallied around settings
  let started ← around.milliseconds
  let deliver : StateT Tally m Unit := do
    let courier ← load transport tellTally settings.category (layoutOf around settings)
      threads.toNat messages.toNat
    let _ ← courier.release transport
  let ((), tally) ← deliver.run .zero
  let ended ← around.milliseconds
  pure ⟨threads, messages, ended - started, tally⟩

def runFormat (around : Surroundings m κ) (settings : Settings) (order : LineOrder) :
    m (Except Problem Unit) := do
  let now ← around.now
  match order.lines settings.log around.clock around.thread now with
  | .error problem => pure (.error problem)
  | .ok lines =>
      let transport := around.transport settings.collector.endpoint
      let write := fun (courier : Courier κ) line => do
        around.print line
        if order.ship then
          let entry := ⟨settings.collector.category, line⟩
          let (_, courier) ← courier.deliver transport (fun _ => pure ()) entry
          pure courier
        else pure courier
      let courier ← lines.foldlM write (.idle "scribe")
      let _ ← courier.release transport
      pure (.ok ())

def Task.run (around : Surroundings m κ) (settings : Settings) : Task → m (Except Problem Unit)
  | .send level message errors => do
      runSend around settings.collector (fun _ => pure ()) (eventOf level message errors)
      pure (.ok ())
  | .bench threads messages => do
      let report ← runBench around settings.collector threads messages
      around.print report.text
      pure (.ok ())
  | .collect address tryLater => do
      let verdict := if tryLater then .tryLater else .ok
      if ← around.collect address verdict then pure (.ok ()) else pure (.error (.binding address))
  | .format order => runFormat around settings order

def Invocation.run (around : Surroundings m κ) (invocation : Invocation) :
    m (Except Problem Unit) := do
  let file ← around.file invocation.config
  match invocation.settings around.environment file with
  | .error problem => pure (.error problem)
  | .ok settings => invocation.task.run around settings

end Tasks

end LogRelay.Command
