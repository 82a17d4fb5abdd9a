import LogRelay.Delivery.Courier

set_option autoImplicit false

namespace LogRelay.Delivery

open Wire

structure Cue where
  answer : Except Failure Verdict
  staysOpen : Bool

-- What is still to be played and what was asked so far; the entries sent are kept the last
-- first.
structure Stage where
  cues : List Cue
  refusal : Option Failure
  connects : Nat
  closes : Nat
  sent : List Entry

namespace Stage

def start (cues : List Cue) (refusal : Option Failure) : Stage := ⟨cues, refusal, 0, 0, []⟩

-- Answers with the next cue; a script that is over goes on accepting.
def play (entry : Entry) (stage : Stage) : Cue × Stage :=
  let sent := entry :: stage.sent
  match stage.cues with
  | [] => (⟨.ok .ok, true⟩, { stage with sent })
  | cue :: cues => (cue, { stage with cues, sent })

def connect (stage : Stage) : Except Failure Bool × Stage :=
  let counted := { stage with connects := stage.connects + 1 }
  match stage.refusal with
  | some failure => (.error failure, counted)
  | none => (.ok true, counted)

-- Connections to a stage; each is known by whether it is open.
def transport (endpoint : String) : Transport (StateM Stage) Bool where
  endpoint := endpoint
  connect := connect
  submit _ entry stage :=
    let (cue, stage) := stage.play entry
    ((cue.answer, cue.staysOpen), stage)
  isOpen connection := pure connection
  close _ stage := ((), { stage with closes := stage.closes + 1 })

end Stage

end LogRelay.Delivery
