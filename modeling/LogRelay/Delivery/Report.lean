import LogRelay.Delivery.Failure
import LogRelay.Delivery.Outcome

set_option autoImplicit false

namespace LogRelay.Delivery

structure Drop where
  courier : String
  outcome : Outcome
  entry : Wire.Entry
  failure : Option Failure
deriving DecidableEq

inductive Report where
  | delivered
  | dropped (drop : Drop)
deriving DecidableEq

def Report.outcome : Report → Outcome
  | .delivered => .delivered
  | .dropped drop => drop.outcome

-- A count of each outcome; counts wrap at 2^64.
structure Tally where
  delivered : UInt64
  noConnection : UInt64
  overloaded : UInt64
  failed : UInt64
deriving DecidableEq

namespace Tally

def zero : Tally := ⟨0, 0, 0, 0⟩

def count (tally : Tally) : Outcome → Tally
  | .delivered => { tally with delivered := tally.delivered + 1 }
  | .noConnection => { tally with noConnection := tally.noConnection + 1 }
  | .overloaded => { tally with overloaded := tally.overloaded + 1 }
  | .failed => { tally with failed := tally.failed + 1 }

def get (tally : Tally) : Outcome → UInt64
  | .delivered => tally.delivered
  | .noConnection => tally.noConnection
  | .overloaded => tally.overloaded
  | .failed => tally.failed

def getCode (tally : Tally) (code : UInt8) : Except Outcome.Unknown UInt64 :=
  match Outcome.ofCode code with
  | .error unknown => .error unknown
  | .ok outcome => .ok (tally.get outcome)

def dropped (tally : Tally) : UInt64 :=
  ((Outcome.all.filter Outcome.isDrop).map tally.get).foldl (· + ·) 0

def snapshot (tally : Tally) : List (Outcome × UInt64) :=
  Outcome.all.map fun outcome => (outcome, tally.get outcome)

def tell (report : Report) (tally : Tally) : Tally := tally.count report.outcome

end Tally

-- A tally beside the reports themselves, the last first.
structure Journal where
  tally : Tally
  reports : List Report
deriving DecidableEq

def Journal.empty : Journal := ⟨.zero, []⟩

def Journal.tell (report : Report) (journal : Journal) : Journal :=
  ⟨journal.tally.tell report, report :: journal.reports⟩

-- Who is told: a leaf, named by `ι`, or several receivers in order. A leaf may stand in several
-- places.
inductive Receiver (ι : Type) where
  | leaf (name : ι)
  | fanout (receivers : List (Receiver ι))

mutual

def Receiver.tell {ι σ : Type} (tell : ι → Report → σ → σ) (report : Report) :
    Receiver ι → σ → σ
  | .leaf name, state => tell name report state
  | .fanout receivers, state => Receiver.tellAll tell report receivers state

def Receiver.tellAll {ι σ : Type} (tell : ι → Report → σ → σ) (report : Report) :
    List (Receiver ι) → σ → σ
  | [], state => state
  | receiver :: rest, state =>
      Receiver.tellAll tell report rest (Receiver.tell tell report receiver state)

end

end LogRelay.Delivery
