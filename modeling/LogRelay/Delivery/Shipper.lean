import LogRelay.Delivery.Courier
import LogRelay.Delivery.Event

/-!
Shipping events: each event that is severe enough and is not one of this library's own becomes one
line and one delivery. The warnings about dropped lines are such events of the library's own, so
they can be shown to the shipper that caused them without another delivery following.
-/
set_option autoImplicit false

namespace LogRelay.Delivery

open Wire

def ownTarget : String := "quill_scribe"

structure Digest where
  message : String
  fields : String
  trace : List String
deriving DecidableEq

namespace Digest

def empty : Digest := ⟨"", "", []⟩

def attach (digest : Digest) (name value : String) : Digest :=
  { digest with fields := digest.fields ++ " " ++ name ++ "=" ++ value }

-- The first error gives the trace; a later one is a field like another.
def add (digest : Digest) (field : String × FieldValue) : Digest :=
  match field.2 with
  | .error chain =>
      if digest.trace = [] then { digest with trace := chain.texts }
      else digest.attach field.1 chain.text
  | value =>
      if field.1 = messageField then { digest with message := digest.message ++ value.text }
      else digest.attach field.1 value.text

end Digest

def Event.digest (event : Event) : Digest := event.fields.foldl Digest.add .empty

def Layout.eventLine (layout : Layout) (event : Event) : String :=
  let digest := event.digest
  layout.line (event.level.name ++ " - " ++ digest.message ++ digest.fields) digest.trace

structure Shipper where
  category : String
  layout : Layout
  maxLevel : Level

namespace Shipper

def admits (shipper : Shipper) (event : Event) : Bool :=
  event.level.verbosity ≤ shipper.maxLevel.verbosity &&
    !ownTarget.toList.isPrefixOf event.target.toList

def observe {m : Type → Type} [Monad m] {κ : Type} (shipper : Shipper) (transport : Transport m κ)
    (tell : Report → m Unit) (courier : Courier κ) (event : Event) : m (Courier κ) := do
  if shipper.admits event then
    let entry := ⟨shipper.category, shipper.layout.eventLine event⟩
    let (_, courier) ← courier.deliver transport tell entry
    pure courier
  else pure courier

end Shipper

def Drop.warning (drop : Drop) : Event :=
  let line := drop.entry.message
  let shared := [("engine", FieldValue.plain drop.courier),
    ("category", FieldValue.plain drop.entry.category)]
  let failed := fun (failure : Failure) => [("error", FieldValue.plain failure.message)]
  let (text, extra) :=
    match drop.outcome, drop.failure with
    | .noConnection, some failure => ("DROP - no connection: ", failed failure)
    | .noConnection, none => ("DROP - no connection: ", [])
    | .overloaded, _ => ("DROP - TRY_LATER: ", [])
    | _, some failure => ("DROP - transport failure: ", failed failure)
    | outcome, none => ("DROP: ", [("outcome", FieldValue.plain outcome.name)])
  ⟨.warn, ownTarget ++ "::sink", (messageField, .plain (text ++ line)) :: shared ++ extra⟩

def Report.warnings : Report → List Event
  | .delivered => []
  | .dropped drop => [drop.warning]

end LogRelay.Delivery
