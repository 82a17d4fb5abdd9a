import LogRelay.Delivery.Report

/-!
A courier delivers entries one at a time over at most one connection. It connects when an entry
needs it, never sends an entry twice, and tells about every delivery once.
-/
set_option autoImplicit false

namespace LogRelay.Delivery

open Wire

-- What a courier needs of a network: connections of type `κ` to one place, used in the monad
-- `m`.
structure Transport (m : Type → Type) (κ : Type) where
  endpoint : String
  connect : m (Except Failure κ)
  submit : κ → Entry → m (Except Failure Verdict × κ)
  isOpen : κ → m Bool
  close : κ → m Unit

def Transport.lift {m n : Type → Type} {κ : Type} (transport : Transport m κ)
    (run : {α : Type} → m α → n α) : Transport n κ where
  endpoint := transport.endpoint
  connect := run transport.connect
  submit connection entry := run (transport.submit connection entry)
  isOpen connection := run (transport.isOpen connection)
  close connection := run (transport.close connection)

structure Courier (κ : Type) where
  name : String
  held : Option κ

namespace Courier

variable {m : Type → Type} [Monad m] {κ : Type}

def idle (name : String) : Courier κ := ⟨name, none⟩

def release (transport : Transport m κ) (courier : Courier κ) : m (Courier κ) :=
  match courier.held with
  | none => pure courier
  | some connection => do
      transport.close connection
      pure { courier with held := none }

def isConnected (transport : Transport m κ) (courier : Courier κ) : m Bool :=
  match courier.held with
  | none => pure false
  | some connection => transport.isOpen connection

def acquire (transport : Transport m κ) (courier : Courier κ) : m (Except Failure κ) := do
  match courier.held with
  | none => transport.connect
  | some connection =>
      if ← transport.isOpen connection then pure (.ok connection)
      else
        transport.close connection
        transport.connect

def drop (tell : Report → m Unit) (courier : Courier κ) (outcome : Outcome) (entry : Entry)
    (failure : Option Failure) : m (Outcome × Courier κ) := do
  tell (.dropped ⟨courier.name, outcome, entry, failure⟩)
  pure (outcome, courier)

def deliver (transport : Transport m κ) (tell : Report → m Unit) (courier : Courier κ)
    (entry : Entry) : m (Outcome × Courier κ) := do
  match ← courier.acquire transport with
  | .error failure =>
      let courier := { courier with held := none }
      courier.drop tell .noConnection entry (some failure)
  | .ok connection =>
      let (answer, connection) ← transport.submit connection entry
      let courier := { courier with held := some connection }
      match answer with
      | .ok .ok =>
          tell .delivered
          pure (.delivered, courier)
      | .ok .tryLater => courier.drop tell .overloaded entry none
      | .error failure =>
          let courier ← if failure.endsConnection then courier.release transport else pure courier
          courier.drop tell .failed entry (some failure)

end Courier

end LogRelay.Delivery
