import LogRelay.Delivery.Courier

set_option autoImplicit false

namespace LogRelay.Delivery

open Wire

theorem run_bind {S α β : Type} (first : StateM S α) (next : α → StateM S β) (state : S) :
    (first >>= next).run state = (next (first.run state).1).run (first.run state).2 := rfl

inductive Errand where
  | deliver (entry : Entry)
  | close
  | inquire
deriving DecidableEq

def Errand.entry? : Errand → Option Entry
  | .deliver entry => some entry
  | .close => none
  | .inquire => none

theorem entries_cons (errand : Errand) (rest : List Errand) :
    (errand :: rest).filterMap Errand.entry? =
      errand.entry?.toList ++ rest.filterMap Errand.entry? := by
  cases errand <;> rfl

namespace Courier

variable {m : Type → Type} [Monad m] {κ : Type}

def perform (transport : Transport m κ) (tell : Report → m Unit) (courier : Courier κ) :
    Errand → m (Option Outcome × Courier κ)
  | .deliver entry => do
      let (outcome, courier) ← courier.deliver transport tell entry
      pure (some outcome, courier)
  | .close => do
      let courier ← courier.release transport
      pure (none, courier)
  | .inquire => do
      let _ ← courier.isConnected transport
      pure (none, courier)

def performAll (transport : Transport m κ) (tell : Report → m Unit) :
    Courier κ → List Errand → m (List Outcome × Courier κ)
  | courier, [] => pure ([], courier)
  | courier, errand :: rest => do
      let (outcome, courier) ← courier.perform transport tell errand
      let (outcomes, courier) ← performAll transport tell courier rest
      pure (outcome.toList ++ outcomes, courier)

section Run

variable {S : Type} (transport : Transport (StateM S) κ) (tell : Report → StateM S Unit)

theorem run_release (courier : Courier κ) (state : S) :
    (courier.release transport).run state =
      match courier.held with
      | none => (courier, state)
      | some connection =>
          ({ courier with held := none }, ((transport.close connection).run state).2) := by
  obtain ⟨name, held⟩ := courier
  cases held <;> rfl

theorem run_acquire (courier : Courier κ) (state : S) :
    (courier.acquire transport).run state =
      match courier.held with
      | none => transport.connect.run state
      | some connection =>
          match (transport.isOpen connection).run state with
          | (true, state) => (.ok connection, state)
          | (false, state) => transport.connect.run ((transport.close connection).run state).2 := by
  obtain ⟨name, held⟩ := courier
  cases held with
  | none => rfl
  | some connection =>
      simp only [acquire]
      rw [run_bind]
      cases (transport.isOpen connection).run state with
      | mk usable after => cases usable <;> rfl

theorem run_deliver (courier : Courier κ) (entry : Entry) (state : S) :
    (courier.deliver transport tell entry).run state =
      match (courier.acquire transport).run state with
      | (.error failure, state) =>
          ((.noConnection, { courier with held := none }),
            ((tell (.dropped ⟨courier.name, .noConnection, entry, some failure⟩)).run state).2)
      | (.ok connection, state) =>
          match (transport.submit connection entry).run state with
          | ((.ok .ok, connection), state) =>
              ((.delivered, { courier with held := some connection }),
                ((tell .delivered).run state).2)
          | ((.ok .tryLater, connection), state) =>
              ((.overloaded, { courier with held := some connection }),
                ((tell (.dropped ⟨courier.name, .overloaded, entry, none⟩)).run state).2)
          | ((.error failure, connection), state) =>
              if failure.endsConnection then
                ((.failed, { courier with held := none }),
                  ((tell (.dropped ⟨courier.name, .failed, entry, some failure⟩)).run
                    ((transport.close connection).run state).2).2)
              else
                ((.failed, { courier with held := some connection }),
                  ((tell (.dropped ⟨courier.name, .failed, entry, some failure⟩)).run state).2) := by
  rw [deliver, run_bind]
  cases (courier.acquire transport).run state with
  | mk acquired middle =>
      cases acquired with
      | error failure => rfl
      | ok connection =>
          dsimp only
          rw [run_bind]
          cases (transport.submit connection entry).run middle with
          | mk submitted final =>
              obtain ⟨answer, connection⟩ := submitted
              cases answer with
              | ok verdict => cases verdict <;> rfl
              | error failure =>
                  dsimp only
                  cases ends : failure.endsConnection <;> rfl

theorem run_perform (courier : Courier κ) (errand : Errand) (state : S) :
    (courier.perform transport tell errand).run state =
      match errand with
      | .deliver entry =>
          let ((outcome, courier), state) := (courier.deliver transport tell entry).run state
          ((some outcome, courier), state)
      | .close =>
          let (courier, state) := (courier.release transport).run state
          ((none, courier), state)
      | .inquire => ((none, courier), ((courier.isConnected transport).run state).2) := by
  cases errand <;> rfl

theorem run_perform_all_cons (courier : Courier κ) (errand : Errand) (rest : List Errand)
    (state : S) :
    (performAll transport tell courier (errand :: rest)).run state =
      let ((outcome, courier), state) := (courier.perform transport tell errand).run state
      let ((outcomes, courier), state) := (performAll transport tell courier rest).run state
      ((outcome.toList ++ outcomes, courier), state) := rfl

end Run

end Courier

end LogRelay.Delivery
