import LogRelay.Delivery.Line
import LogRelay.Delivery.Courier
import LogRelay.Text.Decimal
import LogRelay.Text.Shortest

set_option autoImplicit false

namespace LogRelay.Command

open Delivery

structure LoadReport where
  threads : UInt64
  messages : UInt64
  milliseconds : Nat
  tally : Tally

namespace LoadReport

def rate (report : LoadReport) : Float :=
  if report.milliseconds = 0 then 0
  else
    (report.threads.toNat * report.messages.toNat * 1000).toFloat / report.milliseconds.toFloat

def text (report : LoadReport) : String :=
  let outcomes := [Outcome.delivered, .failed, .noConnection, .overloaded].map fun outcome =>
    "    \"" ++ outcome.name ++ "\": " ++ Decimal.ofNat (report.tally.get outcome).toNat
  "\n".intercalate [
    "\x7b",
    "  \"elapsed_ms\": " ++ Decimal.ofNat report.milliseconds ++ ",",
    "  \"messages_per_thread\": " ++ Decimal.ofNat report.messages.toNat ++ ",",
    "  \"outcomes\": \x7b",
    ",\n".intercalate outcomes,
    "  \x7d,",
    "  \"per_second\": " ++ Decimal.shortest report.rate ++ ",",
    "  \"threads\": " ++ Decimal.ofNat report.threads.toNat,
    "\x7d"]

end LoadReport

variable {m : Type → Type} [Monad m] {κ : Type}

def loadBody (thread index : Nat) : String :=
  "INFO - bench message " ++ Decimal.ofNat thread ++ "-" ++ Decimal.ofNat index

def load (transport : Transport m κ) (tell : Report → m Unit) (category : String)
    (layout : Layout) (threads messages : Nat) : m (Courier κ) :=
  Nat.foldM threads (fun thread _ courier =>
    Nat.foldM messages (fun index _ courier => do
      let entry := ⟨category, layout.line (loadBody thread index) []⟩
      let (_, courier) ← courier.deliver transport tell entry
      pure courier) courier) (Courier.idle "scribe")

end LogRelay.Command
