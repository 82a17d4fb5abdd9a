import LogRelay.Delivery.Courier

/-!
Links: connections that speak the framed protocol over a byte stream. Calls on one link are
numbered from one; a call is written whole before its reply is read, and a reply counts only for
the call whose number it bears.
-/
set_option autoImplicit false

namespace LogRelay.Delivery

open Wire

-- How long to wait for a network, in milliseconds; nothing or zero means for ever.
structure Patience where
  connecting : Option Nat
  exchanging : Option Nat
deriving DecidableEq, Repr

def Patience.limit (milliseconds : Option Nat) : Option Nat :=
  milliseconds.filter (· ≠ 0)

-- Byte streams of type `σ` in the monad `m`. A stream that delivers bytes delivers as many as
-- were asked for.
structure Network (m : Type → Type) (σ : Type) where
  resolve : String → UInt16 → m (List String)
  dial : Patience → String → UInt16 → m (Except String σ)
  send : σ → Bytes → m (Except String Unit)
  receive : σ → (count : Nat) → m (Except String { bytes : Bytes // bytes.length = count })
  shutdown : σ → m Unit

structure Link (σ : Type) where
  stream : Option σ
  sequence : Int32

namespace Link

variable {m : Type → Type} [Monad m] {σ : Type}

def opened (stream : σ) : Link σ := ⟨some stream, 0⟩

def isOpen (link : Link σ) : Bool := link.stream.isSome

def close (network : Network m σ) (link : Link σ) : m (Link σ) :=
  match link.stream with
  | none => pure link
  | some stream => do
      network.shutdown stream
      pure { link with stream := none }

def announced (bytes : Bytes) : Except Fault Nat :=
  match takeWord bytes with
  | .error fault => .error fault
  | .ok (word, _) => frameLength word

def receiveReply (network : Network m σ) (stream : σ) (sequence : Int32) :
    m (Except Failure Verdict) := do
  match ← network.receive stream 4 with
  | .error cause => pure (.error (.transport cause))
  | .ok front =>
      match announced front.val with
      | .error fault => pure (.error (.ofFault fault))
      | .ok length =>
          match ← network.receive stream length with
          | .error cause => pure (.error (.transport cause))
          | .ok body => pure ((decodeReply body.val sequence).mapError .ofReplyError)

-- Sends one call and reads its reply. An oversized call is not sent and takes no number.
def exchange (network : Network m σ) (link : Link σ) (entry : Entry) :
    m (Except Failure Verdict × Link σ) :=
  match link.stream with
  | none => pure (.error .notConnected, link)
  | some stream =>
      let sequence := link.sequence + 1
      match encodeCall [] sequence entry with
      | (.error oversize, _) => pure (.error (.ofOversize oversize), link)
      | (.ok (), frame) => do
          let link := { link with sequence }
          match ← network.send stream frame with
          | .error cause => pure (.error (.transport cause), link)
          | .ok () => pure (← receiveReply network stream sequence, link)

def submit (network : Network m σ) (link : Link σ) (entry : Entry) :
    m (Except Failure Verdict × Link σ) := do
  let (answer, link) ← link.exchange network entry
  match answer with
  | .ok verdict => pure (.ok verdict, link)
  | .error failure =>
      if failure.endsConnection then pure (.error failure, ← link.close network)
      else pure (.error failure, link)

end Link

structure Endpoint where
  host : String
  port : UInt16
  patience : Patience
deriving DecidableEq, Repr

namespace Endpoint

variable {m : Type → Type} [Monad m] {σ : Type}

def text (endpoint : Endpoint) : String := endpoint.host ++ ":" ++ toString endpoint.port.toNat

def dialFirst (network : Network m σ) (endpoint : Endpoint) :
    String → List String → m (Except String σ)
  | cause, [] => pure (.error cause)
  | _, address :: others => do
      match ← network.dial endpoint.patience address endpoint.port with
      | .ok stream => pure (.ok stream)
      | .error cause => dialFirst network endpoint cause others

def connect (network : Network m σ) (endpoint : Endpoint) : m (Except Failure (Link σ)) := do
  match ← network.resolve endpoint.host endpoint.port with
  | [] => pure (.error (.unresolved endpoint.text))
  | addresses =>
      match ← endpoint.dialFirst network "no addresses" addresses with
      | .error cause => pure (.error (.refused endpoint.text cause))
      | .ok stream => pure (.ok (Link.opened stream))

def transport (network : Network m σ) (endpoint : Endpoint) : Transport m (Link σ) where
  endpoint := endpoint.text
  connect := endpoint.connect network
  submit link entry := link.submit network entry
  isOpen link := pure link.isOpen
  close link := do
    let _ ← link.close network
    pure ()

end Endpoint

end LogRelay.Delivery
