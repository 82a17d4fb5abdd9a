import LogRelay.Collector
import LogRelay.Delivery.Link

/-!
A network without sockets: one listening place and the peers behind it. Each accepted connection
has a peer that follows a script, one act a request; what the peer sends waits in its outbox until
the client reads it.
-/
set_option autoImplicit false

namespace LogRelay.Delivery

open Wire

inductive Act where
  | answer (verdict : Verdict)
  | send (bytes : Bytes) (last : Bool)
deriving DecidableEq

-- The peer of one connection. Requests not yet complete wait in the inbox; the calls read are
-- kept the last first.
structure Peer where
  acts : List Act
  inbox : Bytes
  outbox : Bytes
  silent : Bool
  calls : List Call

namespace Peer

def start (acts : List Act) : Peer := ⟨acts, [], [], false, []⟩

-- Answers one request; a script that is over goes on accepting.
def answer (peer : Peer) (call : Call) : Peer :=
  let act := peer.acts.headD (.answer .ok)
  let peer := { peer with acts := peer.acts.tail, calls := call :: peer.calls }
  if peer.silent then peer
  else
    match act with
    | .answer verdict =>
        { peer with outbox := peer.outbox ++ encodeReply [] call.sequence verdict }
    | .send bytes last => { peer with outbox := peer.outbox ++ bytes, silent := last }

def hear (peer : Peer) (bytes : Bytes) : Peer :=
  let service := Collector.serve (peer.inbox ++ bytes)
  service.calls.foldl answer { peer with inbox := service.waiting.getD [] }

end Peer

def endOfStream : String := "failed to fill whole buffer"

def connectionRefused : String := "Connection refused (os error 111)"

-- The listening place and every peer, in the order of acceptance; `scripts` are those of the
-- connections to come.
structure Loopback where
  port : UInt16
  listening : Bool
  scripts : List (List Act)
  peers : Array Peer

namespace Loopback

def start (port : UInt16) (listening : Bool) (scripts : List (List Act)) : Loopback :=
  ⟨port, listening, scripts, #[]⟩

def isOctet (text : List Char) : Bool :=
  text ≠ [] && text.all Char.isDigit && text.length ≤ 3 &&
    (text.length == 1 || text.head? != some '0') &&
    text.foldl (fun n c => 10 * n + (c.toNat - 48)) 0 ≤ 255

def isAddress (text : String) : Bool :=
  let parts := (text.splitOn ".").map String.toList
  parts.length == 4 && parts.all isOctet

def resolve (host : String) : List String :=
  if host = "localhost" then ["127.0.0.1"] else if isAddress host then [host] else []

def accept (address : String) (port : UInt16) (net : Loopback) :
    Except String Nat × Loopback :=
  if net.listening ∧ port = net.port ∧ address = "127.0.0.1" then
    (.ok net.peers.size,
      { net with
        scripts := net.scripts.tail
        peers := net.peers.push (.start (net.scripts.headD [])) })
  else (.error connectionRefused, net)

-- Gives out bytes of an outbox, if it has so many; else what it has is lost.
def read (count : Nat) (peer : Peer) :
    Except String { bytes : Bytes // bytes.length = count } × Peer :=
  let taken := peer.outbox.take count
  if exact : taken.length = count then
    (.ok ⟨taken, exact⟩, { peer with outbox := peer.outbox.drop count })
  else (.error endOfStream, { peer with outbox := [] })

-- Streams are known by the number of their connection.
def network : Network (StateM Loopback) Nat where
  resolve host _ := pure (resolve host)
  dial _ address port net := net.accept address port
  send stream bytes net :=
    (.ok (), { net with peers := net.peers.modify stream fun peer => peer.hear bytes })
  receive stream count net :=
    match net.peers[stream]? with
    | none => (.error endOfStream, net)
    | some peer =>
        let (answer, peer) := read count peer
        (answer, { net with peers := net.peers.setIfInBounds stream peer })
  shutdown _ := pure ()

-- Ends what every peer sends; what is in an outbox can still be read.
def hangUp (net : Loopback) : Loopback :=
  { net with peers := net.peers.map fun peer => { peer with silent := true } }

def received (net : Loopback) : List (Int32 × Entry) :=
  net.peers.toList.flatMap fun peer =>
    peer.calls.reverse.flatMap fun call => call.entries.map fun entry => (call.sequence, entry)

end Loopback

end LogRelay.Delivery
