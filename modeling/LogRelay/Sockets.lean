import LogRelay.Collector
import LogRelay.Delivery.Link
import Std.Async.DNS
import Std.Async.Select
import Std.Async.TCP
import Std.Async.Timer

set_option autoImplicit false

namespace LogRelay.Sockets

open Std.Async Std.Net Delivery

structure Stream where
  client : TCP.Socket.Client
  patience : Patience

def parseAddress? (text : String) : Option IPAddr :=
  (IPv4Addr.ofString text).map IPAddr.v4 <|> (IPv6Addr.ofString text).map IPAddr.v6

def withPort (port : UInt16) : IPAddr → SocketAddress
  | .v4 addr => .v4 ⟨addr, port⟩
  | .v6 addr => .v6 ⟨addr, port⟩

def late : IO.Error := .userError "timed out"

def limited {α : Type} [Inhabited α] (limit : Option Nat) (action : Async α) : IO α :=
  match Patience.limit limit with
  | none => action.block
  | some milliseconds =>
      (Async.race action do
        sleep (Std.Time.Millisecond.Offset.ofNat milliseconds)
        throw late).block

def caught {α : Type} (action : IO α) : IO (Except String α) := do
  try
    return .ok (← action)
  catch cause =>
    return .error (toString cause)

-- Addresses of the fourth version come before those of the sixth.
def resolve (host : String) : IO (List String) := do
  match parseAddress? host with
  | some _ => return [host]
  | none =>
      try
        let found := (← (DNS.getAddrInfo host "").block).toList
        let isFourth := fun (addr : IPAddr) => addr.family == .ipv4
        return (found.filter isFourth ++ found.filter fun addr => !isFourth addr).map toString
      catch _ => return []

def dial (patience : Patience) (address : String) (port : UInt16) : IO Stream := do
  match parseAddress? address with
  | none => throw (.userError "no addresses")
  | some address =>
      let client ← TCP.Socket.Client.mk
      limited patience.connecting (client.connect (withPort port address))
      client.noDelay
      return ⟨client, patience⟩

-- Reads up to a number of bytes; a stream that is over has none.
def readSome (stream : Stream) (count : Nat) : IO Bytes := do
  match ← limited stream.patience.exchanging (stream.client.recv? (UInt64.ofNat count)) with
  | none => return []
  | some bytes => return bytes.toList

def endOfStream : IO.Error := .userError "failed to fill whole buffer"

partial def readOn (stream : Stream) (count : Nat) (got : Bytes) :
    IO { bytes : Bytes // bytes.length = count } := do
  if exact : got.length = count then return ⟨got, exact⟩
  else
    match ← readSome stream (count - got.length) with
    | [] => throw endOfStream
    | more => readOn stream count (got ++ more)

def network : Network IO Stream where
  resolve host _ := resolve host
  dial patience address port := caught (dial patience address port)
  send stream bytes :=
    caught (limited stream.patience.exchanging (stream.client.send (ByteArray.mk bytes.toArray)))
  receive stream count := caught (readOn stream count [])
  shutdown stream := do
    let _ ← caught stream.client.shutdown.block

partial def serve (stream : Stream) (verdict : Wire.Verdict) (waiting : Bytes) : IO Unit := do
  match ← readSome stream 65536 with
  | [] => return
  | bytes =>
      let service := Collector.serve (waiting ++ bytes)
      for line in Collector.lines verdict service do
        IO.println line
      (← IO.getStdout).flush
      let replies := Collector.replies verdict service
      if replies ≠ [] then
        stream.client.send (ByteArray.mk replies.toArray) |>.block
      match service.waiting with
      | none => return
      | some waiting => serve stream verdict waiting

partial def accept (server : TCP.Socket.Server) (verdict : Wire.Verdict) : IO Unit := do
  let client ← server.accept.block
  let stream : Stream := ⟨client, ⟨none, none⟩⟩
  let task : IO Unit := discard (caught (serve stream verdict []))
  let _ ← IO.asTask task .dedicated
  accept server verdict

def listenAddress (text : String) : IO SocketAddress := do
  match (text.splitOn ":").reverse with
  | port :: host :: more =>
      let host := ":".intercalate (host :: more).reverse
      let host := if host.startsWith "[" then (host.drop 1).dropEnd 1 |>.toString else host
      match port.toNat?, ← resolve host with
      | some port, address :: _ =>
          match parseAddress? address with
          | some address => return withPort (UInt16.ofNat port) address
          | none => throw (.userError "invalid socket address")
      | _, _ => throw (.userError "invalid socket address")
  | _ => throw (.userError "invalid socket address")

-- Listens and serves every client; the answer is no if the address cannot be had.
def collect (address : String) (verdict : Wire.Verdict) : IO Bool := do
  let bound ← caught do
    let server ← TCP.Socket.Server.mk
    server.bind (← listenAddress address)
    server.listen 128
    return server
  match bound with
  | .error _ => return false
  | .ok server =>
      accept server verdict
      return true

end LogRelay.Sockets
