import LogRelay.Wire.Call
import LogRelay.Wire.Reply

/-!
A collector answers every call on a stream with the same verdict and shows the entries of the
calls it accepts. It ends at the first frame that it cannot read; a frame not yet complete it waits
for.
-/
set_option autoImplicit false

namespace LogRelay.Collector

open Wire

inductive Framing where
  | incomplete
  | unreadable
  | framed (body rest : Bytes)

def framing (stream : Bytes) : Framing :=
  match takeWord stream with
  | .error _ => .incomplete
  | .ok (word, behind) =>
      match frameLength word with
      | .error _ => .unreadable
      | .ok length =>
          match takeBytes length behind with
          | .error _ => .incomplete
          | .ok (body, rest) => .framed body rest

theorem framing_length {stream body rest : Bytes} (framed : framing stream = .framed body rest) :
    rest.length + body.length + 4 = stream.length := by
  unfold framing at framed
  split at framed
  · cases framed
  · next word behind worded =>
    split at framed
    · cases framed
    · next length fits =>
      split at framed
      · cases framed
      · next taken =>
        cases framed
        have first := take_word_length worded
        have second := take_bytes_length taken
        omega

-- What was done with a stream: the calls accepted, in order, and the bytes that wait for more,
-- if the stream is still being read.
structure Service where
  calls : List Call
  waiting : Option Bytes
deriving DecidableEq

-- The calls read so far come first, the last of them in front.
def serveFrom (calls : List Call) (stream : Bytes) : Service :=
  match _framed : framing stream with
  | .incomplete => ⟨calls.reverse, some stream⟩
  | .unreadable => ⟨calls.reverse, none⟩
  | .framed body rest =>
      match decodeCall body with
      | .error _ => ⟨calls.reverse, none⟩
      | .ok call => serveFrom (call :: calls) rest
termination_by stream.length
decreasing_by
  have exact := framing_length _framed
  omega

def serve (stream : Bytes) : Service := serveFrom [] stream

def entryLine (entry : Entry) : String := "[" ++ entry.category ++ "] " ++ entry.message

def shown (verdict : Verdict) (call : Call) : List String :=
  match verdict with
  | .ok => call.entries.map entryLine
  | .tryLater => []

def lines (verdict : Verdict) (service : Service) : List String :=
  service.calls.flatMap (shown verdict)

def replies (verdict : Verdict) (service : Service) : Bytes :=
  service.calls.flatMap fun call => encodeReply [] call.sequence verdict

end LogRelay.Collector
