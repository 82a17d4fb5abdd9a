import LogRelay.Wire.Header
import LogRelay.Wire.Skip

set_option autoImplicit false

namespace LogRelay.Wire

inductive Verdict where
  | ok
  | tryLater
deriving DecidableEq, Repr

def Verdict.code : Verdict → Int32
  | .ok => 0
  | .tryLater => 1

def Verdict.ofCode? (code : Int32) : Option Verdict :=
  if code = 0 then some .ok else if code = 1 then some .tryLater else none

theorem Verdict.of_code_code (verdict : Verdict) : Verdict.ofCode? verdict.code = some verdict := by
  cases verdict <;> decide

-- A reply that is no verdict: malformed, or well-formed and a refusal in the peer's words.
inductive ReplyError where
  | fault (fault : Fault)
  | application (text : String)
deriving DecidableEq

def replyBody (sequence : Int32) (verdict : Verdict) : Bytes :=
  putVersioned ⟨method, MessageType.reply, sequence⟩ <|
    putField .int32 0 <| putInt32 verdict.code (putStop [])

-- Writes a framed reply into a buffer in place of what the buffer held.
def encodeReply (_buffer : Bytes) (sequence : Int32) (verdict : Verdict) : Bytes :=
  frame (replyBody sequence verdict)

def readResult (kind : UInt8) (id : Int16) (result : Option Int32) (input : Bytes) :
    Except Fault (Option Int32 × Bytes) :=
  if kind = Kind.int32.code ∧ id = 0 then
    match takeInt32 input with
    | .error fault => .error fault
    | .ok (code, rest) => .ok (some code, rest)
  else
    match skip kind input with
    | .error fault => .error fault
    | .ok rest => .ok (result, rest)

theorem read_result_length {kind : UInt8} {id : Int16} {result after : Option Int32}
    {input rest : Bytes} (read : readResult kind id result input = .ok (after, rest)) :
    rest.length ≤ input.length := by
  unfold readResult at read
  split at read
  · split at read
    · cases read
    · next taken =>
      cases read
      have exact := take_int32_length taken
      omega
  · split at read
    · cases read
    · next skipped =>
      cases read
      exact Nat.le_of_lt (skip_length skipped)

def resultReader : FieldReader (Option Int32) where
  read := readResult
  no_growth := read_result_length

structure PeerException where
  text : String
  kind : Option Int32
deriving DecidableEq

def PeerException.message (raised : PeerException) : String :=
  match raised.kind with
  | none => raised.text
  | some kind => raised.text ++ " (type " ++ toString kind.toInt ++ ")"

def readException (kind : UInt8) (id : Int16) (raised : PeerException) (input : Bytes) :
    Except Fault (PeerException × Bytes) :=
  if kind = Kind.text.code ∧ id = 1 then
    match takeText input with
    | .error fault => .error fault
    | .ok (text, rest) => .ok ({ raised with text }, rest)
  else if kind = Kind.int32.code ∧ id = 2 then
    match takeInt32 input with
    | .error fault => .error fault
    | .ok (code, rest) => .ok ({ raised with kind := some code }, rest)
  else
    match skip kind input with
    | .error fault => .error fault
    | .ok rest => .ok (raised, rest)

theorem read_exception_length {kind : UInt8} {id : Int16} {raised after : PeerException}
    {input rest : Bytes} (read : readException kind id raised input = .ok (after, rest)) :
    rest.length ≤ input.length := by
  unfold readException at read
  split at read
  · split at read
    · cases read
    · next taken =>
      cases read
      have exact := take_text_length taken
      omega
  · split at read
    · split at read
      · cases read
      · next taken =>
        cases read
        have exact := take_int32_length taken
        omega
    · split at read
      · cases read
      · next skipped =>
        cases read
        exact Nat.le_of_lt (skip_length skipped)

def exceptionReader : FieldReader PeerException where
  read := readException
  no_growth := read_exception_length

def takeException (input : Bytes) : Except Fault (PeerException × Bytes) :=
  foldFields exceptionReader ⟨"", none⟩ input

def unknownResult : String := "Log failed: unknown result"

def verdictOf (result : Option Int32) : Except ReplyError Verdict :=
  match result with
  | none => .error (.application unknownResult)
  | some code =>
      match Verdict.ofCode? code with
      | none => .error (.fault (.resultCode code))
      | some verdict => .ok verdict

-- Reads the body of the reply to the call numbered `expected`. The number is checked before
-- anything else that the head says. Bytes behind the result are left unread.
def decodeReply (body : Bytes) (expected : Int32) : Except ReplyError Verdict :=
  match takeHeader body with
  | .error fault => .error (.fault fault)
  | .ok (header, rest) =>
      if header.sequence ≠ expected then .error (.fault (.sequence expected header.sequence))
      else if header.type = MessageType.exception then
        match takeException rest with
        | .error fault => .error (.fault fault)
        | .ok (raised, _) => .error (.application raised.message)
      else if header.type ≠ MessageType.reply then
        .error (.fault (.unexpectedType header.type))
      else if header.name ≠ method then .error (.fault (.wrongMethod header.name))
      else
        match foldFields resultReader none rest with
        | .error fault => .error (.fault fault)
        | .ok (result, _) => verdictOf result

end LogRelay.Wire
