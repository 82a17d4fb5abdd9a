import LogRelay.Wire.Header
import LogRelay.Wire.Skip

/-!
Calls: what a client asks a collector to log. A client writes one entry a call; a collector accepts
any number of them, in any number of lists, and passes over what it does not know.
-/
set_option autoImplicit false

namespace LogRelay.Wire

structure Entry where
  category : String
  message : String
deriving DecidableEq, Repr, Inhabited

structure Call where
  sequence : Int32
  entries : List Entry
deriving DecidableEq

structure Oversize where
  length : Nat
  limit : Nat
deriving DecidableEq

def callOverhead : Nat := 36

def callLength (entry : Entry) : Nat :=
  callOverhead + Utf8.size entry.category + Utf8.size entry.message

def callBody (sequence : Int32) (entry : Entry) : Bytes :=
  putPlain ⟨method, MessageType.call, sequence⟩ <|
    putField .list 1 <| Kind.struct.code :: Bytes.put32 1 (
      putField .text 1 <| putText entry.category <|
        putField .text 2 <| putText entry.message <|
          putStop (putStop []))

-- Writes a framed call into a buffer. What the buffer held before is gone, whether the call fits
-- or not.
def encodeCall (_buffer : Bytes) (sequence : Int32) (entry : Entry) :
    Except Oversize Unit × Bytes :=
  if callLength entry > frameLimit then (.error ⟨callLength entry, frameLimit⟩, [])
  else (.ok (), frame (callBody sequence entry))

def readEntryField (kind : UInt8) (id : Int16) (entry : Entry) (input : Bytes) :
    Except Fault (Entry × Bytes) :=
  if kind = Kind.text.code ∧ id = 1 then
    match takeText input with
    | .error fault => .error fault
    | .ok (category, rest) => .ok ({ entry with category }, rest)
  else if kind = Kind.text.code ∧ id = 2 then
    match takeText input with
    | .error fault => .error fault
    | .ok (message, rest) => .ok ({ entry with message }, rest)
  else
    match skip kind input with
    | .error fault => .error fault
    | .ok rest => .ok (entry, rest)

theorem read_entry_field_length {kind : UInt8} {id : Int16} {entry after : Entry}
    {input rest : Bytes} (read : readEntryField kind id entry input = .ok (after, rest)) :
    rest.length ≤ input.length := by
  unfold readEntryField at read
  split at read
  · split at read
    · cases read
    · next taken =>
      cases read
      have exact := take_text_length taken
      omega
  · split at read
    · split at read
      · cases read
      · next taken =>
        cases read
        have exact := take_text_length taken
        omega
    · split at read
      · cases read
      · next skipped =>
        cases read
        exact Nat.le_of_lt (skip_length skipped)

def entryReader : FieldReader Entry where
  read := readEntryField
  no_growth := read_entry_field_length

def takeEntry (input : Bytes) : Except Fault (Entry × Bytes) :=
  foldFields entryReader ⟨"", ""⟩ input

theorem take_entry_length {input rest : Bytes} {entry : Entry}
    (read : takeEntry input = .ok (entry, rest)) : rest.length < input.length :=
  fold_fields_length entryReader read

-- Reads a number of entries; the entries read are kept the last first.
def takeEntries : Nat → List Entry → Bytes → Except Fault (List Entry × Bytes)
  | 0, entries, input => .ok (entries, input)
  | count + 1, entries, input =>
      match takeEntry input with
      | .error fault => .error fault
      | .ok (entry, rest) => takeEntries count (entry :: entries) rest

theorem take_entries_length {count : Nat} {entries after : List Entry} {input rest : Bytes}
    (read : takeEntries count entries input = .ok (after, rest)) :
    rest.length + count ≤ input.length := by
  induction count generalizing entries input with
  | zero =>
    cases read
    exact Nat.le_refl _
  | succ count ih =>
    unfold takeEntries at read
    split at read
    · cases read
    · next taken =>
      have first := take_entry_length taken
      have second := ih read
      omega

-- A list in field 1 holds entries, unless its elements are no structs.
def readArgument (kind : UInt8) (id : Int16) (entries : List Entry) (input : Bytes) :
    Except Fault (List Entry × Bytes) :=
  if kind = Kind.list.code ∧ id = 1 then
    match takeListHeader input with
    | .error fault => .error fault
    | .ok (element, count, rest) =>
        if element = Kind.struct.code then takeEntries count entries rest
        else
          match skipMany (skip element) count rest with
          | .error fault => .error fault
          | .ok rest => .ok (entries, rest)
  else
    match skip kind input with
    | .error fault => .error fault
    | .ok rest => .ok (entries, rest)

theorem read_argument_length {kind : UInt8} {id : Int16} {entries after : List Entry}
    {input rest : Bytes} (read : readArgument kind id entries input = .ok (after, rest)) :
    rest.length ≤ input.length := by
  unfold readArgument at read
  split at read
  · split at read
    · cases read
    · next headed =>
      have first := take_list_header_length headed
      split at read
      · have second := take_entries_length read
        omega
      · split at read
        · cases read
        · next skipped =>
          cases read
          have second := skip_many_length skip_length skipped
          omega
  · split at read
    · cases read
    · next skipped =>
      cases read
      exact Nat.le_of_lt (skip_length skipped)

def argumentReader : FieldReader (List Entry) where
  read := readArgument
  no_growth := read_argument_length

-- Reads the body of a call. Bytes behind its arguments are left unread.
def decodeCall (body : Bytes) : Except Fault Call :=
  match takeHeader body with
  | .error fault => .error fault
  | .ok (header, rest) =>
      if header.type ≠ MessageType.call ∧ header.type ≠ MessageType.oneway then
        .error (.notACall header.type)
      else if header.name ≠ method then .error (.unknownMethod header.name)
      else
        match foldFields argumentReader [] rest with
        | .error fault => .error fault
        | .ok (entries, _) => .ok ⟨header.sequence, entries.reverse⟩

end LogRelay.Wire
