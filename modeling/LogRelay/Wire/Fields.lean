import LogRelay.Wire.Reader

/-!
A struct is a run of fields, each a kind byte, a two-byte number and a value, closed by a zero
byte. `foldFields` reads one such run; what a field means is up to its `FieldReader`. The writers of
the parts of a body each put their part in front of what follows; a frame is a body behind its
length.
-/
set_option autoImplicit false

namespace LogRelay.Wire

inductive Kind where
  | bool
  | byte
  | double
  | int16
  | int32
  | int64
  | text
  | struct
  | map
  | set
  | list
deriving DecidableEq, Repr

def Kind.code : Kind → UInt8
  | .bool => 2
  | .byte => 3
  | .double => 4
  | .int16 => 6
  | .int32 => 8
  | .int64 => 10
  | .text => 11
  | .struct => 12
  | .map => 13
  | .set => 14
  | .list => 15

def Kind.all : List Kind :=
  [.bool, .byte, .double, .int16, .int32, .int64, .text, .struct, .map, .set, .list]

def Kind.ofCode? (code : UInt8) : Option Kind :=
  Kind.all.find? fun kind => kind.code = code

theorem Kind.of_code_code (kind : Kind) : Kind.ofCode? kind.code = some kind := by
  cases kind <;> decide

theorem Kind.code_of_code {code : UInt8} {kind : Kind} (known : Kind.ofCode? code = some kind) :
    kind.code = code := by
  have found := List.find?_some known
  simpa using found

-- Reads the value of one field into a state; it may leave the bytes alone but adds none.
structure FieldReader (σ : Type) where
  read : UInt8 → Int16 → σ → Bytes → Except Fault (σ × Bytes)
  no_growth : ∀ {kind : UInt8} {id : Int16} {state after : σ} {input rest : Bytes},
    read kind id state input = .ok (after, rest) → rest.length ≤ input.length

def foldFields {σ : Type} (reader : FieldReader σ) (state : σ) (input : Bytes) :
    Except Fault (σ × Bytes) :=
  match input with
  | [] => .error (.truncated 1 0)
  | kind :: body =>
      if kind = 0 then .ok (state, body)
      else
        match _numbered : takeInt16 body with
        | .error fault => .error fault
        | .ok (id, value) =>
            match _valued : reader.read kind id state value with
            | .error fault => .error fault
            | .ok (after, rest) => foldFields reader after rest
termination_by input.length
decreasing_by
  have first := take_int16_length _numbered
  have second := reader.no_growth _valued
  simp only [List.length_cons]
  omega

theorem fold_fields_length {σ : Type} (reader : FieldReader σ) {state after : σ}
    {input rest : Bytes} (read : foldFields reader state input = .ok (after, rest)) :
    rest.length < input.length := by
  induction input using (measure List.length).wf.induction generalizing state with
  | _ input ih =>
    unfold foldFields at read
    split at read
    · cases read
    · next kind body =>
      split at read
      · cases read
        simp
      · split at read
        · cases read
        · next id value numbered =>
          split at read
          · cases read
          · next middle tail valued =>
            have first := take_int16_length numbered
            have second := reader.no_growth valued
            have shorter : tail.length < (kind :: body).length := by
              simp only [List.length_cons]
              omega
            have third := ih tail shorter read
            omega

def putText (text : String) (rest : Bytes) : Bytes :=
  Bytes.put32 (UInt32.ofNat (Utf8.size text)) (Utf8.put text rest)

def putInt32 (value : Int32) (rest : Bytes) : Bytes :=
  Bytes.put32 value.toUInt32 rest

def putField (kind : Kind) (id : Int16) (rest : Bytes) : Bytes :=
  kind.code :: Bytes.put16 id.toUInt16 rest

def putStop (rest : Bytes) : Bytes := 0 :: rest

def frame (body : Bytes) : Bytes :=
  Bytes.put32 (UInt32.ofNat body.length) body

def frameLength (word : UInt32) : Except Fault Nat :=
  if word.toNat > frameLimit then .error (.frameLength word.toNat) else .ok word.toNat

end LogRelay.Wire
