import LogRelay.Wire.Fields

/-!
Skipping a value of any kind. Containers may lie within each other down to `nestingLimit`, and a
skipped value always takes at least one byte, so no declared count makes the reading outlast the
bytes.
-/
set_option autoImplicit false

namespace LogRelay.Wire

def nestingLimit : Nat := 64

-- Skips one value of a given kind and leaves less than it was given.
structure Skipper where
  skip : UInt8 → Bytes → Except Fault Bytes
  shrinks : ∀ {kind : UInt8} {input rest : Bytes},
    skip kind input = .ok rest → rest.length < input.length

def Skipper.fieldReader (inner : Skipper) : FieldReader Unit where
  read kind _ _ input :=
    match inner.skip kind input with
    | .error fault => .error fault
    | .ok rest => .ok ((), rest)
  no_growth := by
    intro kind id state after input rest read
    split at read
    · cases read
    · next tail skipped =>
      cases read
      exact Nat.le_of_lt (inner.shrinks skipped)

def skipMany (step : Bytes → Except Fault Bytes) : Nat → Bytes → Except Fault Bytes
  | 0, input => .ok input
  | count + 1, input =>
      match step input with
      | .error fault => .error fault
      | .ok rest => skipMany step count rest

def skipPair (inner : Skipper) (key value : UInt8) (input : Bytes) : Except Fault Bytes :=
  match inner.skip key input with
  | .error fault => .error fault
  | .ok rest => inner.skip value rest

def skipStruct (inner : Skipper) (input : Bytes) : Except Fault Bytes :=
  match foldFields inner.fieldReader () input with
  | .error fault => .error fault
  | .ok (_, rest) => .ok rest

def skipText (input : Bytes) : Except Fault Bytes :=
  match takeLength input with
  | .error fault => .error fault
  | .ok (length, rest) => dropBytes length rest

def takeListHeader (input : Bytes) : Except Fault (UInt8 × Nat × Bytes) :=
  match takeByte input with
  | .error fault => .error fault
  | .ok (element, rest) =>
      match takeLength rest with
      | .error fault => .error fault
      | .ok (count, rest) => .ok (element, count, rest)

def skipList (inner : Skipper) (input : Bytes) : Except Fault Bytes :=
  match takeListHeader input with
  | .error fault => .error fault
  | .ok (element, count, rest) => skipMany (inner.skip element) count rest

def skipMap (inner : Skipper) (input : Bytes) : Except Fault Bytes :=
  match takeByte input with
  | .error fault => .error fault
  | .ok (key, rest) =>
      match takeListHeader rest with
      | .error fault => .error fault
      | .ok (value, count, rest) => skipMany (skipPair inner key value) count rest

def skipValue (inner : Skipper) (kind : UInt8) (input : Bytes) : Except Fault Bytes :=
  match Kind.ofCode? kind with
  | none => .error (.unknownKind kind)
  | some .bool => dropBytes 1 input
  | some .byte => dropBytes 1 input
  | some .int16 => dropBytes 2 input
  | some .int32 => dropBytes 4 input
  | some .double => dropBytes 8 input
  | some .int64 => dropBytes 8 input
  | some .text => skipText input
  | some .struct => skipStruct inner input
  | some .map => skipMap inner input
  | some .set => skipList inner input
  | some .list => skipList inner input

theorem skip_many_length {step : Bytes → Except Fault Bytes}
    (shrinks : ∀ {input rest : Bytes}, step input = .ok rest → rest.length < input.length)
    {count : Nat} {input rest : Bytes} (skipped : skipMany step count input = .ok rest) :
    rest.length + count ≤ input.length := by
  induction count generalizing input with
  | zero =>
    cases skipped
    exact Nat.le_refl _
  | succ count ih =>
    unfold skipMany at skipped
    split at skipped
    · cases skipped
    · next tail once =>
      have first := shrinks once
      have second := ih skipped
      omega

theorem skip_pair_length (inner : Skipper) {key value : UInt8} {input rest : Bytes}
    (skipped : skipPair inner key value input = .ok rest) : rest.length < input.length := by
  unfold skipPair at skipped
  split at skipped
  · cases skipped
  · next middle keyed =>
    have first := inner.shrinks keyed
    have second := inner.shrinks skipped
    omega

theorem take_list_header_length {input rest : Bytes} {element : UInt8} {count : Nat}
    (read : takeListHeader input = .ok (element, count, rest)) :
    rest.length + 5 = input.length := by
  unfold takeListHeader at read
  split at read
  · cases read
  · next kind tail first =>
    split at read
    · cases read
    · next size behind second =>
      cases read
      have one := take_byte_length first
      have four := take_length_length second
      omega

theorem skip_value_length (inner : Skipper) {kind : UInt8} {input rest : Bytes}
    (skipped : skipValue inner kind input = .ok rest) : rest.length < input.length := by
  have fixed : ∀ {width : Nat}, 0 < width → dropBytes width input = .ok rest →
      rest.length < input.length := by
    intro width positive dropped
    have exact := drop_bytes_length dropped
    omega
  unfold skipValue at skipped
  split at skipped
  · cases skipped
  · exact fixed (by decide) skipped
  · exact fixed (by decide) skipped
  · exact fixed (by decide) skipped
  · exact fixed (by decide) skipped
  · exact fixed (by decide) skipped
  · exact fixed (by decide) skipped
  · unfold skipText at skipped
    split at skipped
    · cases skipped
    · next length tail measured =>
      have first := take_length_length measured
      have second := drop_bytes_length skipped
      omega
  · unfold skipStruct at skipped
    split at skipped
    · cases skipped
    · next state tail folded =>
      cases skipped
      exact fold_fields_length inner.fieldReader folded
  · unfold skipMap at skipped
    split at skipped
    · cases skipped
    · next key tail keyed =>
      split at skipped
      · cases skipped
      · next value count behind headed =>
        have first := take_byte_length keyed
        have second := take_list_header_length headed
        have third := skip_many_length (skip_pair_length inner) skipped
        omega
  all_goals
    unfold skipList at skipped
    split at skipped
    · cases skipped
    · next element count behind headed =>
      have first := take_list_header_length headed
      have second := skip_many_length inner.shrinks skipped
      omega

-- A skipper for values that may hold containers on `levels - 1` further levels.
def skipper : Nat → Skipper
  | 0 =>
    { skip := fun _ _ => .error .nesting
      shrinks := fun refused => nomatch refused }
  | levels + 1 =>
    { skip := fun kind input => skipValue (skipper levels) kind input
      shrinks := skip_value_length (skipper levels) }

def skipAt (depth : Nat) (kind : UInt8) (input : Bytes) : Except Fault Bytes :=
  (skipper (nestingLimit + 1 - depth)).skip kind input

def skip (kind : UInt8) (input : Bytes) : Except Fault Bytes := skipAt 0 kind input

theorem skip_at_length {depth : Nat} {kind : UInt8} {input rest : Bytes}
    (skipped : skipAt depth kind input = .ok rest) : rest.length < input.length :=
  (skipper (nestingLimit + 1 - depth)).shrinks skipped

theorem skip_length {kind : UInt8} {input rest : Bytes} (skipped : skip kind input = .ok rest) :
    rest.length < input.length :=
  skip_at_length skipped

end LogRelay.Wire
