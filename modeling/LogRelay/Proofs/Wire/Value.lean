import LogRelay.Proofs.Wire.Repetition

set_option autoImplicit false

namespace LogRelay.Wire

def Kind.width? : Kind → Option Nat
  | .bool | .byte => some 1
  | .int16 => some 2
  | .int32 => some 4
  | .double | .int64 => some 8
  | _ => none

structure Part where
  height : Nat
  bytes : Bytes

def heightOver (heights : List Nat) : Nat :=
  heights.foldr (fun height highest => max (height + 1) highest) 0

def listBytes (element : UInt8) (parts : List Part) : Bytes :=
  element :: Bytes.put32 (UInt32.ofNat parts.length) (parts.flatMap Part.bytes)

def mapBytes (key item : UInt8) (pairs : List (Part × Part)) : Bytes :=
  key :: item :: Bytes.put32 (UInt32.ofNat pairs.length)
    (pairs.flatMap fun pair => pair.1.bytes ++ pair.2.bytes)

def pairHeights (pairs : List (Part × Part)) : List Nat :=
  pairs.flatMap fun pair => [pair.1.height, pair.2.height]

-- `Value kind height bytes`: the bytes are a value of a kind with that code. The kind of the
-- elements of an empty container may be any byte, since no element has to be of that kind.
inductive Value : UInt8 → Nat → Bytes → Prop where
  | fixed (kind : Kind) (bytes : Bytes) (exact : kind.width? = some bytes.length) :
      Value kind.code 0 bytes
  | text (bytes : Bytes) (small : bytes.length < 2147483648) :
      Value Kind.text.code 0 (Bytes.put32 (UInt32.ofNat bytes.length) bytes)
  | struct (fields : List (Field Nat))
      (values : ∀ field ∈ fields, Value field.kind field.content field.value) :
      Value Kind.struct.code (heightOver (fields.map Field.content)) (structBytes fields)
  | map (key item : UInt8) (pairs : List (Part × Part)) (small : pairs.length < 2147483648)
      (keys : ∀ pair ∈ pairs, Value key pair.1.height pair.1.bytes)
      (items : ∀ pair ∈ pairs, Value item pair.2.height pair.2.bytes) :
      Value Kind.map.code (heightOver (pairHeights pairs)) (mapBytes key item pairs)
  | set (element : UInt8) (parts : List Part) (small : parts.length < 2147483648)
      (values : ∀ part ∈ parts, Value element part.height part.bytes) :
      Value Kind.set.code (heightOver (parts.map Part.height)) (listBytes element parts)
  | list (element : UInt8) (parts : List Part) (small : parts.length < 2147483648)
      (values : ∀ part ∈ parts, Value element part.height part.bytes) :
      Value Kind.list.code (heightOver (parts.map Part.height)) (listBytes element parts)

theorem value_kind_ne_stop (kind : UInt8) (height : Nat) (bytes : Bytes)
    (value : Value kind height bytes) : kind ≠ 0 := by
  cases value with
  | fixed known bytes exact => cases known <;> decide
  | text | struct | map | set | list => decide

theorem height_over_le_iff (heights : List Nat) (limit : Nat) :
    heightOver heights ≤ limit ↔ ∀ height ∈ heights, height < limit := by
  induction heights with
  | nil => simp [heightOver]
  | cons head tail ih =>
      have step : heightOver (head :: tail) = max (head + 1) (heightOver tail) := rfl
      rw [step, Nat.max_le, ih, List.forall_mem_cons]
      rfl

-- A value whose own skipping needs fewer than a number of levels.
def Below (levels : Nat) (kind : UInt8) (part : Part) : Prop :=
  Value kind part.height part.bytes ∧ part.height < levels

def SkipsBelow (inner : Skipper) (levels : Nat) : Prop :=
  ∀ (kind : UInt8) (input rest : Bytes), inner.skip kind input = .ok rest ↔
    ∃ part, Below levels kind part ∧ input = part.bytes ++ rest

theorem skip_text_iff (input rest : Bytes) :
    skipText input = .ok rest ↔ ∃ bytes : Bytes, bytes.length < 2147483648 ∧
      input = Bytes.put32 (UInt32.ofNat bytes.length) bytes ++ rest := by
  constructor
  · intro skipped
    unfold skipText at skipped
    split at skipped
    · cases skipped
    · next length tail measured =>
      obtain ⟨small, written⟩ := (take_length_iff input tail length).mp measured
      obtain ⟨bytes, rfl, split⟩ := (drop_bytes_iff length tail rest).mp skipped
      exact ⟨bytes, small, by rw [written, split, Bytes.put32_append]⟩
  · rintro ⟨bytes, small, written⟩
    have measured := (take_length_iff input (bytes ++ rest) bytes.length).mpr ⟨small, written⟩
    have dropped := (drop_bytes_iff bytes.length (bytes ++ rest) rest).mpr ⟨bytes, rfl, rfl⟩
    rw [skipText, measured]
    exact dropped

-- Kept apart from the written count: a definitional check that met it would compute with it.
theorem take_list_header_of (element : UInt8) (count : Nat) (tail rest : Bytes)
    (measured : takeLength tail = .ok (count, rest)) :
    takeListHeader (element :: tail) = .ok (element, count, rest) := by
  simp only [takeListHeader, takeByte, measured]

theorem take_list_header_iff (input rest : Bytes) (element : UInt8) (count : Nat) :
    takeListHeader input = .ok (element, count, rest) ↔
      count < 2147483648 ∧ input = element :: Bytes.put32 (UInt32.ofNat count) rest := by
  constructor
  · intro read
    unfold takeListHeader at read
    split at read
    · cases read
    · next kind tail first =>
      split at read
      · cases read
      · next size behind measured =>
        cases read
        obtain ⟨small, written⟩ := (take_length_iff tail rest count).mp measured
        exact ⟨small, by rw [(take_byte_iff input tail element).mp first, written]⟩
  · rintro ⟨small, rfl⟩
    exact take_list_header_of element count _ rest ((take_length_iff _ rest count).mpr ⟨small, rfl⟩)

theorem skip_struct_iff (inner : Skipper) (levels : Nat) (skips : SkipsBelow inner levels)
    (input rest : Bytes) :
    skipStruct inner input = .ok rest ↔
      ∃ fields : List (Field Nat),
        (∀ field ∈ fields, Below levels field.kind ⟨field.content, field.value⟩) ∧
        input = structBytes fields ++ rest := by
  have reads : ReadsFields inner.fieldReader
      (fun field : Field Nat => Below levels field.kind ⟨field.content, field.value⟩)
      (fun state _ => state) := by
    intro kind id state after input rest named
    simp only [Skipper.fieldReader]
    constructor
    · intro read
      split at read
      · cases read
      · next tail skipped =>
        cases read
        obtain ⟨part, below, split⟩ := (skips kind input rest).mp skipped
        exact ⟨part.bytes, part.height, below, split, trivial⟩
    · rintro ⟨value, height, below, split, _⟩
      rw [(skips kind input rest).mpr ⟨⟨height, value⟩, below, split⟩]
  have folds := fold_fields_iff inner.fieldReader _ _ reads () () input rest
  constructor
  · intro skipped
    unfold skipStruct at skipped
    split at skipped
    · cases skipped
    · next state tail folded =>
      cases skipped
      obtain ⟨fields, good, split, _⟩ := folds.mp folded
      exact ⟨fields, fun field member => (good field member).2, split⟩
  · rintro ⟨fields, good, split⟩
    have folded := folds.mpr ⟨fields, fun field member =>
      ⟨value_kind_ne_stop _ _ _ (good field member).1, good field member⟩, split, rfl⟩
    rw [skipStruct, folded]

theorem skip_list_iff (inner : Skipper) (levels : Nat) (skips : SkipsBelow inner levels)
    (input rest : Bytes) :
    skipList inner input = .ok rest ↔
      ∃ element parts, parts.length < 2147483648 ∧ (∀ part ∈ parts, Below levels element part) ∧
        input = listBytes element parts ++ rest := by
  constructor
  · intro skipped
    unfold skipList at skipped
    split at skipped
    · cases skipped
    · next element count behind headed =>
      obtain ⟨small, written⟩ := (take_list_header_iff input behind element count).mp headed
      obtain ⟨parts, rfl, below, split⟩ := (skip_many_iff (inner.skip element)
        (Below levels element) Part.bytes (skips element) count behind rest).mp skipped
      exact ⟨element, parts, small, below, by rw [written, split]; rfl⟩
  · rintro ⟨element, parts, small, below, rfl⟩
    have headed := (take_list_header_iff (listBytes element parts ++ rest)
      (parts.flatMap Part.bytes ++ rest) element parts.length).mpr ⟨small, rfl⟩
    have skipped := (skip_many_iff (inner.skip element) (Below levels element) Part.bytes
      (skips element) parts.length (parts.flatMap Part.bytes ++ rest) rest).mpr
        ⟨parts, rfl, below, rfl⟩
    rw [skipList, headed]
    exact skipped

theorem skip_pair_iff (inner : Skipper) (levels : Nat) (skips : SkipsBelow inner levels)
    (key item : UInt8) (input rest : Bytes) :
    skipPair inner key item input = .ok rest ↔
      ∃ pair : Part × Part, (Below levels key pair.1 ∧ Below levels item pair.2) ∧
        input = (pair.1.bytes ++ pair.2.bytes) ++ rest := by
  constructor
  · intro skipped
    unfold skipPair at skipped
    split at skipped
    · cases skipped
    · next middle keyed =>
      obtain ⟨first, firstBelow, firstSplit⟩ := (skips key input middle).mp keyed
      obtain ⟨second, secondBelow, secondSplit⟩ := (skips item middle rest).mp skipped
      exact ⟨(first, second), ⟨firstBelow, secondBelow⟩, by simp [firstSplit, secondSplit]⟩
  · rintro ⟨⟨first, second⟩, ⟨firstBelow, secondBelow⟩, rfl⟩
    rw [List.append_assoc, skipPair, (skips key _ _).mpr ⟨first, firstBelow, rfl⟩]
    exact (skips item _ rest).mpr ⟨second, secondBelow, rfl⟩

theorem skip_map_of (inner : Skipper) (key item : UInt8) (count : Nat) (tail behind rest : Bytes)
    (headed : takeListHeader tail = .ok (item, count, behind))
    (skipped : skipMany (skipPair inner key item) count behind = .ok rest) :
    skipMap inner (key :: tail) = .ok rest := by
  simp only [skipMap, takeByte, headed, skipped]

theorem skip_map_iff (inner : Skipper) (levels : Nat) (skips : SkipsBelow inner levels)
    (input rest : Bytes) :
    skipMap inner input = .ok rest ↔
      ∃ key item pairs, pairs.length < 2147483648 ∧
        (∀ pair ∈ pairs, Below levels key pair.1 ∧ Below levels item pair.2) ∧
        input = mapBytes key item pairs ++ rest := by
  have pairIff (key item : UInt8) := skip_many_iff (skipPair inner key item)
    (fun pair : Part × Part => Below levels key pair.1 ∧ Below levels item pair.2)
    (fun pair => pair.1.bytes ++ pair.2.bytes) (skip_pair_iff inner levels skips key item)
  constructor
  · intro skipped
    unfold skipMap at skipped
    split at skipped
    · cases skipped
    · next key tail keyed =>
      split at skipped
      · cases skipped
      · next item count behind headed =>
        obtain ⟨small, written⟩ := (take_list_header_iff tail behind item count).mp headed
        obtain ⟨pairs, rfl, below, split⟩ := (pairIff key item count behind rest).mp skipped
        refine ⟨key, item, pairs, small, below, ?_⟩
        rw [(take_byte_iff input tail key).mp keyed, written, split]
        rfl
  · rintro ⟨key, item, pairs, small, below, rfl⟩
    have headed := (take_list_header_iff _
      ((pairs.flatMap fun pair => pair.1.bytes ++ pair.2.bytes) ++ rest) item pairs.length).mpr
        ⟨small, rfl⟩
    have skipped := (pairIff key item pairs.length _ rest).mpr ⟨pairs, rfl, below, rfl⟩
    rw [mapBytes, List.cons_append, List.cons_append, Bytes.put32_append]
    exact skip_map_of inner key item pairs.length _ _ rest headed skipped

theorem parts_height_le_iff (parts : List Part) (levels : Nat) :
    heightOver (parts.map Part.height) ≤ levels ↔ ∀ part ∈ parts, part.height < levels := by
  simp [height_over_le_iff]

theorem fields_height_le_iff (fields : List (Field Nat)) (levels : Nat) :
    heightOver (fields.map Field.content) ≤ levels ↔ ∀ field ∈ fields, field.content < levels := by
  simp [height_over_le_iff]

theorem pair_heights_le_iff (pairs : List (Part × Part)) (levels : Nat) :
    heightOver (pairHeights pairs) ≤ levels ↔
      ∀ pair ∈ pairs, pair.1.height < levels ∧ pair.2.height < levels := by
  rw [height_over_le_iff]
  constructor
  · intro heights pair member
    exact ⟨heights _ (List.mem_flatMap.mpr ⟨pair, member, by simp⟩),
      heights _ (List.mem_flatMap.mpr ⟨pair, member, by simp⟩)⟩
  · intro pairHeights height member
    obtain ⟨pair, present, among⟩ := List.mem_flatMap.mp member
    simp only [List.mem_cons, List.not_mem_nil, or_false] at among
    rcases among with rfl | rfl
    · exact (pairHeights pair present).1
    · exact (pairHeights pair present).2

theorem skip_value_sound (inner : Skipper) (levels : Nat) (skips : SkipsBelow inner levels)
    (kind : UInt8) (input rest : Bytes) (skipped : skipValue inner kind input = .ok rest) :
    ∃ part, Below (levels + 1) kind part ∧ input = part.bytes ++ rest := by
  have fixed (known : Kind) (width : Nat) (exact : known.width? = some width)
      (dropped : dropBytes width input = .ok rest) :
      ∃ part, Below (levels + 1) known.code part ∧ input = part.bytes ++ rest := by
    obtain ⟨bytes, length, split⟩ := (drop_bytes_iff width input rest).mp dropped
    exact ⟨⟨0, bytes⟩, ⟨.fixed known bytes (by rw [exact, length]), by simp⟩, split⟩
  have listed (container : Kind) (dropped : skipList inner input = .ok rest)
      (form : ∀ element parts, parts.length < 2147483648 →
        (∀ part ∈ parts, Value element part.height part.bytes) →
        Value container.code (heightOver (parts.map Part.height)) (listBytes element parts)) :
      ∃ part, Below (levels + 1) container.code part ∧ input = part.bytes ++ rest := by
    obtain ⟨element, parts, small, below, split⟩ :=
      (skip_list_iff inner levels skips input rest).mp dropped
    have value := form element parts small fun part member => (below part member).1
    have low := (parts_height_le_iff parts levels).mpr fun part member => (below part member).2
    exact ⟨⟨_, _⟩, ⟨value, Nat.lt_succ_of_le low⟩, split⟩
  cases found : Kind.ofCode? kind with
  | none => simp [skipValue, found] at skipped
  | some known =>
      rw [← Kind.code_of_code found]
      simp only [skipValue, found] at skipped
      cases known with
      | bool => exact fixed .bool 1 rfl skipped
      | byte => exact fixed .byte 1 rfl skipped
      | int16 => exact fixed .int16 2 rfl skipped
      | int32 => exact fixed .int32 4 rfl skipped
      | double => exact fixed .double 8 rfl skipped
      | int64 => exact fixed .int64 8 rfl skipped
      | text =>
          obtain ⟨bytes, small, split⟩ := (skip_text_iff input rest).mp skipped
          exact ⟨⟨0, _⟩, ⟨.text bytes small, by simp⟩, split⟩
      | struct =>
          obtain ⟨fields, below, split⟩ :=
            (skip_struct_iff inner levels skips input rest).mp skipped
          have value := Value.struct fields fun field member => (below field member).1
          have low := (fields_height_le_iff fields levels).mpr
            fun field member => (below field member).2
          exact ⟨⟨_, _⟩, ⟨value, Nat.lt_succ_of_le low⟩, split⟩
      | map =>
          obtain ⟨key, item, pairs, small, below, split⟩ :=
            (skip_map_iff inner levels skips input rest).mp skipped
          have value := Value.map key item pairs small
            (fun pair member => (below pair member).1.1)
            (fun pair member => (below pair member).2.1)
          have low := (pair_heights_le_iff pairs levels).mpr
            fun pair member => ⟨(below pair member).1.2, (below pair member).2.2⟩
          exact ⟨⟨_, _⟩, ⟨value, Nat.lt_succ_of_le low⟩, split⟩
      | set => exact listed .set skipped .set
      | list => exact listed .list skipped .list

theorem skip_value_complete (inner : Skipper) (levels : Nat) (skips : SkipsBelow inner levels)
    (kind : UInt8) (height : Nat) (bytes rest : Bytes) (value : Value kind height bytes)
    (low : height ≤ levels) : skipValue inner kind (bytes ++ rest) = .ok rest := by
  cases value with
  | fixed known bytes exact =>
      have dropped := (drop_bytes_iff bytes.length (bytes ++ rest) rest).mpr ⟨bytes, rfl, rfl⟩
      cases known <;> first
        | cases exact
        | (simp only [Kind.width?, Option.some.injEq] at exact
           simp only [skipValue, Kind.of_code_code, exact, dropped])
  | text bytes small =>
      simp only [skipValue, Kind.of_code_code]
      exact (skip_text_iff _ rest).mpr ⟨bytes, small, rfl⟩
  | struct fields values =>
      simp only [skipValue, Kind.of_code_code]
      have below := (fields_height_le_iff fields levels).mp low
      exact (skip_struct_iff inner levels skips _ rest).mpr
        ⟨fields, fun field member => ⟨values field member, below field member⟩, rfl⟩
  | map key item pairs small keys items =>
      simp only [skipValue, Kind.of_code_code]
      have below := (pair_heights_le_iff pairs levels).mp low
      exact (skip_map_iff inner levels skips _ rest).mpr ⟨key, item, pairs, small,
        fun pair member => ⟨⟨keys pair member, (below pair member).1⟩,
          ⟨items pair member, (below pair member).2⟩⟩, rfl⟩
  | set element parts small values | list element parts small values =>
      simp only [skipValue, Kind.of_code_code]
      have below := (parts_height_le_iff parts levels).mp low
      exact (skip_list_iff inner levels skips _ rest).mpr
        ⟨element, parts, small, fun part member => ⟨values part member, below part member⟩, rfl⟩

theorem skipper_iff (levels : Nat) : SkipsBelow (skipper levels) levels := by
  induction levels with
  | zero =>
      intro kind input rest
      constructor
      · intro skipped
        cases skipped
      · rintro ⟨part, below, _⟩
        exact absurd below.2 (Nat.not_lt_zero _)
  | succ levels ih =>
      intro kind input rest
      constructor
      · exact skip_value_sound (skipper levels) levels ih kind input rest
      · rintro ⟨part, ⟨value, low⟩, rfl⟩
        exact skip_value_complete (skipper levels) levels ih kind part.height part.bytes rest value
          (Nat.le_of_lt_succ low)

-- A value that may stand where nothing lies around it but the struct that it is a field of.
def Skippable (kind : UInt8) (bytes : Bytes) : Prop :=
  ∃ height, Value kind height bytes ∧ height ≤ nestingLimit

theorem skippable_kind_ne_stop (kind : UInt8) (bytes : Bytes) (skippable : Skippable kind bytes) :
    kind ≠ 0 := by
  obtain ⟨height, value, _⟩ := skippable
  exact value_kind_ne_stop kind height bytes value

theorem skip_iff (kind : UInt8) (input rest : Bytes) :
    skip kind input = .ok rest ↔ ∃ bytes, Skippable kind bytes ∧ input = bytes ++ rest := by
  have levels := skipper_iff (nestingLimit + 1) kind input rest
  constructor
  · intro skipped
    obtain ⟨part, ⟨value, low⟩, split⟩ := levels.mp skipped
    exact ⟨part.bytes, ⟨part.height, value, Nat.le_of_lt_succ low⟩, split⟩
  · rintro ⟨bytes, ⟨height, value, low⟩, split⟩
    exact levels.mpr ⟨⟨height, bytes⟩, ⟨value, Nat.lt_succ_of_le low⟩, split⟩

end LogRelay.Wire
