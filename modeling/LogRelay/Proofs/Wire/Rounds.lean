import LogRelay.Proofs.Wire.Loops
import LogRelay.Wire.Reply

/-!
The rounds that reading sets going. All counted loops of a body, those within loops included, make
no more rounds than the body has bytes, also where the reading fails.
-/
set_option autoImplicit false

namespace LogRelay.Wire

section

-- What skips the parts of a value, and the rounds made while it skips one.
variable (inner : Skipper) (inside : UInt8 → Bytes → Nat)

def pairRounds (key item : UInt8) (input : Bytes) : Nat :=
  inside key input +
    match inner.skip key input with
    | .error _ => 0
    | .ok rest => inside item rest

def listRounds (input : Bytes) : Nat :=
  match takeListHeader input with
  | .error _ => 0
  | .ok (element, declared, rest) => loopRounds (inner.skip element) (inside element) declared rest

def mapRounds (input : Bytes) : Nat :=
  match takeByte input with
  | .error _ => 0
  | .ok (key, rest) =>
      match takeListHeader rest with
      | .error _ => 0
      | .ok (item, declared, rest) =>
          loopRounds (skipPair inner key item) (pairRounds inner inside key item) declared rest

def valueRounds (kind : UInt8) (input : Bytes) : Nat :=
  match Kind.ofCode? kind with
  | some .struct => fieldRounds inner.fieldReader (fun kind _ _ value => inside kind value) () input
  | some .map => mapRounds inner inside input
  | some .set | some .list => listRounds inner inside input
  | _ => 0

end

def levelRounds : Nat → UInt8 → Bytes → Nat
  | 0, _, _ => 0
  | levels + 1, kind, input => valueRounds (skipper levels) (levelRounds levels) kind input

def skipRounds (depth : Nat) (kind : UInt8) (input : Bytes) : Nat :=
  levelRounds (nestingLimit + 1 - depth) kind input

-- For a reader that knows texts and numbers only: those have no loop, read or skipped.
def skippedRounds {σ : Type} (kind : UInt8) (_ : Int16) (_ : σ) (input : Bytes) : Nat :=
  skipRounds 0 kind input

def entryRounds (input : Bytes) : Nat := fieldRounds entryReader skippedRounds ⟨"", ""⟩ input

def argumentRounds (kind : UInt8) (id : Int16) (entries : List Entry) (input : Bytes) : Nat :=
  if kind = Kind.list.code ∧ id = 1 then
    match takeListHeader input with
    | .error _ => 0
    | .ok (element, declared, rest) =>
        if element = Kind.struct.code then
          loopRounds entryRound (fun state => entryRounds state.2) declared (entries, rest)
        else loopRounds (skip element) (skipRounds 0 element) declared rest
  else skipRounds 0 kind input

def callRounds (body : Bytes) : Nat :=
  match takeHeader body with
  | .error _ => 0
  | .ok (header, rest) =>
      if header.type ≠ MessageType.call ∧ header.type ≠ MessageType.oneway then 0
      else if header.name ≠ method then 0
      else fieldRounds argumentReader argumentRounds [] rest

def replyRounds (body : Bytes) (expected : Int32) : Nat :=
  match takeHeader body with
  | .error _ => 0
  | .ok (header, rest) =>
      if header.sequence ≠ expected then 0
      else if header.type = MessageType.exception then
        fieldRounds exceptionReader skippedRounds ⟨"", none⟩ rest
      else if header.type ≠ MessageType.reply then 0
      else if header.name ≠ method then 0
      else fieldRounds resultReader skippedRounds none rest

-- Rounds are paid for with bytes that are taken off, and with none twice.
structure Paid (rounds : Nat) (input : Bytes) (result : Except Fault Bytes) : Prop where
  within : rounds ≤ input.length
  taken : ∀ rest, result = .ok rest → rounds + rest.length < input.length

theorem Paid.of_error {rounds : Nat} {input : Bytes} (fault : Fault)
    (within : rounds ≤ input.length) : Paid rounds input (.error fault) := by
  refine ⟨within, ?_⟩
  intro rest read
  cases read

theorem skip_loop_paid (step : Bytes → Except Fault Bytes) (inside : Bytes → Nat)
    (paid : ∀ input, Paid (inside input) input (step input)) (declared : Nat) (input : Bytes) :
    loopRounds step inside declared input ≤ input.length ∧
      ∀ rest, skipMany step declared input = .ok rest →
        loopRounds step inside declared input + rest.length ≤ input.length := by
  simp only [skip_many_looped]
  exact loop_rounds_within step inside List.length (fun input => (paid input).within)
    (fun input rest once => (paid input).taken rest once) declared input

section

variable (inner : Skipper) (inside : UInt8 → Bytes → Nat)
  (paid : ∀ kind input, Paid (inside kind input) input (inner.skip kind input))
include paid

theorem pair_rounds_paid (key item : UInt8) (input : Bytes) :
    Paid (pairRounds inner inside key item input) input (skipPair inner key item input) := by
  have first := paid key input
  unfold pairRounds skipPair
  cases keyed : inner.skip key input with
  | error fault => exact .of_error fault first.within
  | ok middle =>
      have less := first.taken middle keyed
      have second := paid item middle
      refine ⟨?_, ?_⟩
      · have most := second.within
        simp only
        omega
      · intro rest skipped
        have later := second.taken rest skipped
        simp only
        omega

theorem list_rounds_paid (input : Bytes) :
    Paid (listRounds inner inside input) input (skipList inner input) := by
  unfold listRounds skipList
  cases headed : takeListHeader input with
  | error fault => exact .of_error fault (Nat.zero_le _)
  | ok header =>
      obtain ⟨element, declared, behind⟩ := header
      have opened := take_list_header_length headed
      obtain ⟨most, exact⟩ :=
        skip_loop_paid (inner.skip element) (inside element) (paid element) declared behind
      refine ⟨by simp only; omega, ?_⟩
      intro rest skipped
      have later := exact rest skipped
      simp only
      omega

theorem map_rounds_paid (input : Bytes) :
    Paid (mapRounds inner inside input) input (skipMap inner input) := by
  unfold mapRounds skipMap
  cases keyed : takeByte input with
  | error fault => exact .of_error fault (Nat.zero_le _)
  | ok read =>
      obtain ⟨key, tail⟩ := read
      have first := take_byte_length keyed
      simp only
      cases headed : takeListHeader tail with
      | error fault => exact .of_error fault (Nat.zero_le _)
      | ok header =>
          obtain ⟨item, declared, behind⟩ := header
          have opened := take_list_header_length headed
          obtain ⟨most, exact⟩ := skip_loop_paid (skipPair inner key item)
            (pairRounds inner inside key item) (pair_rounds_paid inner inside paid key item)
            declared behind
          refine ⟨by simp only; omega, ?_⟩
          intro rest skipped
          have later := exact rest skipped
          simp only
          omega

theorem struct_rounds_paid (input : Bytes) :
    Paid (fieldRounds inner.fieldReader (fun kind _ _ value => inside kind value) () input) input
      (skipStruct inner input) := by
  have taken (kind : UInt8) (id : Int16) (state after : Unit) (input rest : Bytes)
      (read : inner.fieldReader.read kind id state input = .ok (after, rest)) :
      inside kind input + rest.length ≤ input.length := by
    simp only [Skipper.fieldReader] at read
    split at read
    · cases read
    · next tail skipped =>
      cases read
      exact Nat.le_of_lt ((paid kind input).taken rest skipped)
  refine ⟨?_, ?_⟩
  · exact field_rounds_within inner.fieldReader _ taken
      (fun kind _ _ input => (paid kind input).within) () input
  · intro rest skipped
    unfold skipStruct at skipped
    split at skipped
    · cases skipped
    · next state tail folded =>
      cases skipped
      exact field_rounds_taken inner.fieldReader _ taken () state input rest folded

theorem value_rounds_paid (kind : UInt8) (input : Bytes) :
    Paid (valueRounds inner inside kind input) input (skipValue inner kind input) := by
  have flat : Paid 0 input (skipValue inner kind input) := by
    refine ⟨Nat.zero_le _, ?_⟩
    intro rest skipped
    have less := skip_value_length inner skipped
    omega
  cases found : Kind.ofCode? kind with
  | none =>
      rw [valueRounds, found]
      exact flat
  | some known =>
      rw [valueRounds, found]
      cases known with
      | struct =>
          rw [skipValue, found]
          exact struct_rounds_paid inner inside paid input
      | map =>
          rw [skipValue, found]
          exact map_rounds_paid inner inside paid input
      | set | list =>
          rw [skipValue, found]
          exact list_rounds_paid inner inside paid input
      | _ => exact flat

end

theorem level_rounds_paid (levels : Nat) (kind : UInt8) (input : Bytes) :
    Paid (levelRounds levels kind input) input ((skipper levels).skip kind input) := by
  induction levels generalizing kind input with
  | zero => exact .of_error _ (Nat.zero_le _)
  | succ levels ih => exact value_rounds_paid (skipper levels) (levelRounds levels) ih kind input

theorem skip_rounds_paid (depth : Nat) (kind : UInt8) (input : Bytes) :
    Paid (skipRounds depth kind input) input (skipAt depth kind input) :=
  level_rounds_paid (nestingLimit + 1 - depth) kind input

theorem flat_rounds (depth : Nat) (known : Kind) (input : Bytes)
    (flat : known = .text ∨ known = .int32) : skipRounds depth known.code input = 0 := by
  unfold skipRounds
  cases nestingLimit + 1 - depth with
  | zero => rfl
  | succ levels =>
      rw [levelRounds, valueRounds, Kind.of_code_code]
      rcases flat with rfl | rfl <;> rfl

theorem skipped_rounds_within {σ : Type} (kind : UInt8) (id : Int16) (state : σ) (input : Bytes) :
    skippedRounds kind id state input ≤ input.length :=
  (skip_rounds_paid 0 kind input).within

-- A reader that takes a text or a number where it knows the field, and skips every other field.
def KnowsFlat {σ : Type} (reader : FieldReader σ) : Prop :=
  ∀ kind id state after input rest, reader.read kind id state input = .ok (after, rest) →
    kind = Kind.text.code ∨ kind = Kind.int32.code ∨ skip kind input = .ok rest

theorem skipped_rounds_taken {σ : Type} (reader : FieldReader σ) (flat : KnowsFlat reader)
    (kind : UInt8) (id : Int16) (state after : σ) (input rest : Bytes)
    (read : reader.read kind id state input = .ok (after, rest)) :
    skippedRounds kind id state input + rest.length ≤ input.length := by
  have shorter := reader.no_growth read
  rcases flat kind id state after input rest read with rfl | rfl | skipped
  · rw [skippedRounds, flat_rounds 0 .text input (.inl rfl), Nat.zero_add]
    exact shorter
  · rw [skippedRounds, flat_rounds 0 .int32 input (.inr rfl), Nat.zero_add]
    exact shorter
  · exact Nat.le_of_lt ((skip_rounds_paid 0 kind input).taken rest skipped)

theorem known_fields_within {σ : Type} (reader : FieldReader σ) (flat : KnowsFlat reader)
    (state : σ) (input : Bytes) : fieldRounds reader skippedRounds state input ≤ input.length :=
  field_rounds_within reader skippedRounds (skipped_rounds_taken reader flat)
    skipped_rounds_within state input

theorem entry_reader_flat : KnowsFlat entryReader := by
  intro kind id state after input rest read
  simp only [entryReader, readEntryField] at read
  split at read
  · next known => exact .inl known.1
  · split at read
    · next known => exact .inl known.1
    · split at read
      · cases read
      · next tail skipped =>
        cases read
        exact .inr (.inr skipped)

theorem exception_reader_flat : KnowsFlat exceptionReader := by
  intro kind id state after input rest read
  simp only [exceptionReader, readException] at read
  split at read
  · next known => exact .inl known.1
  · split at read
    · next known => exact .inr (.inl known.1)
    · split at read
      · cases read
      · next tail skipped =>
        cases read
        exact .inr (.inr skipped)

theorem result_reader_flat : KnowsFlat resultReader := by
  intro kind id state after input rest read
  simp only [resultReader, readResult] at read
  split at read
  · next known => exact .inr (.inl known.1)
  · split at read
    · cases read
    · next tail skipped =>
      cases read
      exact .inr (.inr skipped)

theorem entries_loop_within (declared : Nat) (entries : List Entry) (input : Bytes) :
    let rounds := loopRounds entryRound (fun state => entryRounds state.2) declared (entries, input)
    rounds ≤ input.length ∧ ∀ after rest, takeEntries declared entries input = .ok (after, rest) →
      rounds + rest.length ≤ input.length := by
  have within (state : List Entry × Bytes) : entryRounds state.2 ≤ state.2.length :=
    known_fields_within entryReader entry_reader_flat _ _
  have taken (state next : List Entry × Bytes) (once : entryRound state = .ok next) :
      entryRounds state.2 + next.2.length < state.2.length := by
    unfold entryRound at once
    split at once
    · cases once
    · next entry rest read =>
      cases once
      exact field_rounds_taken entryReader skippedRounds
        (skipped_rounds_taken entryReader entry_reader_flat) _ entry state.2 rest read
  obtain ⟨most, exact⟩ := loop_rounds_within entryRound (fun state => entryRounds state.2)
    (fun state => state.2.length) within taken declared (entries, input)
  refine ⟨most, ?_⟩
  intro after rest read
  exact exact (after, rest) ((take_entries_looped declared entries input).symm.trans read)

theorem argument_rounds_within (kind : UInt8) (id : Int16) (entries : List Entry)
    (input : Bytes) : argumentRounds kind id entries input ≤ input.length := by
  unfold argumentRounds
  split
  · split
    · exact Nat.zero_le _
    · next element declared rest headed =>
      have opened := take_list_header_length headed
      split
      · have most := (entries_loop_within declared entries rest).1
        omega
      · have most := (skip_loop_paid (skip element) (skipRounds 0 element)
          (skip_rounds_paid 0 element) declared rest).1
        omega
  · exact (skip_rounds_paid 0 kind input).within

theorem argument_rounds_taken (kind : UInt8) (id : Int16) (entries after : List Entry)
    (input rest : Bytes) (read : argumentReader.read kind id entries input = .ok (after, rest)) :
    argumentRounds kind id entries input + rest.length ≤ input.length := by
  simp only [argumentReader, readArgument] at read
  unfold argumentRounds
  split at read
  · next known =>
    rw [if_pos known]
    cases headed : takeListHeader input with
    | error fault => simp only [headed, reduceCtorEq] at read
    | ok head =>
      obtain ⟨element, declared, behind⟩ := head
      have opened := take_list_header_length headed
      simp only [headed] at read ⊢
      split at read
      · next struct =>
        have exact := (entries_loop_within declared entries behind).2 after rest read
        rw [if_pos struct]
        omega
      · next scalar =>
        split at read
        · cases read
        · next tail skipped =>
          cases read
          have exact := (skip_loop_paid (skip element) (skipRounds 0 element)
            (skip_rounds_paid 0 element) declared behind).2 rest skipped
          rw [if_neg scalar]
          omega
  · next unknown =>
    rw [if_neg unknown]
    split at read
    · cases read
    · next tail skipped =>
      cases read
      exact Nat.le_of_lt ((skip_rounds_paid 0 kind input).taken rest skipped)

theorem take_header_shorter (body rest : Bytes) (header : Header)
    (headed : takeHeader body = .ok (header, rest)) : rest.length ≤ body.length := by
  obtain ⟨head, _, rfl⟩ := (take_header_iff body rest header).mp headed
  simp

theorem call_rounds_within (body : Bytes) : callRounds body ≤ body.length := by
  unfold callRounds
  split
  · exact Nat.zero_le _
  · next header rest headed =>
    have shorter := take_header_shorter body rest header headed
    split
    · exact Nat.zero_le _
    · split
      · exact Nat.zero_le _
      · have most := field_rounds_within argumentReader argumentRounds argument_rounds_taken
          argument_rounds_within [] rest
        exact Nat.le_trans most shorter

def greedyCall : Bytes :=
  putPlain ⟨method, MessageType.call, 9⟩ <| putField .list 1 <|
    Kind.bool.code :: Bytes.put32 2147483647 [1, 0]

example : callRounds greedyCall = 2 := by with_unfolding_all rfl

theorem reply_rounds_within (body : Bytes) (expected : Int32) :
    replyRounds body expected ≤ body.length := by
  unfold replyRounds
  split
  · exact Nat.zero_le _
  · next header rest headed =>
    have shorter := take_header_shorter body rest header headed
    split
    · exact Nat.zero_le _
    · split
      · have most := known_fields_within exceptionReader exception_reader_flat ⟨"", none⟩ rest
        exact Nat.le_trans most shorter
      · split
        · exact Nat.zero_le _
        · split
          · exact Nat.zero_le _
          · have most := known_fields_within resultReader result_reader_flat none rest
            exact Nat.le_trans most shorter

end LogRelay.Wire
