import LogRelay.Proofs.Wire.CallGrammar

/-!
Loops that are given a count. Where each round takes something off, a loop ends within what is left,
whatever its count; the rounds of all loops within it are paid for by the same bytes.
-/
set_option autoImplicit false

namespace LogRelay.Wire

def looped {α : Type} (round : α → Except Fault α) : Nat → α → Except Fault α
  | 0, state => .ok state
  | declared + 1, state =>
      match round state with
      | .error fault => .error fault
      | .ok next => looped round declared next

theorem looped_ok {α : Type} (round : α → Except Fault α) (declared : Nat) (state next : α)
    (once : round state = .ok next) :
    looped round (declared + 1) state = looped round declared next := by
  rw [looped, once]

theorem looped_error {α : Type} (round : α → Except Fault α) (declared : Nat) (state : α)
    (fault : Fault) (once : round state = .error fault) :
    looped round (declared + 1) state = .error fault := by
  rw [looped, once]

def entryRound (state : List Entry × Bytes) : Except Fault (List Entry × Bytes) :=
  match takeEntry state.2 with
  | .error fault => .error fault
  | .ok (entry, rest) => .ok (entry :: state.1, rest)

theorem skip_many_looped (step : Bytes → Except Fault Bytes) (declared : Nat) (input : Bytes) :
    skipMany step declared input = looped step declared input := by
  induction declared generalizing input with
  | zero => rfl
  | succ declared ih =>
      rw [skipMany, looped]
      cases step input with
      | error fault => rfl
      | ok rest => exact ih rest

theorem take_entries_looped (declared : Nat) (entries : List Entry) (input : Bytes) :
    takeEntries declared entries input = looped entryRound declared (entries, input) := by
  induction declared generalizing entries input with
  | zero => rfl
  | succ declared ih =>
      rw [takeEntries, looped, entryRound]
      cases takeEntry input with
      | error fault => rfl
      | ok read => exact ih _ _

-- After some rounds, no more than there were bytes, the loop is either through or at a round that
-- fails, and then fails with it. That a number of rounds succeed is said by the loop itself, given
-- that number.
def EndsWithin {α : Type} (loop : Nat → Except Fault α) (round : α → Except Fault α)
    (left : α → Nat) (declared bytes : Nat) : Prop :=
  ∃ rounds last, rounds ≤ declared ∧ loop rounds = .ok last ∧ rounds + left last ≤ bytes ∧
    (rounds = declared ∨ ∃ fault, round last = .error fault ∧ loop declared = .error fault)

theorem looped_ends_within {α : Type} (round : α → Except Fault α) (left : α → Nat)
    (shrinks : ∀ state next, round state = .ok next → left next < left state) (declared : Nat)
    (state : α) :
    EndsWithin (fun count => looped round count state) round left declared (left state) := by
  induction declared generalizing state with
  | zero => exact ⟨0, state, Nat.le_refl _, rfl, by omega, .inl rfl⟩
  | succ declared ih =>
      cases once : round state with
      | error fault =>
          have broken := looped_error round declared state fault once
          exact ⟨0, state, Nat.zero_le _, rfl, by omega, .inr ⟨fault, once, broken⟩⟩
      | ok next =>
          obtain ⟨rounds, last, few, reached, within, ended⟩ := ih next
          have less := shrinks state next once
          have onward (count : Nat) := looped_ok round count state next once
          refine ⟨rounds + 1, last, by omega, (onward rounds).trans reached, by omega, ?_⟩
          rcases ended with through | ⟨fault, failed, broken⟩
          · exact .inl (congrArg Nat.succ through)
          · exact .inr ⟨fault, failed, (onward declared).trans broken⟩

-- The rounds of a loop that succeed, with those of the loops inside each round that is begun.
def loopRounds {α : Type} (round : α → Except Fault α) (inside : α → Nat) : Nat → α → Nat
  | 0, _ => 0
  | declared + 1, state =>
      inside state +
        match round state with
        | .error _ => 0
        | .ok next => loopRounds round inside declared next + 1

theorem loop_rounds_ok {α : Type} (round : α → Except Fault α) (inside : α → Nat) (declared : Nat)
    (state next : α) (once : round state = .ok next) :
    loopRounds round inside (declared + 1) state =
      inside state + (loopRounds round inside declared next + 1) := by
  rw [loopRounds, once]

theorem loop_rounds_error {α : Type} (round : α → Except Fault α) (inside : α → Nat)
    (declared : Nat) (state : α) (fault : Fault) (once : round state = .error fault) :
    loopRounds round inside (declared + 1) state = inside state := by
  rw [loopRounds, once]
  rfl

theorem loop_rounds_within {α : Type} (round : α → Except Fault α) (inside left : α → Nat)
    (within : ∀ state, inside state ≤ left state)
    (taken : ∀ state next, round state = .ok next → inside state + left next < left state)
    (declared : Nat) (state : α) :
    loopRounds round inside declared state ≤ left state ∧
      ∀ last, looped round declared state = .ok last →
        loopRounds round inside declared state + left last ≤ left state := by
  induction declared generalizing state with
  | zero =>
      refine ⟨Nat.zero_le _, ?_⟩
      intro last through
      cases through
      simp [loopRounds]
  | succ declared ih =>
      have begun := within state
      cases once : round state with
      | error fault =>
          rw [loop_rounds_error round inside declared state fault once,
            looped_error round declared state fault once]
          exact ⟨begun, nofun⟩
      | ok next =>
          have less := taken state next once
          obtain ⟨most, exact⟩ := ih next
          rw [loop_rounds_ok round inside declared state next once,
            looped_ok round declared state next once]
          refine ⟨by omega, ?_⟩
          intro last through
          have later := exact last through
          omega

section

variable {σ : Type} (reader : FieldReader σ) (inside : UInt8 → Int16 → σ → Bytes → Nat)

-- The rounds of the loops inside the fields that are begun.
def fieldRounds (state : σ) (input : Bytes) : Nat :=
  match input with
  | [] => 0
  | kind :: body =>
      if kind = 0 then 0
      else
        match _numbered : takeInt16 body with
        | .error _ => 0
        | .ok (id, value) =>
            inside kind id state value +
              match _valued : reader.read kind id state value with
              | .error _ => 0
              | .ok (after, rest) => fieldRounds after rest
termination_by input.length
decreasing_by
  have first := take_int16_length _numbered
  have second := reader.no_growth _valued
  simp only [List.length_cons]
  omega

theorem field_rounds_field (kind : UInt8) (id : Int16) (state after : σ)
    (body value rest : Bytes) (named : kind ≠ 0) (numbered : takeInt16 body = .ok (id, value))
    (read : reader.read kind id state value = .ok (after, rest)) :
    fieldRounds reader inside state (kind :: body) =
      inside kind id state value + fieldRounds reader inside after rest := by
  rw [fieldRounds]
  split
  · contradiction
  · split
    · simp_all
    · next number tail taken =>
      rw [numbered] at taken
      cases taken
      split
      · simp_all
      · next result behind valued =>
        rw [read] at valued
        cases valued
        rfl

variable (taken : ∀ kind id state after input rest,
  reader.read kind id state input = .ok (after, rest) →
    inside kind id state input + rest.length ≤ input.length)
include taken

theorem field_rounds_within
    (within : ∀ kind id state input, inside kind id state input ≤ input.length) (state : σ)
    (input : Bytes) : fieldRounds reader inside state input ≤ input.length := by
  induction input using (measure List.length).wf.induction generalizing state with
  | _ input ih =>
    unfold fieldRounds
    split
    · exact Nat.zero_le _
    · next kind body =>
      split
      · exact Nat.zero_le _
      · split
        · exact Nat.zero_le _
        · next id value numbered =>
          have first := take_int16_length numbered
          have begun := within kind id state value
          simp only [List.length_cons]
          split
          · omega
          · next after rest valued =>
            have second := taken kind id state after value rest valued
            have shorter : rest.length < (kind :: body).length := by
              simp only [List.length_cons]
              omega
            have third := ih rest shorter after
            omega

theorem field_rounds_taken (state after : σ) (input rest : Bytes)
    (read : foldFields reader state input = .ok (after, rest)) :
    fieldRounds reader inside state input + rest.length < input.length := by
  refine fold_fields_induction reader (fun state input =>
    fieldRounds reader inside state input + rest.length < input.length) after rest ?_ ?_ state input
    read
  · simp [fieldRounds]
  · intro kind id state middle body value tail named numbered valued later
    have first := take_int16_length numbered
    have second := taken kind id state middle value tail valued
    have whole := field_rounds_field reader inside kind id state middle body value tail named
      numbered valued
    rw [whole, List.length_cons]
    omega

end

end LogRelay.Wire
