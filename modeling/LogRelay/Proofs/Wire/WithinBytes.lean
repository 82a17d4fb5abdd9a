import LogRelay.Proofs.Wire.OneValue
import LogRelay.Proofs.Wire.RoundTrip
import LogRelay.Proofs.Wire.Rounds
import Mathlib.Algebra.Ring.Nat

/-!
Reading stays within its bytes. No count that a peer declares keeps a reader going for longer than
there are bytes, or has it keep more than they hold.
-/
set_option autoImplicit false

namespace LogRelay.Wire

-- What reading adds to the weight of a state it takes off the bytes.
theorem fold_fields_weight {σ : Type} (reader : FieldReader σ) (weight : σ → Nat)
    (pays : ∀ kind id state after input rest, reader.read kind id state input = .ok (after, rest) →
      weight after + rest.length ≤ weight state + input.length) (state after : σ)
    (input rest : Bytes) (read : foldFields reader state input = .ok (after, rest)) :
    weight after + rest.length < weight state + input.length := by
  refine fold_fields_induction reader (fun state input =>
    weight after + rest.length < weight state + input.length) after rest ?_ ?_ state input read
  · simp
  · intro kind id state middle body value tail named numbered valued later
    have first := take_int16_length numbered
    have second := pays kind id state middle value tail valued
    rw [List.length_cons]
    omega

def Entry.textSize (entry : Entry) : Nat := Utf8.size entry.category + Utf8.size entry.message

theorem take_text_size {input rest : Bytes} {text : String}
    (read : takeText input = .ok (text, rest)) : Utf8.size text + rest.length ≤ input.length := by
  obtain ⟨_, rfl⟩ := (take_text_iff input rest text).mp read
  rw [put_text_length]
  omega

theorem entry_field_weight (kind : UInt8) (id : Int16) (entry after : Entry) (input rest : Bytes)
    (read : entryReader.read kind id entry input = .ok (after, rest)) :
    after.textSize + rest.length ≤ entry.textSize + input.length := by
  simp only [entryReader, readEntryField] at read
  split at read
  · split at read
    · cases read
    · next category tail taken =>
      cases read
      have size := take_text_size taken
      simp only [Entry.textSize]
      omega
  · split at read
    · split at read
      · cases read
      · next message tail taken =>
        cases read
        have size := take_text_size taken
        simp only [Entry.textSize]
        omega
    · split at read
      · cases read
      · next tail skipped =>
        cases read
        have shorter := skip_length skipped
        omega

theorem take_entry_weight {input rest : Bytes} {entry : Entry}
    (read : takeEntry input = .ok (entry, rest)) : entry.textSize + rest.length < input.length := by
  have paid := fold_fields_weight entryReader Entry.textSize entry_field_weight ⟨"", ""⟩ entry input
    rest read
  have nothing : Entry.textSize ⟨"", ""⟩ = 0 := rfl
  omega

def entriesWeight (entries : List Entry) : Nat :=
  (entries.map fun entry => 1 + Utf8.size entry.category + Utf8.size entry.message).sum

theorem entries_weight_cons (entry : Entry) (entries : List Entry) :
    entriesWeight (entry :: entries) = 1 + entry.textSize + entriesWeight entries := by
  simp [entriesWeight, Entry.textSize, Nat.add_assoc]

theorem take_entries_weight {count : Nat} {entries after : List Entry} {input rest : Bytes}
    (read : takeEntries count entries input = .ok (after, rest)) :
    entriesWeight after + rest.length ≤ entriesWeight entries + input.length := by
  induction count generalizing entries input with
  | zero =>
      cases read
      exact Nat.le_refl _
  | succ count ih =>
      unfold takeEntries at read
      split at read
      · cases read
      · next entry tail taken =>
        have first := take_entry_weight taken
        have second := ih read
        rw [entries_weight_cons] at second
        omega

theorem argument_weight (kind : UInt8) (id : Int16) (entries after : List Entry)
    (input rest : Bytes) (read : argumentReader.read kind id entries input = .ok (after, rest)) :
    entriesWeight after + rest.length ≤ entriesWeight entries + input.length := by
  have shorter := argumentReader.no_growth read
  simp only [argumentReader, readArgument] at read
  split at read
  · split at read
    · cases read
    · next element count behind headed =>
      have opened := take_list_header_length headed
      split at read
      · have paid := take_entries_weight read
        omega
      · split at read
        · cases read
        · next tail skipped =>
          cases read
          omega
  · split at read
    · cases read
    · next tail skipped =>
      cases read
      omega

theorem decode_call_weight (body : Bytes) (call : Call) (read : decodeCall body = .ok call) :
    entriesWeight call.entries ≤ body.length := by
  unfold decodeCall at read
  split at read
  · cases read
  · next header rest headed =>
    have shorter := take_header_shorter body rest header headed
    split at read
    · cases read
    · split at read
      · cases read
      · split at read
        · cases read
        · next entries tail folded =>
          cases read
          have paid := fold_fields_weight argumentReader entriesWeight argument_weight [] entries
            rest tail folded
          have nothing : entriesWeight [] = 0 := rfl
          have turned : entriesWeight entries.reverse = entriesWeight entries := by
            rw [entriesWeight, List.map_reverse, List.sum_reverse, entriesWeight]
          rw [turned]
          omega

theorem skip_leaves_less (depth : Nat) (kind : UInt8) (input rest : Bytes)
    (skipped : skipAt depth kind input = .ok rest) :
    rest <:+ input ∧ rest.length < input.length := by
  obtain ⟨part, _, _, split⟩ := (skip_at_iff depth kind input rest).mp skipped
  exact ⟨⟨part.bytes, split.symm⟩, skip_at_length skipped⟩

theorem take_entry_leaves_less (input rest : Bytes) (entry : Entry)
    (read : takeEntry input = .ok (entry, rest)) :
    rest <:+ input ∧ rest.length < input.length := by
  obtain ⟨bytes, _, split⟩ := (take_entry_iff input rest entry).mp read
  exact ⟨⟨bytes, split.symm⟩, take_entry_length read⟩

theorem skip_many_ends_within (step : Bytes → Except Fault Bytes)
    (shrinks : ∀ {input rest : Bytes}, step input = .ok rest → rest.length < input.length)
    (declared : Nat) (input : Bytes) :
    EndsWithin (fun count => skipMany step count input) step List.length declared input.length := by
  simp only [skip_many_looped]
  exact looped_ends_within step List.length (fun _ _ once => shrinks once) declared input

theorem take_entries_ends_within (declared : Nat) (entries : List Entry) (input : Bytes) :
    EndsWithin (fun count => takeEntries count entries input) entryRound
      (fun state => state.2.length) declared input.length := by
  have shrinks (state next : List Entry × Bytes) (once : entryRound state = .ok next) :
      next.2.length < state.2.length := by
    unfold entryRound at once
    split at once
    · cases once
    · next entry rest read =>
      cases once
      exact take_entry_length read
  simp only [take_entries_looped]
  exact looped_ends_within entryRound (fun state => state.2.length) shrinks declared
    (entries, input)

theorem reading_stays_within_bytes (depth : Nat) (kind item : UInt8) (declared : Nat)
    (entries : List Entry) (input : Bytes) :
    let inner := skipper (nestingLimit + 1 - depth)
    (∀ rest, skipAt depth kind input = .ok rest → rest <:+ input ∧ rest.length < input.length) ∧
    (∀ entry rest, takeEntry input = .ok (entry, rest) →
      rest <:+ input ∧ rest.length < input.length) ∧
    EndsWithin (fun count => skipMany (skipAt depth kind) count input) (skipAt depth kind)
      List.length declared input.length ∧
    EndsWithin (fun count => skipMany (skipPair inner kind item) count input)
      (skipPair inner kind item) List.length declared input.length ∧
    EndsWithin (fun count => takeEntries count entries input) entryRound
      (fun state => state.2.length) declared input.length ∧
    skipRounds depth kind input ≤ input.length ∧ callRounds input ≤ input.length ∧
    (∀ expected, replyRounds input expected ≤ input.length) ∧
    (∀ call, decodeCall input = .ok call →
      (call.entries.map fun entry => 1 + Utf8.size entry.category + Utf8.size entry.message).sum ≤
        input.length) := by
  intro inner
  exact ⟨skip_leaves_less depth kind input,
    fun entry rest => take_entry_leaves_less input rest entry,
    skip_many_ends_within (skipAt depth kind) skip_at_length declared input,
    skip_many_ends_within (skipPair inner kind item) (skip_pair_length inner) declared input,
    take_entries_ends_within declared entries input,
    (skip_rounds_paid depth kind input).within, call_rounds_within input, reply_rounds_within input,
    decode_call_weight input⟩

def crowdedCall : Bytes :=
  putPlain ⟨method, MessageType.call, 9⟩ <| putField .list 1 <| Kind.struct.code :: Bytes.put32 2 (
    putField .set 7 <| Kind.bool.code :: Bytes.put32 2 (1 :: 0 :: (
      putField .text 2 <| putText "go" <| putStop (putStop (putStop [])))))

theorem crowded_call_within :
    callRounds crowdedCall = 4 ∧ callRounds crowdedCall ≤ crowdedCall.length ∧
      decodeCall crowdedCall = .ok ⟨9, [⟨"", "go"⟩, ⟨"", ""⟩]⟩ ∧
      1 + 0 + 2 + (1 + 0 + 0) ≤ crowdedCall.length := by
  have counted : callRounds crowdedCall = 4 := by with_unfolding_all rfl
  have called : decodeCall crowdedCall = .ok ⟨9, [⟨"", "go"⟩, ⟨"", ""⟩]⟩ := by
    with_unfolding_all rfl
  obtain ⟨_, _, _, _, _, _, rounds, _, texts⟩ := reading_stays_within_bytes 0 0 0 0 [] crowdedCall
  exact ⟨counted, rounds, called, texts _ called⟩

end LogRelay.Wire
