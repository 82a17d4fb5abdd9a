import LogRelay.Collector
import LogRelay.Proofs.Wire.RoundTrip

set_option autoImplicit false

namespace LogRelay.Collector

open Wire

inductive Begins : Bytes → Framing → Prop where
  | cut (stream : Bytes) (short : stream.length < 4) : Begins stream .incomplete
  | partly (word : UInt32) (behind : Bytes) (short : behind.length < word.toNat) :
      Begins (Bytes.put32 word behind) .incomplete
  | oversize (word : UInt32) (behind : Bytes) (large : frameLimit < word.toNat) :
      Begins (Bytes.put32 word behind) .unreadable
  | whole (body rest : Bytes) (fits : body.length ≤ frameLimit) :
      Begins (frame body ++ rest) (.framed body rest)

theorem take_word_short (stream : Bytes) (fault : Fault) (failed : takeWord stream = .error fault) :
    stream.length < 4 := by
  match stream, failed with
  | _ :: _ :: _ :: _ :: _, failed => cases failed
  | [_, _, _], _ | [_, _], _ | [_], _ | [], _ => simp

theorem take_bytes_short (count : Nat) (input : Bytes) (fault : Fault)
    (failed : takeBytes count input = .error fault) : input.length < count := by
  by_cases short : input.length < count
  · exact short
  · have whole : ¬ (input.take count).length < count := by
      rw [List.length_take]
      omega
    rw [takeBytes, if_neg whole] at failed
    cases failed

theorem framing_begins (stream : Bytes) : Begins stream (framing stream) := by
  rw [framing]
  cases worded : takeWord stream with
  | error fault => exact .cut stream (take_word_short stream fault worded)
  | ok read =>
      obtain ⟨word, behind⟩ := read
      rw [(take_word_iff stream behind word).mp worded]
      by_cases large : word.toNat > frameLimit
      · simp only [frameLength, if_pos large]
        exact .oversize word behind large
      · simp only [frameLength, if_neg large]
        cases taken : takeBytes word.toNat behind with
        | error fault => exact .partly word behind (take_bytes_short _ behind fault taken)
        | ok read =>
            obtain ⟨body, rest⟩ := read
            obtain ⟨long, rfl⟩ := (take_bytes_iff _ behind body rest).mp taken
            have number : UInt32.ofNat body.length = word := by
              rw [long]
              exact UInt32.ofNat_toNat
            rw [← number, ← Bytes.put32_append]
            exact .whole body rest (by omega)

theorem framing_iff (stream body rest : Bytes) :
    framing stream = .framed body rest ↔
      body.length ≤ frameLimit ∧ stream = frame body ++ rest := by
  constructor
  · intro framed
    have begins := framing_begins stream
    rw [framed] at begins
    cases begins with
    | whole _ _ fits => exact ⟨fits, rfl⟩
  · rintro ⟨fits, rfl⟩
    have worded := (take_word_iff (frame body ++ rest) (body ++ rest) _).mpr
      (Bytes.put32_append (UInt32.ofNat body.length) body rest)
    have taken := (take_bytes_iff body.length (body ++ rest) body rest).mpr ⟨rfl, rfl⟩
    rw [framing, worded]
    simp only [frameLength, length_word body fits, if_neg (Nat.not_lt.mpr fits), taken]

theorem framing_unreadable_iff (stream : Bytes) :
    framing stream = .unreadable ↔
      ∃ word behind, frameLimit < word.toNat ∧ stream = Bytes.put32 word behind := by
  constructor
  · intro framed
    have begins := framing_begins stream
    rw [framed] at begins
    cases begins with
    | oversize word behind large => exact ⟨word, behind, large, rfl⟩
  · rintro ⟨word, behind, large, rfl⟩
    rw [framing, (take_word_iff _ behind word).mpr rfl]
    simp only [frameLength, if_pos large]

theorem framing_append_framed (first second body rest : Bytes)
    (framed : framing first = .framed body rest) :
    framing (first ++ second) = .framed body (rest ++ second) := by
  obtain ⟨fits, rfl⟩ := (framing_iff first body rest).mp framed
  exact (framing_iff _ body _).mpr ⟨fits, List.append_assoc _ rest second⟩

theorem framing_append_unreadable (first second : Bytes)
    (framed : framing first = .unreadable) : framing (first ++ second) = .unreadable := by
  obtain ⟨word, behind, large, rfl⟩ := (framing_unreadable_iff first).mp framed
  exact (framing_unreadable_iff _).mpr ⟨word, behind ++ second, large, Bytes.put32_append _ _ _⟩

theorem serve_incomplete (stream : Bytes) (framed : framing stream = .incomplete) :
    serve stream = ⟨[], some stream⟩ := by
  rw [serve, serveFrom]
  split <;> simp_all

theorem serve_unreadable (stream : Bytes) (framed : framing stream = .unreadable) :
    serve stream = ⟨[], none⟩ := by
  rw [serve, serveFrom]
  split <;> simp_all

theorem serve_garbled (stream body rest : Bytes) (fault : Fault)
    (framed : framing stream = .framed body rest) (garbled : decodeCall body = .error fault) :
    serve stream = ⟨[], none⟩ := by
  rw [serve, serveFrom]
  split <;> simp_all

-- The calls read so far stand in front of those that the stream still holds.
theorem serve_from_eq (calls : List Call) (stream : Bytes) :
    serveFrom calls stream =
      ⟨calls.reverse ++ (serve stream).calls, (serve stream).waiting⟩ := by
  induction stream using (measure List.length).wf.induction generalizing calls with
  | _ stream ih =>
    rw [serve, serveFrom, serveFrom]
    split
    · simp
    · simp
    · next body rest framed =>
      have exact := framing_length framed
      have shorter : rest.length < stream.length := by omega
      cases decodeCall body with
      | error fault => simp
      | ok call =>
          dsimp only
          rw [ih rest shorter (call :: calls), ih rest shorter [call]]
          simp

theorem serve_call (stream body rest : Bytes) (call : Call)
    (framed : framing stream = .framed body rest) (called : decodeCall body = .ok call) :
    serve stream = ⟨call :: (serve rest).calls, (serve rest).waiting⟩ := by
  have once : serve stream = serveFrom [call] rest := by
    rw [serve, serveFrom]
    split <;> simp_all
  rw [once, serve_from_eq]
  rfl

theorem serve_append (first second : Bytes) :
    serve (first ++ second) =
      match (serve first).waiting with
      | none => serve first
      | some waiting =>
          ⟨(serve first).calls ++ (serve (waiting ++ second)).calls,
            (serve (waiting ++ second)).waiting⟩ := by
  induction first using (measure List.length).wf.induction with
  | _ first ih =>
    cases framed : framing first with
    | incomplete =>
        rw [serve_incomplete first framed]
        rfl
    | unreadable =>
        rw [serve_unreadable first framed]
        exact serve_unreadable _ (framing_append_unreadable first second framed)
    | framed body rest =>
        have onward := framing_append_framed first second body rest framed
        cases called : decodeCall body with
        | error fault =>
            rw [serve_garbled first body rest fault framed called]
            exact serve_garbled _ body _ fault onward called
        | ok call =>
            have exact := framing_length framed
            have shorter : rest.length < first.length := by omega
            rw [serve_call first body rest call framed called,
              serve_call _ body _ call onward called, ih rest shorter]
            cases left : (serve rest).waiting with
            | none => simp only [left]
            | some waiting => rfl

theorem serve_one_call (sequence : Int32) (entry : Entry) (fits : callLength entry ≤ frameLimit) :
    serve (frame (callBody sequence entry)) = ⟨[⟨sequence, [entry]⟩], some []⟩ := by
  have framed := (framing_iff _ (callBody sequence entry) []).mpr
    ⟨call_body_fits sequence entry fits, (List.append_nil _).symm⟩
  rw [serve_call _ _ [] _ framed (decode_call_body sequence entry fits)]
  rw [serve_incomplete [] rfl]

end LogRelay.Collector
