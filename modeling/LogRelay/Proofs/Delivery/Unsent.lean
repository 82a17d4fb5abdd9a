import LogRelay.Proofs.Delivery.Conversation
import LogRelay.Proofs.Text.Utf8

/-!
Calls that are too long for a frame. They leave nothing behind: a run of calls is the same run
without them, on the stream, in the link and in the answers to all other calls. So what stands in a
frame on the stream is a call whose number is the frame's place there, counted from one.
-/
set_option autoImplicit false

namespace LogRelay.Delivery

open Wire

namespace Session

def transcript (far : FarEnd) : Session → List Entry → List (Entry × Except Failure Verdict)
  | _, [] => []
  | session, entry :: rest =>
      (entry, (session.call far entry).1) :: transcript far (session.call far entry).2 rest

end Session

theorem after_cons (far : FarEnd) (session : Session) (entry : Entry) (rest : List Entry) :
    session.after far (entry :: rest) = (session.call far entry).2.after far rest := rfl

theorem call_unsent (far : FarEnd) (session : Session) (entry : Entry) (large : ¬ Fits entry) :
    (session.call far entry).2 = session := by
  have turn := call_turn far session entry
  generalize session.call far entry = called at turn
  obtain ⟨answer, next⟩ := called
  cases turn with
  | unconnected | oversize => rfl
  | failed _ _ _ _ fits | answered _ _ _ _ fits => exact absurd fits large

theorem after_fitting (far : FarEnd) (session : Session) (entries : List Entry) :
    session.after far (entries.filter Fits) = session.after far entries := by
  induction entries generalizing session with
  | nil => rfl
  | cons entry rest ih =>
      by_cases fits : Fits entry
      · rw [List.filter_cons_of_pos (by simpa using fits), after_cons, after_cons]
        exact ih (session.call far entry).2
      · rw [List.filter_cons_of_neg (by simpa using fits), after_cons,
          call_unsent far session entry fits]
        exact ih session

theorem transcript_fitting (far : FarEnd) (session : Session) (entries : List Entry) :
    session.transcript far (entries.filter Fits) =
      (session.transcript far entries).filter fun turn => Fits turn.1 := by
  induction entries generalizing session with
  | nil => rfl
  | cons entry rest ih =>
      have later := ih (session.call far entry).2
      rw [Session.transcript]
      by_cases fits : Fits entry
      · rw [List.filter_cons_of_pos (by simpa using fits),
          List.filter_cons_of_pos (by simpa using fits), Session.transcript, later]
      · rw [List.filter_cons_of_neg (by simpa using fits),
          List.filter_cons_of_neg (by simpa using fits), ← later,
          call_unsent far session entry fits]

-- What calls have put on the stream: those sent whole, and behind them at most a part of the
-- next.
structure Trail (calls sent : List Entry) (broken written : Bytes) : Prop where
  in_order : sent <+: calls
  bytes : written = callFrames sent ++ broken
  part : broken = [] ∨ ∃ entry, sent ++ [entry] <+: calls ∧
    broken <+: frame (callBody (Int32.ofNat (sent.length + 1)) entry)

theorem trail_after (far : FarEnd) (entries sent : List Entry) (session : Session)
    (step : InStep sent session) : ∃ more broken,
      Trail (sent ++ entries.filter Fits) (sent ++ more) broken
        (session.after far entries).channel.written ∧
      ((session.after far entries).link.isOpen → more = entries.filter Fits ∧ broken = []) := by
  induction entries generalizing sent session with
  | nil =>
      refine ⟨[], [], ⟨List.prefix_refl _, ?_, .inl rfl⟩, fun _ => ⟨rfl, rfl⟩⟩
      rw [List.append_nil, List.append_nil]
      exact step.calls
  | cons entry rest ih =>
      have turn := call_turn far session entry
      have number : Int32.ofNat (sent.length + 1) = session.link.sequence + 1 := by
        rw [step.numbered, Int32.ofNat_add]
        rfl
      rw [after_cons]
      generalize called : session.call far entry = outcome at turn
      obtain ⟨answer, next⟩ := outcome
      cases turn with
      | unconnected closed =>
          have connected := step.connected
          rw [closed] at connected
          cases connected
      | oversize _ large =>
          rw [List.filter_cons_of_neg (by simpa using large)]
          exact ih sent _ step
      | failed failure bytes taken _ fits _ part =>
          rw [List.filter_cons_of_pos (by simpa using fits), after_closed far _ rest rfl]
          refine ⟨[], bytes, ⟨?_, ?_, .inr ⟨entry, ?_, ?_⟩⟩, ?_⟩
          · rw [List.append_nil]
            exact List.prefix_append _ _
          · rw [List.append_nil, ← step.calls]
          · simp
          · rw [List.append_nil, number]
            exact part
          · intro stillOpen
            cases stillOpen
      | answered verdict front body connected fits reply decoded =>
          have more := in_step_call sent session _ entry _ step
            (.answered verdict front body connected fits reply decoded) rfl
          have kept : [entry].filter Fits = [entry] := List.filter_cons_of_pos (by simpa using fits)
          rw [kept] at more
          obtain ⟨later, broken, trail, whole⟩ := ih (sent ++ [entry]) _ more
          rw [List.filter_cons_of_pos (by simpa using fits)]
          simp only [List.append_assoc, List.singleton_append] at trail
          refine ⟨entry :: later, broken, trail, fun stillOpen => ?_⟩
          obtain ⟨all, nothing⟩ := whole stillOpen
          exact ⟨by rw [all], nothing⟩

-- A frame that a peer reads as one call with one entry: the length in front is one that a frame may
-- have, and the body behind it is as long and spells the call.
structure CallBytes (number : Int32) (entry : Entry) (front body : Bytes) : Prop where
  front_length : front.length = 4
  announced : Link.announced front = .ok body.length
  spelled : IsCall body ⟨number, [entry]⟩

-- A stream of whole frames, each with the call of its place, and behind them at most a part of the
-- frame of the next call.
structure NumberedFrames (calls : List Entry) (frames : List (Bytes × Bytes))
    (broken written : Bytes) : Prop where
  bytes : written = (frames.flatMap fun parts => parts.1 ++ parts.2) ++ broken
  whole : ∀ place front body, frames[place]? = some (front, body) →
    ∃ entry, calls[place]? = some entry ∧ CallBytes (Int32.ofNat (place + 1)) entry front body
  part : broken = [] ∨ ∃ entry front body, calls[frames.length]? = some entry ∧
    CallBytes (Int32.ofNat (frames.length + 1)) entry front body ∧ broken <+: front ++ body

def callParts (number : Int32) (entry : Entry) : Bytes × Bytes :=
  (Bytes.put32 (UInt32.ofNat (callBody number entry).length) [], callBody number entry)

theorem call_parts_bytes (number : Int32) (entry : Entry) (fits : Fits entry) :
    CallBytes number entry (callParts number entry).1 (callParts number entry).2 where
  front_length := rfl
  announced := announced_frame _ (call_body_fits number entry fits)
  spelled := (decode_call_iff _ _).mp (decode_call_body number entry fits)

def numberedParts (sent : List Entry) : List (Bytes × Bytes) :=
  sent.mapIdx fun place entry => callParts (Int32.ofNat (place + 1)) entry

theorem numbered_parts_length (sent : List Entry) :
    (numberedParts sent).length = sent.length := List.length_mapIdx

theorem numbered_parts_at (sent : List Entry) (place : Nat) :
    (numberedParts sent)[place]? =
      sent[place]?.map (callParts (Int32.ofNat (place + 1))) := List.getElem?_mapIdx

theorem numbered_parts_joined (sent : List Entry) :
    ((numberedParts sent).flatMap fun parts => parts.1 ++ parts.2) = callFrames sent := by
  rw [List.flatMap_def]
  refine congrArg List.flatten (List.ext_getElem? fun place => ?_)
  rw [List.getElem?_map, numbered_parts_at, List.getElem?_mapIdx, Option.map_map]
  rfl

theorem prefix_place (calls sent : List Entry) (before : sent <+: calls) (place : Nat)
    (entry : Entry) (found : sent[place]? = some entry) : calls[place]? = some entry := by
  obtain ⟨inside, rfl⟩ := List.getElem?_eq_some_iff.mp found
  exact List.prefix_iff_getElem?.mp before place inside

theorem trail_numbered_frames (calls sent : List Entry) (broken written : Bytes)
    (fit : ∀ entry ∈ calls, Fits entry) (trail : Trail calls sent broken written) :
    NumberedFrames calls (numberedParts sent) broken written := by
  refine ⟨?_, ?_, ?_⟩
  · rw [numbered_parts_joined, trail.bytes]
  · intro place front body found
    rw [numbered_parts_at, Option.map_eq_some_iff] at found
    obtain ⟨entry, found, parts⟩ := found
    have called := prefix_place calls sent trail.in_order place entry found
    have bytes := call_parts_bytes (Int32.ofNat (place + 1)) entry
      (fit entry (List.mem_of_getElem? called))
    rw [parts] at bytes
    exact ⟨entry, called, bytes⟩
  · rcases trail.part with nothing | ⟨entry, next, part⟩
    · exact .inl nothing
    · have called := prefix_place calls _ next sent.length entry (by simp)
      rw [numbered_parts_length]
      exact .inr ⟨entry, _, _, called,
        call_parts_bytes _ entry (fit entry (List.mem_of_getElem? called)), part⟩

theorem oversize_leaves_no_trace (far : FarEnd) (session : Session) (entries : List Entry) :
    session.after far (entries.filter Fits) = session.after far entries ∧
    session.transcript far (entries.filter Fits) =
      (session.transcript far entries).filter (fun turn => Fits turn.1) ∧
    ∃ frames broken,
      NumberedFrames (entries.filter Fits) frames broken
        (Session.start.after far entries).channel.written ∧
      ((Session.start.after far entries).link.isOpen →
        frames.length = (entries.filter Fits).length ∧ broken = []) := by
  refine ⟨after_fitting far session entries, transcript_fitting far session entries, ?_⟩
  obtain ⟨sent, broken, trail, whole⟩ := trail_after far entries [] .start in_step_start
  have fit : ∀ entry ∈ entries.filter Fits, Fits entry := by
    intro entry member
    simpa using (List.mem_filter.mp member).2
  refine ⟨numberedParts sent, broken, trail_numbered_frames _ sent broken _ fit trail, ?_⟩
  intro stillOpen
  obtain ⟨all, nothing⟩ := whole stillOpen
  rw [numbered_parts_length]
  exact ⟨congrArg List.length all, nothing⟩

theorem repeated_size (count : Nat) :
    Utf8.size (String.ofList (List.replicate count 'x')) = count := by
  rw [← Utf8.encode_length, Utf8.encode_chars, List.length_flatMap, String.toList_ofList,
    List.map_replicate, List.sum_replicate_nat, String.length_utf8EncodeChar]
  exact Nat.mul_one count

theorem long_message_oversize (category message : String)
    (long : frameLimit ≤ Utf8.size message) : ¬ Fits ⟨category, message⟩ := by
  intro fits
  unfold Fits callLength callOverhead at fits
  dsimp only at fits
  omega

def hugeEntry : Entry := ⟨"app", String.ofList (List.replicate frameLimit 'x')⟩

theorem huge_entry_oversize : ¬ Fits hugeEntry :=
  long_message_oversize "app" _ (Nat.le_of_eq (repeated_size frameLimit).symm)

def acceptsOnce : FarEnd := .sending (encodeReply [] 1 .ok ++ encodeReply [] 2 .tryLater)

-- The huge entry stands between two others. Two frames are written, and the second has number two.
theorem huge_entry_between_two :
    let entries := [⟨"app", "up"⟩, hugeEntry, ⟨"app", "down"⟩]
    ((Session.start.transcript acceptsOnce entries).filter fun turn => Fits turn.1) =
      [(⟨"app", "up"⟩, .ok .ok), (⟨"app", "down"⟩, .ok .tryLater)] ∧
    ∃ front first behind second,
      (Session.start.after acceptsOnce entries).channel.written =
        front ++ first ++ (behind ++ second) ∧
      CallBytes 1 ⟨"app", "up"⟩ front first ∧ CallBytes 2 ⟨"app", "down"⟩ behind second := by
  have large := huge_entry_oversize
  -- Of the huge entry no more is needed, and its text is not to be unfolded.
  generalize hugeEntry = huge at large ⊢
  intro entries
  have kept : entries.filter Fits = [⟨"app", "up"⟩, ⟨"app", "down"⟩] := by
    have up : Fits ⟨"app", "up"⟩ := by decide
    have down : Fits ⟨"app", "down"⟩ := by decide
    simp [entries, large, up, down]
  obtain ⟨same, answers, frames, broken, numbered, whole⟩ :=
    oversize_leaves_no_trace acceptsOnce .start entries
  rw [kept] at same answers numbered whole
  have answered : Session.start.transcript acceptsOnce [⟨"app", "up"⟩, ⟨"app", "down"⟩] =
      [(⟨"app", "up"⟩, .ok .ok), (⟨"app", "down"⟩, .ok .tryLater)] := by
    with_unfolding_all rfl
  have stillOpen : (Session.start.after acceptsOnce entries).link.isOpen := by
    rw [← same]
    with_unfolding_all rfl
  obtain ⟨two, rfl⟩ := whole stillOpen
  obtain ⟨front, first, behind, second, rfl⟩ : ∃ front first behind second,
      frames = [(front, first), (behind, second)] := by
    match frames, two with
    | [(front, first), (behind, second)], _ => exact ⟨front, first, behind, second, rfl⟩
  obtain ⟨_, up, one⟩ := numbered.whole 0 front first rfl
  obtain ⟨_, down, other⟩ := numbered.whole 1 behind second rfl
  cases up
  cases down
  have written := numbered.bytes
  simp only [List.flatMap_cons, List.flatMap_nil, List.append_nil] at written
  exact ⟨answers.symm.trans answered, front, first, behind, second, written, one, other⟩

end LogRelay.Delivery
