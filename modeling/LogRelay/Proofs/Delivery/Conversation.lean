import LogRelay.Proofs.Delivery.Channel
import LogRelay.Proofs.Delivery.Exchange

/-!
Calls on one link, one after the other, whatever the far end does: a verdict is read from the bytes
behind those of the earlier replies, and a link that fell out of step is never used again.
-/
set_option autoImplicit false

namespace LogRelay.Delivery

open Wire

structure Session where
  link : Link Unit
  channel : Channel

namespace Session

def start : Session := ⟨.opened (), .fresh⟩

def call (far : FarEnd) (session : Session) (entry : Entry) : Except Failure Verdict × Session :=
  let ((answer, link), channel) :=
    (session.link.submit (Channel.network far) entry).run session.channel
  (answer, ⟨link, channel⟩)

def after (far : FarEnd) (session : Session) (entries : List Entry) : Session :=
  entries.foldl (fun session entry => (session.call far entry).2) session

def nextFrame (session : Session) (entry : Entry) : Bytes :=
  frame (callBody (session.link.sequence + 1) entry)

end Session

def Fits (entry : Entry) : Prop := callLength entry ≤ frameLimit

instance (entry : Entry) : Decidable (Fits entry) := inferInstanceAs (Decidable (_ ≤ _))

-- A reply as it stands in the stream: a length that a frame may have, and as many bytes.
structure ReplyBytes (front body : Bytes) : Prop where
  front_length : front.length = 4
  announced : Link.announced front = .ok body.length

inductive Turn (session : Session) (entry : Entry) : Except Failure Verdict → Session → Prop where
  | unconnected (closed : session.link.stream = none) :
      Turn session entry (.error .notConnected) session
  | oversize (connected : session.link.stream = some ()) (large : ¬ Fits entry) :
      Turn session entry (.error (.oversize (callLength entry) frameLimit)) session
  | failed (failure : Failure) (sent taken : Bytes) (connected : session.link.stream = some ())
      (fits : Fits entry) (ends : failure.endsConnection = true)
      (part : sent <+: session.nextFrame entry) :
      Turn session entry (.error failure) ⟨⟨none, session.link.sequence + 1⟩,
        ⟨session.channel.written ++ sent, session.channel.read ++ taken, true⟩⟩
  | answered (verdict : Verdict) (front body : Bytes) (connected : session.link.stream = some ())
      (fits : Fits entry) (reply : ReplyBytes front body)
      (decoded : decodeReply body (session.link.sequence + 1) = .ok verdict) :
      Turn session entry (.ok verdict) ⟨⟨some (), session.link.sequence + 1⟩,
        ⟨session.channel.written ++ session.nextFrame entry,
          session.channel.read ++ (front ++ body), session.channel.shut⟩⟩

theorem receive_reply_turn (far : FarEnd) (sequence : Int32) (channel : Channel) :
    ∃ answer taken,
      (Link.receiveReply (Channel.network far) () sequence).run channel =
        (answer, { channel with read := channel.read ++ taken }) ∧
      ∀ verdict, answer = .ok verdict → ∃ front body, taken = front ++ body ∧
        ReplyBytes front body ∧ decodeReply body sequence = .ok verdict := by
  rw [Link.run_receive_reply, Channel.run_receive]
  obtain ⟨first, grown, whole⟩ := Channel.receive_grows far 4 channel
  cases opening : channel.receive far 4 with
  | mk answer middle =>
      rw [opening] at grown whole
      cases grown
      cases answer with
      | error cause => exact ⟨_, first, rfl, nofun⟩
      | ok front =>
          dsimp only
          cases announced : Link.announced front.val with
          | error fault => exact ⟨_, first, rfl, nofun⟩
          | ok length =>
              dsimp only
              rw [Channel.run_receive]
              obtain ⟨second, grown, rest⟩ := Channel.receive_grows far length
                { channel with read := channel.read ++ first }
              cases closing : Channel.receive far length
                  { channel with read := channel.read ++ first } with
              | mk answer final =>
                  rw [closing] at grown rest
                  cases grown
                  cases answer with
                  | error cause =>
                      exact ⟨.error (.transport cause), first ++ second, by simp, nofun⟩
                  | ok body =>
                      refine ⟨(decodeReply body.val sequence).mapError .ofReplyError,
                        first ++ second, by simp, ?_⟩
                      intro verdict answered
                      have frontWhole := whole front rfl
                      have bodyWhole := rest body rfl
                      exact ⟨front.val, body.val, by rw [frontWhole, bodyWhole],
                        ⟨front.property, by rw [announced, body.property]⟩,
                        map_error_ok _ _ verdict answered⟩

theorem call_turn (far : FarEnd) (session : Session) (entry : Entry) :
    Turn session entry (session.call far entry).1 (session.call far entry).2 := by
  obtain ⟨⟨stream, sequence⟩, channel⟩ := session
  cases stream with
  | none =>
      simp only [Session.call, Link.run_submit_closed _ ⟨none, sequence⟩ entry channel rfl]
      exact .unconnected rfl
  | some stream =>
      cases stream
      by_cases fits : Fits entry
      · simp only [Session.call, Link.run_submit_fitting _ () sequence entry channel fits,
          Channel.run_send]
        obtain ⟨sent, part, grown, whole⟩ :=
          Channel.send_grows far (frame (callBody (sequence + 1) entry)) channel
        cases sending : channel.send far (frame (callBody (sequence + 1) entry)) with
        | mk answer middle =>
            rw [sending] at grown whole
            cases grown
            cases answer with
            | error cause =>
                have turn : Turn ⟨⟨some (), sequence⟩, channel⟩ entry _ _ :=
                  .failed (.transport cause) sent [] rfl fits rfl part
                rw [List.append_nil] at turn
                exact turn
            | ok _ =>
                cases whole rfl
                obtain ⟨reply, taken, ran, own⟩ := receive_reply_turn far (sequence + 1)
                  { channel with written :=
                      channel.written ++ frame (callBody (sequence + 1) entry) }
                simp only [ran]
                cases reply with
                | error failure =>
                    have ends := Link.receive_reply_ends _ _ _ _ _ failure ran
                    exact .failed failure _ taken rfl fits ends (List.prefix_refl _)
                | ok verdict =>
                    obtain ⟨front, body, rfl, bytes, decoded⟩ := own verdict rfl
                    exact .answered verdict front body rfl fits bytes decoded
      · simp only [Session.call, Link.run_submit_oversize _ () sequence entry channel fits]
        exact .oversize rfl fits

theorem turn_verdict (session next : Session) (entry : Entry) (verdict : Verdict)
    (turn : Turn session entry (.ok verdict) next) :
    ∃ front body, next.channel.written = session.channel.written ++ session.nextFrame entry ∧
      next.channel.read = session.channel.read ++ (front ++ body) ∧
      ReplyBytes front body ∧ IsReply (session.link.sequence + 1) verdict body := by
  cases turn with
  | answered _ front body _ _ reply decoded =>
      exact ⟨front, body, rfl, rfl, reply, (decode_reply_iff body _ verdict).mp decoded⟩

theorem turn_reads_on (session next : Session) (entry : Entry) (answer : Except Failure Verdict)
    (turn : Turn session entry answer next) : session.channel.read <+: next.channel.read := by
  cases turn with
  | unconnected | oversize => exact List.prefix_refl _
  | failed | answered => exact List.prefix_append _ _

theorem turn_failure_closes (session next : Session) (entry : Entry) (failure : Failure)
    (turn : Turn session entry (.error failure) next)
    (other : ∀ length limit, failure ≠ .oversize length limit) : next.link.stream = none := by
  cases turn with
  | unconnected closed => exact closed
  | oversize => exact absurd rfl (other _ _)
  | failed => rfl

theorem call_closed (far : FarEnd) (session : Session) (entry : Entry)
    (closed : session.link.stream = none) :
    session.call far entry = (.error .notConnected, session) := by
  obtain ⟨⟨stream, sequence⟩, channel⟩ := session
  cases closed
  simp only [Session.call, Link.run_submit_closed _ ⟨none, sequence⟩ entry channel rfl]

theorem after_closed (far : FarEnd) (session : Session) (entries : List Entry)
    (closed : session.link.stream = none) : session.after far entries = session := by
  induction entries with
  | nil => rfl
  | cons entry rest ih =>
      rw [Session.after, List.foldl_cons, call_closed far session entry closed]
      exact ih

def callFrames (entries : List Entry) : Bytes :=
  (entries.mapIdx fun index entry => frame (callBody (Int32.ofNat (index + 1)) entry)).flatten

theorem call_frames_append (entries : List Entry) (entry : Entry) :
    callFrames (entries ++ [entry]) =
      callFrames entries ++ frame (callBody (Int32.ofNat (entries.length + 1)) entry) := by
  simp [callFrames, List.mapIdx_append]

-- What holds of an open session after the calls `sent`: every call was written whole and took one
-- reply off the stream.
structure InStep (sent : List Entry) (session : Session) : Prop where
  connected : session.link.stream = some ()
  numbered : session.link.sequence = Int32.ofNat sent.length
  calls : session.channel.written = callFrames sent
  replies : ∃ replies : List (Bytes × Bytes), replies.length = sent.length ∧
    (∀ reply ∈ replies, ReplyBytes reply.1 reply.2) ∧
    session.channel.read = replies.flatMap fun reply => reply.1 ++ reply.2

theorem in_step_start : InStep [] .start :=
  ⟨rfl, rfl, rfl, [], rfl, nofun, rfl⟩

theorem in_step_call (sent : List Entry) (session next : Session) (entry : Entry)
    (answer : Except Failure Verdict) (step : InStep sent session)
    (turn : Turn session entry answer next) (connected : next.link.stream = some ()) :
    InStep (sent ++ [entry].filter Fits) next := by
  cases turn with
  | unconnected closed =>
      rw [closed] at connected
      cases connected
  | oversize _ large => simpa [large] using step
  | failed => cases connected
  | answered verdict front body _ fits reply _ =>
      obtain ⟨replies, count, forms, read⟩ := step.replies
      have number : session.link.sequence + 1 = Int32.ofNat (sent.length + 1) := by
        rw [step.numbered, Int32.ofNat_add]
        rfl
      have sentNow : sent ++ [entry].filter Fits = sent ++ [entry] := by simp [fits]
      rw [sentNow]
      refine ⟨rfl, ?_, ?_, replies ++ [(front, body)], ?_, ?_, ?_⟩
      · rw [List.length_append]
        exact number
      · rw [call_frames_append, ← number, ← step.calls]
        rfl
      · simp [count]
      · intro other member
        rcases List.mem_append.mp member with earlier | last
        · exact forms other earlier
        · rw [List.mem_singleton.mp last]
          exact reply
      · simp [read]

theorem in_step_after (far : FarEnd) (entries sent : List Entry) (session : Session)
    (step : session.link.stream = some () → InStep sent session)
    (connected : (session.after far entries).link.stream = some ()) :
    InStep (sent ++ entries.filter Fits) (session.after far entries) := by
  induction entries generalizing sent session with
  | nil =>
      rw [List.filter_nil, List.append_nil]
      exact step connected
  | cons entry rest ih =>
      have turn := call_turn far session entry
      have next : (session.call far entry).2.link.stream = some () →
          InStep (sent ++ [entry].filter Fits) (session.call far entry).2 := by
        intro stillOpen
        refine in_step_call sent session _ entry _ (step ?_) turn stillOpen
        cases opened : session.link.stream with
        | some stream => rfl
        | none =>
            rw [call_closed far session entry opened, opened] at stillOpen
            cases stillOpen
      have final := ih (sent ++ [entry].filter Fits) (session.call far entry).2 next connected
      rw [List.append_assoc, ← List.filter_append] at final
      exact final

theorem verdict_from_own_reply (far : FarEnd) (before : List Entry) (entry : Entry) :
    let session := Session.start.after far before
    let answer := (session.call far entry).1
    let next := (session.call far entry).2
    (∀ verdict, answer = .ok verdict → ∃ front body,
      next.channel.written = session.channel.written ++ session.nextFrame entry ∧
      next.channel.read = session.channel.read ++ (front ++ body) ∧
      ReplyBytes front body ∧ IsReply (session.link.sequence + 1) verdict body) ∧
    session.channel.read <+: next.channel.read ∧
    (session.link.isOpen → ∃ replies : List (Bytes × Bytes),
      session.channel.written = callFrames (before.filter Fits) ∧
      session.link.sequence = Int32.ofNat (before.filter Fits).length ∧
      session.channel.read = (replies.flatMap fun reply => reply.1 ++ reply.2) ∧
      (∀ reply ∈ replies, ReplyBytes reply.1 reply.2) ∧
      replies.length = (before.filter Fits).length) ∧
    (∀ failure, answer = .error failure → (∀ length limit, failure ≠ .oversize length limit) →
      next.link.isOpen = false ∧ ∀ later other, next.after far later = next ∧
        next.call far other = (.error .notConnected, next)) := by
  intro session answer next
  have turn : Turn session entry answer next := call_turn far session entry
  refine ⟨?_, turn_reads_on session next entry answer turn, ?_, ?_⟩
  · intro verdict answered
    exact turn_verdict session next entry verdict (answered ▸ turn)
  · intro stillOpen
    have connected : session.link.stream = some () := by
      cases opened : session.link.stream with
      | some stream => rfl
      | none => simp [Link.isOpen, opened] at stillOpen
    have step := in_step_after far before [] .start (fun _ => in_step_start) connected
    obtain ⟨replies, count, forms, read⟩ := step.replies
    exact ⟨replies, step.calls, step.numbered, read, forms, count⟩
  · intro failure failed other
    have closed := turn_failure_closes session next entry failure (failed ▸ turn) other
    refine ⟨by simp [Link.isOpen, closed], fun later call => ?_⟩
    exact ⟨after_closed far next later closed, call_closed far next call closed⟩

def FarEnd.sending (bytes : Bytes) : FarEnd where
  breaks _ _ _ := none
  next _ read :=
    match bytes[read.length]? with
    | some byte => .ok byte
    | none => .error "end of stream"

def busyOnce : FarEnd := .sending (encodeReply [] 1 .tryLater)

theorem busy_once_then_gone :
    let second := (Session.start.after busyOnce [⟨"app", "up"⟩]).call busyOnce ⟨"app", "down"⟩
    (∃ body, IsReply 1 .tryLater body) ∧
      second.1 = .error (.transport "end of stream") ∧ second.2.link.isOpen = false := by
  have busy : ((Session.start.after busyOnce []).call busyOnce ⟨"app", "up"⟩).1 =
      .ok .tryLater := by with_unfolding_all rfl
  have gone : ((Session.start.after busyOnce [⟨"app", "up"⟩]).call busyOnce ⟨"app", "down"⟩).1 =
      .error (.transport "end of stream") := by with_unfolding_all rfl
  obtain ⟨own, _⟩ := verdict_from_own_reply busyOnce [] ⟨"app", "up"⟩
  obtain ⟨_, _, _, closes⟩ := verdict_from_own_reply busyOnce [⟨"app", "up"⟩] ⟨"app", "down"⟩
  obtain ⟨front, body, _, _, _, reply⟩ := own .tryLater busy
  obtain ⟨closed, _⟩ := closes (.transport "end of stream") gone nofun
  exact ⟨⟨body, reply⟩, gone, closed⟩

end LogRelay.Delivery
