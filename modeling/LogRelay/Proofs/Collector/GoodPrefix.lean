import LogRelay.Proofs.Delivery.Station

/-!
What a client gets of a collector. Its stream is a row of frames; those up to the first that holds
no call are answered and shown, and nothing behind them is.
-/
set_option autoImplicit false

namespace LogRelay.Collector

open Wire

inductive Unserved : Bytes → Prop where
  | cut (rest : Bytes) (short : rest.length < 4) : Unserved rest
  | incomplete (word : UInt32) (behind : Bytes) (short : behind.length < word.toNat) :
      Unserved (Bytes.put32 word behind)
  | oversize (word : UInt32) (behind : Bytes) (long : frameLimit < word.toNat) :
      Unserved (Bytes.put32 word behind)
  | garbled (body behind : Bytes) (fits : body.length ≤ frameLimit)
      (foreign : ∀ call, ¬ IsCall body call) : Unserved (frame body ++ behind)

-- The calls in the frames of a stream, up to the first frame that holds none.
inductive GoodPrefix : Bytes → List Call → Prop where
  | ended (rest : Bytes) (unserved : Unserved rest) : GoodPrefix rest []
  | call (body rest : Bytes) (call : Call) (calls : List Call) (fits : body.length ≤ frameLimit)
      (spelled : IsCall body call) (later : GoodPrefix rest calls) :
      GoodPrefix (frame body ++ rest) (call :: calls)

-- One framed reply for each call, with the verdict under the number of that call.
inductive Answered (verdict : Verdict) : List Call → Bytes → Prop where
  | nothing : Answered verdict [] []
  | reply (call : Call) (calls : List Call) (body rest : Bytes) (fits : body.length ≤ frameLimit)
      (judged : IsReply call.sequence verdict body)
      (later : Answered verdict calls rest) : Answered verdict (call :: calls) (frame body ++ rest)

theorem answered_calls (verdict : Verdict) (calls : List Call) :
    Answered verdict calls (calls.flatMap fun call => encodeReply [] call.sequence verdict) := by
  induction calls with
  | nil => exact .nothing
  | cons call calls ih =>
      exact .reply call calls _ _ (reply_body_fits call.sequence verdict)
        ((decode_reply_iff _ _ _).mp (decode_reply_body call.sequence verdict)) ih

theorem foreign_iff (body : Bytes) :
    (∀ call, ¬ IsCall body call) ↔ ∃ fault, decodeCall body = .error fault := by
  simp only [← decode_call_iff]
  cases decodeCall body with
  | error fault => simp
  | ok call => simp

theorem framing_incomplete_unserved (stream : Bytes) (framed : framing stream = .incomplete) :
    Unserved stream := by
  have begins := framing_begins stream
  rw [framed] at begins
  cases begins with
  | cut _ short => exact .cut stream short
  | partly word behind short => exact .incomplete word behind short

theorem good_prefix_serve (stream : Bytes) : GoodPrefix stream (serve stream).calls := by
  induction stream using (measure List.length).wf.induction with
  | _ stream ih =>
    cases framed : framing stream with
    | incomplete =>
        rw [serve_incomplete stream framed]
        exact .ended stream (framing_incomplete_unserved stream framed)
    | unreadable =>
        obtain ⟨word, behind, long, rfl⟩ := (framing_unreadable_iff stream).mp framed
        rw [serve_unreadable _ framed]
        exact .ended _ (.oversize word behind long)
    | framed body rest =>
        obtain ⟨fits, rfl⟩ := (framing_iff stream body rest).mp framed
        cases called : decodeCall body with
        | error fault =>
            rw [serve_garbled _ body rest fault framed called]
            exact .ended _ (.garbled body rest fits ((foreign_iff body).mpr ⟨fault, called⟩))
        | ok call =>
            have total := framing_length framed
            have shorter : rest.length < (frame body ++ rest).length := by omega
            rw [serve_call _ body rest call framed called]
            exact .call body rest call _ fits ((decode_call_iff body call).mp called)
              (ih rest shorter)

theorem put32_frame (word : UInt32) (behind body rest : Bytes) (fits : body.length ≤ frameLimit)
    (same : Bytes.put32 word behind = frame body ++ rest) :
    word.toNat = body.length ∧ behind = body ++ rest := by
  rw [frame, Bytes.put32_append] at same
  have first := (take_word_iff _ behind word).mpr rfl
  have second := (take_word_iff _ (body ++ rest) (UInt32.ofNat body.length)).mpr rfl
  rw [same] at first
  cases first.symm.trans second
  exact ⟨length_word body fits, rfl⟩

theorem unserved_garbled (body rest : Bytes) (fits : body.length ≤ frameLimit)
    (unserved : Unserved (frame body ++ rest)) : ∃ fault, decodeCall body = .error fault := by
  have framed := (framing_iff (frame body ++ rest) body rest).mpr ⟨fits, rfl⟩
  generalize whole : frame body ++ rest = stream at unserved framed
  cases unserved with
  | cut _ short =>
      have total := framing_length framed
      omega
  | incomplete word behind short =>
      obtain ⟨length, rfl⟩ := put32_frame word behind body rest fits whole.symm
      rw [List.length_append] at short
      omega
  | oversize word behind long =>
      obtain ⟨length, _⟩ := put32_frame word behind body rest fits whole.symm
      omega
  | garbled other behind otherFits foreign =>
      have again := (framing_iff _ other behind).mpr ⟨otherFits, rfl⟩
      cases framed.symm.trans again
      exact (foreign_iff body).mp foreign

theorem unserved_calls (stream : Bytes) (unserved : Unserved stream) :
    (serve stream).calls = [] := by
  cases framed : framing stream with
  | incomplete => rw [serve_incomplete stream framed]
  | unreadable => rw [serve_unreadable stream framed]
  | framed body rest =>
      obtain ⟨fits, rfl⟩ := (framing_iff stream body rest).mp framed
      obtain ⟨fault, unread⟩ := unserved_garbled body rest fits unserved
      rw [serve_garbled _ body rest fault framed unread]

theorem good_prefix_unique (stream : Bytes) (calls : List Call) (good : GoodPrefix stream calls) :
    calls = (serve stream).calls := by
  induction good with
  | ended rest unserved => rw [unserved_calls rest unserved]
  | call body rest call calls fits spelled later ih =>
      have framed := (framing_iff (frame body ++ rest) body rest).mpr ⟨fits, rfl⟩
      rw [serve_call _ body rest call framed ((decode_call_iff body call).mpr spelled), ih]

end LogRelay.Collector

namespace LogRelay.Delivery

open Wire

-- What a collector has done when a stream has come to it in pieces: its end of the connection and
-- the lines that it has shown.
def Desk.attend (verdict : Verdict) : Desk → List Bytes → Desk × List String
  | desk, [] => (desk, [])
  | desk, piece :: pieces =>
      let (desk, shown) := desk.hear verdict piece
      let (desk, later) := desk.attend verdict pieces
      (desk, shown ++ later)

theorem attend_pieces (verdict : Verdict) (desk : Desk) (piece : Bytes) (pieces : List Bytes) :
    desk.attend verdict (piece :: pieces) = desk.hear verdict (piece :: pieces).flatten := by
  induction pieces generalizing desk piece with
  | nil => simp [Desk.attend]
  | cons next rest ih =>
      have joined := desk.hear_hear verdict piece (next :: rest).flatten
      rw [List.flatten_cons, ← joined, ← ih]
      rfl

theorem attend_fresh (verdict : Verdict) (pieces : List Bytes) :
    Desk.fresh.attend verdict pieces = Desk.fresh.hear verdict pieces.flatten := by
  cases pieces with
  | nil =>
      have nothing := Collector.serve_incomplete [] rfl
      simp [Desk.attend, Desk.hear, Desk.fresh, nothing, Collector.replies, Collector.lines]
  | cons piece rest => exact attend_pieces verdict .fresh piece rest

theorem good_prefix_served (verdict : Verdict) (pieces : List Bytes) :
    ∃ calls : List Call, (∀ others, Collector.GoodPrefix pieces.flatten others ↔ others = calls) ∧
      Collector.Answered verdict calls (Desk.fresh.attend verdict pieces).1.replies ∧
      (Desk.fresh.attend verdict pieces).2 = match verdict with
        | .ok => (calls.flatMap Call.entries).map fun entry =>
            "[" ++ entry.category ++ "] " ++ entry.message
        | .tryLater => [] := by
  refine ⟨(Collector.serve pieces.flatten).calls, ?_, ?_, ?_⟩
  · intro others
    constructor
    · exact Collector.good_prefix_unique _ others
    · rintro rfl
      exact Collector.good_prefix_serve _
  · rw [attend_fresh]
    exact Collector.answered_calls verdict _
  · rw [attend_fresh]
    cases verdict with
    | ok => exact List.map_flatMap.symm
    | tryLater => exact List.flatMap_eq_nil_iff.mpr fun _ _ => rfl

def pairBody : Bytes :=
  putPlain ⟨method, MessageType.call, 9⟩ <| putField .list 1 <| Kind.struct.code :: Bytes.put32 2 (
    putField .text 1 <| putText "app" <| putField .text 2 <| putText "up" <| putStop <|
      putField .text 1 <| putText "app" <| putField .text 2 <| putText "down" <| putStop <|
        putStop [])

-- The second frame ends within its second entry, and a whole call stands behind it.
def faultyPieces : List Bytes :=
  [(frame pairBody).take 20, (frame pairBody).drop 20 ++ frame (pairBody.take 50),
    frame (callBody 11 ⟨"app", "late"⟩)]

theorem pair_served_before_fault :
    Collector.GoodPrefix faultyPieces.flatten [⟨9, [⟨"app", "up"⟩, ⟨"app", "down"⟩]⟩] ∧
      (Desk.fresh.attend .ok faultyPieces).2 = ["[app] up", "[app] down"] ∧
      ∃ body, (Desk.fresh.attend .ok faultyPieces).1.replies = frame body ∧ IsReply 9 .ok body := by
  have spelled : IsCall pairBody ⟨9, [⟨"app", "up"⟩, ⟨"app", "down"⟩]⟩ :=
    (decode_call_iff _ _).mp (by with_unfolding_all rfl)
  have foreign : ∀ call, ¬ IsCall (pairBody.take 50) call :=
    (Collector.foreign_iff _).mpr ⟨.truncated 1 0, by with_unfolding_all rfl⟩
  have split : faultyPieces.flatten =
      frame pairBody ++ (frame (pairBody.take 50) ++ frame (callBody 11 ⟨"app", "late"⟩)) := by
    simp only [faultyPieces, List.flatten_cons, List.flatten_nil, List.append_nil,
      List.append_assoc]
    rw [← List.append_assoc, List.take_append_drop]
  have good : Collector.GoodPrefix faultyPieces.flatten
      [⟨9, [⟨"app", "up"⟩, ⟨"app", "down"⟩]⟩] := by
    rw [split]
    refine .call pairBody _ _ [] (by decide) spelled (.ended _ ?_)
    exact .garbled (pairBody.take 50) _ (by decide) foreign
  obtain ⟨calls, unique, answered, shown⟩ := good_prefix_served .ok faultyPieces
  cases (unique _).mp good
  refine ⟨good, shown, ?_⟩
  generalize (Desk.fresh.attend .ok faultyPieces).1.replies = replies at answered
  cases answered with
  | reply _ _ body rest _ judged later =>
      cases later
      exact ⟨body, List.append_nil _, judged⟩

end LogRelay.Delivery
