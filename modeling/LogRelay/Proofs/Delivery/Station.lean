import LogRelay.Proofs.Collector
import LogRelay.Proofs.Delivery.Exchange

set_option autoImplicit false

namespace LogRelay.Delivery

open Wire

-- The collector's end of one connection: the bytes that wait for more, while the connection is
-- served, and the replies that were not read yet.
structure Desk where
  waiting : Option Bytes
  replies : Bytes

-- Every connection so far, the lines printed and the reports made, the first of each in front.
structure Ledger where
  desks : List Desk
  printed : List String
  reports : List Report

-- A place whose collectors give one verdict. At least one address of it is listened at, and what
-- is sent to it may arrive in any pieces.
structure Station where
  verdict : Verdict
  addresses : List String
  listens : String → Bool
  answers : ∃ address ∈ addresses, listens address = true
  pieces : Bytes → List Bytes
  whole : ∀ bytes, (pieces bytes).flatten = bytes

namespace Desk

def fresh : Desk := ⟨some [], []⟩

def hear (verdict : Verdict) (desk : Desk) (piece : Bytes) : Desk × List String :=
  match desk.waiting with
  | none => (desk, [])
  | some waiting =>
      let service := Collector.serve (waiting ++ piece)
      (⟨service.waiting, desk.replies ++ Collector.replies verdict service⟩,
        Collector.lines verdict service)

end Desk

namespace Ledger

def empty : Ledger := ⟨[], [], []⟩

def accept (ledger : Ledger) : Ledger := { ledger with desks := ledger.desks ++ [.fresh] }

def hear (verdict : Verdict) (stream : Nat) (ledger : Ledger) (piece : Bytes) : Ledger :=
  match ledger.desks[stream]? with
  | none => ledger
  | some desk =>
      { ledger with
        desks := ledger.desks.set stream (desk.hear verdict piece).1
        printed := ledger.printed ++ (desk.hear verdict piece).2 }

def read (stream count : Nat) (ledger : Ledger) :
    Except String { bytes : Bytes // bytes.length = count } × Ledger :=
  match ledger.desks[stream]? with
  | none => (.error "end of stream", ledger)
  | some desk =>
      if exact : (desk.replies.take count).length = count then
        (.ok ⟨desk.replies.take count, exact⟩,
          { ledger with
            desks := ledger.desks.set stream { desk with replies := desk.replies.drop count } })
      else (.error "end of stream", ledger)

def leave (stream : Nat) (ledger : Ledger) : Ledger :=
  { ledger with desks := ledger.desks.modify stream fun desk => { desk with waiting := none } }

def tell (report : Report) (ledger : Ledger) : Ledger :=
  { ledger with reports := ledger.reports ++ [report] }

end Ledger

namespace Station

-- Streams are known by the number of their connection.
def network (station : Station) : Network (StateM Ledger) Nat where
  resolve _ _ := pure station.addresses
  dial _ address _ ledger :=
    if station.listens address then (.ok ledger.desks.length, ledger.accept)
    else (.error "connection refused", ledger)
  send stream bytes ledger :=
    (.ok (), (station.pieces bytes).foldl (Ledger.hear station.verdict stream) ledger)
  receive stream count ledger := ledger.read stream count
  shutdown stream ledger := ((), ledger.leave stream)

def tell (report : Report) : StateM Ledger Unit := fun ledger => ((), ledger.tell report)

end Station

theorem Desk.hear_hear (verdict : Verdict) (desk : Desk) (first second : Bytes) :
    let once := desk.hear verdict first
    let twice := once.1.hear verdict second
    (twice.1, once.2 ++ twice.2) = desk.hear verdict (first ++ second) := by
  intro once twice
  obtain ⟨waiting, replies⟩ := desk
  cases waiting with
  | none => rfl
  | some waiting =>
      have together := Collector.serve_append (waiting ++ first) second
      rw [List.append_assoc] at together
      cases left : (Collector.serve (waiting ++ first)).waiting with
      | none =>
          rw [left] at together
          simp [once, twice, Desk.hear, left, together]
      | some behind =>
          rw [left] at together
          simp [once, twice, Desk.hear, left, together, Collector.replies, Collector.lines]

theorem Desk.hear_call (verdict : Verdict) (sequence : Int32) (entry : Entry)
    (fits : callLength entry ≤ frameLimit) :
    Desk.fresh.hear verdict (frame (callBody sequence entry)) =
      (⟨some [], frame (replyBody sequence verdict)⟩,
        Collector.shown verdict ⟨sequence, [entry]⟩) := by
  have service := Collector.serve_one_call sequence entry fits
  simp only [Desk.hear, Desk.fresh, List.nil_append, service]
  simp [Collector.replies, Collector.lines, encodeReply]

namespace Ledger

theorem hear_desk (verdict : Verdict) (stream : Nat) (ledger : Ledger) (desk : Desk)
    (piece : Bytes) (served : ledger.desks[stream]? = some desk) :
    ledger.hear verdict stream piece =
      { ledger with
        desks := ledger.desks.set stream (desk.hear verdict piece).1
        printed := ledger.printed ++ (desk.hear verdict piece).2 } := by
  rw [hear, served]

theorem set_desk (ledger : Ledger) (stream : Nat) (before after : Desk)
    (served : ledger.desks[stream]? = some before) :
    (ledger.desks.set stream after)[stream]? = some after := by
  have inside : stream < ledger.desks.length := (List.getElem?_eq_some_iff.mp served).1
  rw [List.getElem?_set_self inside]

theorem keep_desk (ledger : Ledger) (stream : Nat) (desk : Desk)
    (served : ledger.desks[stream]? = some desk) : ledger.desks.set stream desk = ledger.desks := by
  obtain ⟨inside, same⟩ := List.getElem?_eq_some_iff.mp served
  rw [← same, List.set_getElem_self]

theorem hear_hear (verdict : Verdict) (stream : Nat) (ledger : Ledger) (first second : Bytes) :
    (ledger.hear verdict stream first).hear verdict stream second =
      ledger.hear verdict stream (first ++ second) := by
  cases served : ledger.desks[stream]? with
  | none => simp [hear, served]
  | some desk =>
      have once := desk.hear_hear verdict first second
      have again := ledger.set_desk stream desk (desk.hear verdict first).1 served
      rw [hear_desk verdict stream ledger desk first served,
        hear_desk verdict stream _ (desk.hear verdict first).1 second again,
        hear_desk verdict stream ledger desk (first ++ second) served, ← once]
      simp

theorem hear_pieces (verdict : Verdict) (stream : Nat) (ledger : Ledger) (piece : Bytes)
    (pieces : List Bytes) :
    (piece :: pieces).foldl (hear verdict stream) ledger =
      ledger.hear verdict stream (piece :: pieces).flatten := by
  induction pieces generalizing piece with
  | nil => simp
  | cons next rest ih =>
      have joined := ih (piece ++ next)
      rw [List.foldl_cons] at joined
      rw [List.foldl_cons, List.foldl_cons, hear_hear, joined]
      simp

theorem read_desk (ledger : Ledger) (stream count : Nat) (waiting : Option Bytes)
    (first rest : Bytes) (served : ledger.desks[stream]? = some ⟨waiting, first ++ rest⟩)
    (exact : first.length = count) :
    ledger.read stream count =
      (.ok ⟨first, exact⟩, { ledger with desks := ledger.desks.set stream ⟨waiting, rest⟩ }) := by
  subst exact
  simp [read, served]

end Ledger

namespace Station

theorem run_tell (report : Report) (ledger : Ledger) :
    (tell report).run ledger = ((), ledger.tell report) := rfl

variable (station : Station)

theorem run_send (stream : Nat) (bytes : Bytes) (ledger : Ledger) (nonempty : bytes ≠ []) :
    (station.network.send stream bytes).run ledger =
      (.ok (), ledger.hear station.verdict stream bytes) := by
  have whole := station.whole bytes
  cases pieces : station.pieces bytes with
  | nil =>
      rw [pieces] at whole
      exact absurd whole.symm nonempty
  | cons piece rest =>
      have heard := ledger.hear_pieces station.verdict stream piece rest
      rw [← pieces, whole] at heard
      exact congrArg (Prod.mk _) heard

theorem dial_first (endpoint : Endpoint) (ledger : Ledger) (cause : String)
    (addresses : List String) (answers : ∃ address ∈ addresses, station.listens address = true) :
    (endpoint.dialFirst station.network cause addresses).run ledger =
      (.ok ledger.desks.length, ledger.accept) := by
  induction addresses generalizing cause with
  | nil =>
      obtain ⟨address, member, _⟩ := answers
      cases member
  | cons address others ih =>
      rw [Endpoint.dialFirst, run_bind]
      by_cases listens : station.listens address = true
      · have dialled : (station.network.dial endpoint.patience address endpoint.port).run ledger =
            (.ok ledger.desks.length, ledger.accept) := if_pos listens
        rw [dialled]
        rfl
      · have dialled : (station.network.dial endpoint.patience address endpoint.port).run ledger =
            (.error "connection refused", ledger) := if_neg listens
        rw [dialled]
        refine ih "connection refused" ?_
        obtain ⟨other, member, opens⟩ := answers
        rcases List.mem_cons.mp member with same | later
        · subst same
          exact absurd opens listens
        · exact ⟨other, later, opens⟩

theorem connect (endpoint : Endpoint) (ledger : Ledger) :
    (endpoint.connect station.network).run ledger =
      (.ok (Link.opened ledger.desks.length), ledger.accept) := by
  rw [Endpoint.connect, run_bind]
  have resolved : (station.network.resolve endpoint.host endpoint.port).run ledger =
      (station.addresses, ledger) := rfl
  have dialled := station.dial_first endpoint ledger "no addresses" station.addresses
    station.answers
  rw [resolved]
  cases addresses : station.addresses with
  | nil =>
      obtain ⟨address, member, _⟩ := station.answers
      rw [addresses] at member
      cases member
  | cons address others =>
      rw [addresses] at dialled
      dsimp only
      rw [run_bind, dialled]
      rfl

theorem receive_reply (stream : Nat) (sequence : Int32) (waiting : Option Bytes)
    (ledger : Ledger) (served : ledger.desks[stream]? =
      some ⟨waiting, frame (replyBody sequence station.verdict)⟩) :
    (Link.receiveReply station.network stream sequence).run ledger =
      (.ok station.verdict, { ledger with desks := ledger.desks.set stream ⟨waiting, []⟩ }) := by
  have announced := announced_frame (replyBody sequence station.verdict)
    (reply_body_fits sequence station.verdict)
  rw [frame_split] at served
  have front : (station.network.receive stream 4).run ledger = _ :=
    ledger.read_desk stream 4 waiting _ (replyBody sequence station.verdict) served rfl
  rw [Link.run_receive_reply, front]
  dsimp only
  rw [announced]
  dsimp only
  have behind := ledger.set_desk stream _ ⟨waiting, replyBody sequence station.verdict⟩ served
  rw [← List.append_nil (replyBody sequence station.verdict)] at behind
  have body : (station.network.receive stream (replyBody sequence station.verdict).length).run
      { ledger with
        desks := ledger.desks.set stream ⟨waiting, replyBody sequence station.verdict⟩ } = _ :=
    Ledger.read_desk _ stream _ waiting (replyBody sequence station.verdict) [] behind rfl
  rw [body]
  dsimp only
  rw [decode_reply_body, List.set_set]
  rfl

theorem submit_fitting (stream : Nat) (sequence : Int32) (entry : Entry) (ledger : Ledger)
    (served : ledger.desks[stream]? = some .fresh) (fits : callLength entry ≤ frameLimit) :
    ((⟨some stream, sequence⟩ : Link Nat).submit station.network entry).run ledger =
      ((.ok station.verdict, ⟨some stream, sequence + 1⟩),
        { ledger with
          printed := ledger.printed ++
            Collector.shown station.verdict ⟨sequence + 1, [entry]⟩ }) := by
  have sent := station.run_send stream (frame (callBody (sequence + 1) entry)) ledger nofun
  have heard := Ledger.hear_desk station.verdict stream ledger .fresh
    (frame (callBody (sequence + 1) entry)) served
  rw [Desk.hear_call station.verdict (sequence + 1) entry fits] at heard
  have replied := ledger.set_desk stream .fresh
    ⟨some [], frame (replyBody (sequence + 1) station.verdict)⟩ served
  have read := station.receive_reply stream (sequence + 1) (some [])
    (ledger.hear station.verdict stream (frame (callBody (sequence + 1) entry))) (heard ▸ replied)
  -- The reply is taken off again, so the desk is left as it was found.
  have kept : ledger.desks.set stream ⟨some [], []⟩ = ledger.desks :=
    ledger.keep_desk stream .fresh served
  rw [Link.run_submit_fitting _ stream sequence entry ledger fits, sent]
  dsimp only
  rw [read, heard]
  simp only [List.set_set, kept]

end Station

end LogRelay.Delivery
