import LogRelay.Delivery.Loopback
import LogRelay.Proofs.Delivery.Exchange
import LogRelay.Proofs.Delivery.Logbook

/-!
A courier over links never holds a shut one, and every failure it tells of is of the class its
outcome stands for, whatever the network does.
-/
set_option autoImplicit false

namespace LogRelay.Delivery

open Wire

structure Tapped (S : Type) where
  world : S
  offered : List Bytes

def Tapped.quietly {S α : Type} (operation : StateM S α) : StateM (Tapped S) α := fun tapped =>
  let (result, world) := operation.run tapped.world
  (result, { tapped with world })

def Network.tapped {S σ : Type} (network : Network (StateM S) σ) :
    Network (StateM (Tapped S)) σ where
  resolve host port := Tapped.quietly (network.resolve host port)
  dial patience address port := Tapped.quietly (network.dial patience address port)
  send stream bytes tapped :=
    let (sent, world) := (network.send stream bytes).run tapped.world
    (sent, ⟨world, tapped.offered ++ [bytes]⟩)
  receive stream count := Tapped.quietly (network.receive stream count)
  shutdown stream := Tapped.quietly (network.shutdown stream)

inductive Unreachable (endpoint : Endpoint) : Failure → Prop where
  | unresolved : Unreachable endpoint (.unresolved endpoint.text)
  | refused (cause : String) : Unreachable endpoint (.refused endpoint.text cause)

namespace Endpoint

variable {S σ : Type} (network : Network (StateM S) σ) (endpoint : Endpoint)

theorem dial_offers_nothing (cause : String) (addresses : List String) (tapped : Tapped S) :
    ((endpoint.dialFirst network.tapped cause addresses).run tapped).2.offered =
      tapped.offered := by
  induction addresses generalizing cause tapped with
  | nil => rfl
  | cons address others ih =>
      rw [dialFirst, run_bind]
      cases dialed : (network.tapped.dial endpoint.patience address endpoint.port).run tapped with
      | mk result next =>
          have silent : next.offered = tapped.offered :=
            (congrArg (fun ran => ran.2.offered) dialed).symm
          cases result with
          | ok stream => exact silent
          | error cause => exact (ih cause next).trans silent

theorem connect_class (tapped next : Tapped S) (result : Except Failure (Link σ))
    (connected : (endpoint.connect network.tapped).run tapped = (result, next)) :
    next.offered = tapped.offered ∧ (∀ link, result = .ok link → link.isOpen = true) ∧
      ∀ failure, result = .error failure → Unreachable endpoint failure := by
  rw [connect, run_bind] at connected
  cases resolved : (network.tapped.resolve endpoint.host endpoint.port).run tapped with
  | mk addresses middle =>
      have silent : middle.offered = tapped.offered :=
        (congrArg (fun ran => ran.2.offered) resolved).symm
      rw [resolved] at connected
      cases addresses with
      | nil =>
          cases connected
          refine ⟨silent, nofun, ?_⟩
          rintro failure ⟨⟩
          exact .unresolved
      | cons address others =>
          dsimp only at connected
          rw [run_bind] at connected
          have dials := dial_offers_nothing network endpoint "no addresses" (address :: others) middle
          cases dialed : (endpoint.dialFirst network.tapped "no addresses"
              (address :: others)).run middle with
          | mk answer final =>
              rw [dialed] at connected dials
              cases answer with
              | ok stream =>
                  cases connected
                  refine ⟨dials.trans silent, ?_, nofun⟩
                  rintro link ⟨⟩
                  rfl
              | error cause =>
                  cases connected
                  refine ⟨dials.trans silent, nofun, ?_⟩
                  rintro failure ⟨⟩
                  exact .refused cause

end Endpoint

namespace Link

variable {S σ : Type} (network : Network (StateM S) σ)

inductive Exchanged : Except Failure Verdict → Link σ → Prop where
  | answered (verdict : Verdict) (link : Link σ) (stillOpen : link.isOpen = true) :
      Exchanged (.ok verdict) link
  | oversize (length limit : Nat) (link : Link σ) (stillOpen : link.isOpen = true) :
      Exchanged (.error (.oversize length limit)) link
  | breach (failure : Failure) (link : Link σ) (breach : Breach failure) :
      Exchanged (.error failure) link

theorem submit_exchanged (link : Link σ) (entry : Entry) (state : S) (live : link.isOpen = true) :
    Exchanged ((link.submit network entry).run state).1.1
      ((link.submit network entry).run state).1.2 := by
  obtain ⟨stream, sequence⟩ := link
  cases stream with
  | none => cases live
  | some stream =>
      by_cases fits : callLength entry ≤ frameLimit
      · rw [run_submit_fitting network stream sequence entry state fits]
        cases (network.send stream (frame (callBody (sequence + 1) entry))).run state with
        | mk sent middle =>
            cases sent with
            | error cause => exact .breach _ _ (.transport cause)
            | ok _ =>
                dsimp only
                cases replied : (receiveReply network stream (sequence + 1)).run middle with
                | mk answer final =>
                    cases answer with
                    | ok verdict => exact .answered verdict _ rfl
                    | error failure =>
                        exact .breach failure _
                          (receive_reply_breach network stream _ middle final failure replied)
      · rw [run_submit_oversize network stream sequence entry state fits]
        exact .oversize _ _ _ rfl

end Link

-- A report of a drop blames it on what its outcome stands for.
structure Blamed (endpoint : Endpoint) (drop : Drop) : Prop where
  connected : drop.failure ≠ some .notConnected
  unreachable : drop.outcome = .noConnection →
    ∃ failure, drop.failure = some failure ∧ Unreachable endpoint failure
  late : drop.outcome = .failed →
    ∃ failure, drop.failure = some failure ∧ failure.precedesConnection = false

def Link.HoldsLive {S σ : Type} (shift : Shift S (Link σ)) : Prop :=
  ∀ held, shift.courier.held = some held → held.connection.isOpen = true

structure Honest {S σ : Type} (endpoint : Endpoint) (shift : Shift (Tapped S) (Link σ))
    (outcome : Outcome) (next : Shift (Tapped S) (Link σ)) (report : Report) : Prop where
  returned : report.outcome = outcome
  told : next.book.journal = shift.book.journal.tell report
  live : Link.HoldsLive next
  blamed : ∀ drop, report = .dropped drop → Blamed endpoint drop
  unwritten : outcome = .noConnection → next.book.world.offered = shift.book.world.offered
  spared : outcome = .failed → ∃ drop failure, report = .dropped drop ∧
    drop.failure = some failure ∧
    (next.courier.held.isSome ↔ ∃ length limit, failure = .oversize length limit)

namespace Link

variable {S σ : Type} (network : Network (StateM S) σ) (endpoint : Endpoint)

-- A link that is held is open, so it is never found shut.
theorem live_cleared (shift : Shift (Tapped S) (Link σ)) (world : Tapped S) (front : List Deed)
    (live : HoldsLive shift)
    (cleared : shift.Cleared (endpoint.transport network.tapped) world front) :
    world = shift.book.world := by
  cases cleared with
  | idle => rfl
  | stale held asked holds shut =>
      have closed : held.connection.isOpen = false := congrArg Prod.fst shut
      cases (live held holds).symm.trans closed

theorem live_acquired (shift : Shift (Tapped S) (Link σ)) (book : Logbook (Tapped S))
    (result : Except Failure (Numbered (Link σ))) (live : HoldsLive shift)
    (acquired : shift.Acquired (endpoint.transport network.tapped) result book) :
    (∀ held, result = .ok held → held.connection.isOpen = true) ∧
      ∀ failure, result = .error failure → Unreachable endpoint failure ∧
        book.world.offered = shift.book.world.offered := by
  cases acquired with
  | kept held asked holds =>
      refine ⟨?_, nofun⟩
      rintro _ ⟨⟩
      exact live held holds
  | fresh front connection middle world cleared connected =>
      refine ⟨?_, nofun⟩
      rintro _ ⟨⟩
      exact (endpoint.connect_class network middle world _ connected).2.1 connection rfl
  | refused front failure middle world cleared refused =>
      refine ⟨nofun, ?_⟩
      rintro _ ⟨⟩
      obtain ⟨silent, -, unreachable⟩ := endpoint.connect_class network middle world _ refused
      cases live_cleared network endpoint shift middle front live cleared
      exact ⟨unreachable failure rfl, silent⟩

theorem holds_live (courier : Courier (Numbered (Link σ))) (book : Logbook (Tapped S))
    (number : Nat) (link : Link σ) (live : link.isOpen = true) :
    HoldsLive ⟨{ courier with held := some ⟨number, link⟩ }, book⟩ := by
  rintro _ ⟨⟩
  exact live

theorem live_course (shift next : Shift (Tapped S) (Link σ)) (entry : Entry) (outcome : Outcome)
    (live : HoldsLive shift)
    (course : shift.Course (endpoint.transport network.tapped) entry outcome next) :
    ∃ report, Honest endpoint shift outcome next report := by
  have exchanged (held : Numbered (Link σ)) (book : Logbook (Tapped S)) (world : Tapped S)
      (connection : Link σ) (answer : Except Failure Verdict)
      (acquired : shift.Acquired (endpoint.transport network.tapped) (.ok held) book)
      (answered : (held.connection.submit network.tapped entry).run book.world =
        ((answer, connection), world)) : Exchanged answer connection := by
    have opened := (live_acquired network endpoint shift book _ live acquired).1 held rfl
    have submitted := submit_exchanged network.tapped held.connection entry book.world opened
    rw [answered] at submitted
    exact submitted
  cases course with
  | unconnected failure book acquired =>
      obtain ⟨unreachable, silent⟩ :=
        (live_acquired network endpoint shift book _ live acquired).2 failure rfl
      refine ⟨.dropped ⟨shift.courier.name, .noConnection, entry, some failure⟩, ?_⟩
      constructor
      case returned => rfl
      case told => rw [← Shift.acquired_journal _ shift _ book acquired]; rfl
      case live => exact nofun
      case blamed =>
        rintro _ ⟨⟩
        refine ⟨?_, fun _ => ⟨failure, rfl, unreachable⟩, nofun⟩
        rintro ⟨⟩
        cases unreachable
      case unwritten => exact fun _ => silent
      case spared => exact nofun
  | delivered held connection book world acquired answered =>
      refine ⟨.delivered, ?_⟩
      constructor
      case returned => rfl
      case told => rw [← Shift.acquired_journal _ shift _ book acquired]; rfl
      case live =>
        cases exchanged held book world connection _ acquired answered with
        | answered verdict link stillOpen => exact holds_live _ _ _ connection stillOpen
      case blamed => exact nofun
      case unwritten => exact nofun
      case spared => exact nofun
  | overloaded held connection book world acquired answered =>
      refine ⟨.dropped ⟨shift.courier.name, .overloaded, entry, none⟩, ?_⟩
      constructor
      case returned => rfl
      case told => rw [← Shift.acquired_journal _ shift _ book acquired]; rfl
      case live =>
        cases exchanged held book world connection _ acquired answered with
        | answered verdict link stillOpen => exact holds_live _ _ _ connection stillOpen
      case blamed =>
        rintro _ ⟨⟩
        exact ⟨nofun, nofun, nofun⟩
      case unwritten => exact nofun
      case spared => exact nofun
  | spared failure held connection book world acquired answered spares =>
      refine ⟨.dropped ⟨shift.courier.name, .failed, entry, some failure⟩, ?_⟩
      cases exchanged held book world connection _ acquired answered with
      | breach _ _ breach => exact nomatch spares.symm.trans (breach_class failure breach).1
      | oversize length limit _ stillOpen =>
          constructor
          case returned => rfl
          case told => rw [← Shift.acquired_journal _ shift _ book acquired]; rfl
          case live => exact holds_live _ _ _ connection stillOpen
          case blamed =>
            rintro _ ⟨⟩
            exact ⟨nofun, nofun, fun _ => ⟨_, rfl, rfl⟩⟩
          case unwritten => exact nofun
          case spared =>
            exact fun _ => ⟨_, _, rfl, rfl, fun _ => ⟨length, limit, rfl⟩, fun _ => rfl⟩
  | ended failure held connection book world acquired answered ends =>
      refine ⟨.dropped ⟨shift.courier.name, .failed, entry, some failure⟩, ?_⟩
      cases exchanged held book world connection _ acquired answered with
      | oversize => cases ends
      | breach _ _ breach =>
          have late := (breach_class failure breach).2
          constructor
          case returned => rfl
          case told => rw [← Shift.acquired_journal _ shift _ book acquired]; rfl
          case live => exact nofun
          case blamed =>
            rintro _ ⟨⟩
            refine ⟨?_, nofun, fun _ => ⟨failure, rfl, late⟩⟩
            rintro ⟨⟩
            cases late
          case unwritten => exact nofun
          case spared =>
            refine fun _ => ⟨_, failure, rfl, rfl, nofun, ?_⟩
            rintro ⟨length, limit, rfl⟩
            cases ends

structure Clean (endpoint : Endpoint) (shift : Shift (Tapped S) (Link σ)) : Prop where
  live : HoldsLive shift
  blamed : ∀ drop, .dropped drop ∈ shift.book.journal.reports → Blamed endpoint drop

theorem clean_deliver (shift : Shift (Tapped S) (Link σ)) (entry : Entry)
    (clean : Clean endpoint shift) :
    Clean endpoint (shift.deliver (endpoint.transport network.tapped) entry).2 := by
  obtain ⟨report, honest⟩ := live_course network endpoint shift _ entry _ clean.live
    (shift.deliver_course (endpoint.transport network.tapped) entry)
  refine ⟨honest.live, fun drop member => ?_⟩
  rw [honest.told] at member
  rcases List.mem_cons.mp member with new | old
  · exact honest.blamed drop new.symm
  · exact clean.blamed drop old

theorem clean_retire (shift : Shift (Tapped S) (Link σ)) (clean : Clean endpoint shift) :
    Clean endpoint (shift.retire (endpoint.transport network.tapped)) := by
  have silent := (shift.retire_tells_nothing (endpoint.transport network.tapped)).2
  refine ⟨fun held holds => ?_, silent.symm ▸ clean.blamed⟩
  exact nomatch (shift.retire_held_none _).symm.trans holds

theorem clean_inquire (shift : Shift (Tapped S) (Link σ)) (clean : Clean endpoint shift) :
    Clean endpoint (shift.inquire (endpoint.transport network.tapped)) := by
  have silent := (shift.inquire_tells_nothing (endpoint.transport network.tapped)).2
  exact ⟨clean.live, silent.symm ▸ clean.blamed⟩

theorem clean_after (shift : Shift (Tapped S) (Link σ)) (errands : List Errand)
    (clean : Clean endpoint shift) :
    Clean endpoint (shift.after (endpoint.transport network.tapped) errands) := by
  induction errands generalizing shift with
  | nil => exact clean
  | cons errand rest ih =>
      cases errand with
      | deliver entry => exact ih _ (clean_deliver network endpoint shift entry clean)
      | close => exact ih _ (clean_retire network endpoint shift clean)
      | inquire => exact ih _ (clean_inquire network endpoint shift clean)

theorem failures_keep_their_class (name : String) (errands : List Errand) (world : S) :
    let transport := endpoint.transport network.tapped
    let first : Shift (Tapped S) (Link σ) := .start name ⟨world, []⟩
    let shift := first.after transport errands
    HoldsLive shift ∧
      (∀ drop, .dropped drop ∈ shift.book.journal.reports → Blamed endpoint drop) ∧
      ∀ entry, ∃ report, Honest endpoint shift (shift.deliver transport entry).1
        (shift.deliver transport entry).2 report := by
  intro transport first shift
  have clean : Clean endpoint shift := clean_after network endpoint first errands ⟨nofun, nofun⟩
  refine ⟨clean.live, clean.blamed, fun entry => ?_⟩
  exact live_course network endpoint shift _ entry _ clean.live (shift.deliver_course transport entry)

def nearby : Endpoint := ⟨"localhost", 1463, ⟨none, none⟩⟩

def tongueTied : Loopback := .start 1463 true [[.send [0] true]]

theorem cut_reply_blamed_on_transport :
    let transport := nearby.transport Loopback.network.tapped
    let first : Shift (Tapped Loopback) (Link Nat) := .start "scribe" ⟨tongueTied, []⟩
    let next := (first.deliver transport ⟨"app", "1"⟩).2
    (first.deliver transport ⟨"app", "1"⟩).1 = .failed ∧ HoldsLive next ∧
      ∀ drop, .dropped drop ∈ next.book.journal.reports → Blamed nearby drop := by
  intro transport first next
  have failed : (first.deliver transport ⟨"app", "1"⟩).1 = .failed := by decide +kernel
  obtain ⟨live, blamed, -⟩ :=
    failures_keep_their_class Loopback.network nearby "scribe" [.deliver ⟨"app", "1"⟩] tongueTied
  exact ⟨failed, live, blamed⟩

end Link

end LogRelay.Delivery
