import LogRelay.Delivery.Scripted
import LogRelay.Proofs.Delivery.Logbook

/-!
A delivery connects at most once and sends its entry at most once, and a run of errands sends
nothing else. Only a failure, a close or the connection's own word makes a courier connect again.
-/
set_option autoImplicit false

namespace LogRelay.Delivery

open Wire

def answerOutcome : Except Failure Verdict → Outcome
  | .ok .ok => .delivered
  | .ok .tryLater => .overloaded
  | .error _ => .failed

namespace Shift

variable {S κ : Type} (transport : Transport (StateM S) κ)

structure Attempt (shift : Shift S κ) (entry : Entry) (outcome : Outcome) (next : Shift S κ)
    (deeds : List Deed) : Prop where
  added : next.book.deeds = shift.book.deeds ++ deeds
  connects : deeds.countP Deed.connects = if shift.usable transport then 0 else 1
  sends : deeds.filterMap Deed.entry? =
    if shift.usable transport || deeds.any Deed.opens then [entry] else []
  unsent : outcome = .noConnection ↔ deeds.filterMap Deed.entry? = []
  judged : ∀ number other answer, .send number other answer ∈ deeds →
    other = entry ∧ outcome = answerOutcome answer
  uses : ∀ number answer, .send number entry answer ∈ deeds → .connect (.ok number) ∈ deeds ∨
    shift.usable transport = true ∧ ∃ connection, shift.courier.held = some ⟨number, connection⟩
  loses : next.courier.held = none ↔ (∃ failure, .connect (.error failure) ∈ deeds) ∨
    ∃ number failure, .send number entry (.error failure) ∈ deeds ∧ failure.endsConnection = true
  keeps : ∀ number answer, .send number entry answer ∈ deeds →
    (∀ failure, answer = .error failure → failure.endsConnection = false) →
    ∃ connection, next.courier.held = some ⟨number, connection⟩

structure Search (shift : Shift S κ) (result : Except Failure (Numbered κ)) (deeds : List Deed) :
    Prop where
  connects : deeds.countP Deed.connects = if shift.usable transport then 0 else 1
  silent : ∀ deed ∈ deeds, deed.entry? = none
  found : (shift.usable transport || deeds.any Deed.opens) = result.isOk
  refused : (∃ failure, .connect (.error failure) ∈ deeds) ↔ result.isOk = false
  source : ∀ held, result = .ok held → .connect (.ok held.number) ∈ deeds ∨
    shift.usable transport = true ∧ shift.courier.held = some held

theorem cleared_unusable (shift : Shift S κ) (world : S) (front : List Deed)
    (cleared : Cleared transport shift world front) :
    shift.usable transport = false ∧
      ∀ deed ∈ front, deed.entry? = none ∧ deed.connects = false ∧ deed.opens = false := by
  cases cleared with
  | idle idle => exact ⟨usable_idle transport shift idle, nofun⟩
  | stale held asked holds shut =>
      refine ⟨by rw [usable_held transport shift held holds, shut], ?_⟩
      simp [Deed.entry?, Deed.connects, Deed.opens]

theorem search_fresh (shift : Shift S κ) (world : S) (front : List Deed)
    (result : Except Failure (Numbered κ)) (cleared : Cleared transport shift world front) :
    Search transport shift result (front ++ [.connect (result.map Numbered.number)]) := by
  obtain ⟨unusable, plain⟩ := cleared_unusable transport shift world front cleared
  have noConnect : front.countP Deed.connects = 0 :=
    List.countP_eq_zero.mpr fun deed member => by simp [(plain deed member).2.1]
  have noOpening : front.any Deed.opens = false :=
    List.any_eq_false.mpr fun deed member => by simp [(plain deed member).2.2]
  have noRefusal (failure : Failure) : .connect (.error failure) ∉ front := fun member =>
    Bool.noConfusion (plain _ member).2.1
  constructor
  case connects => simp [unusable, noConnect, Deed.connects]
  case silent =>
    intro deed member
    rcases List.mem_append.mp member with before | last
    · exact (plain deed before).1
    · rw [List.mem_singleton.mp last]
      rfl
  case found =>
    rw [unusable, List.any_append, noOpening]
    cases result <;> rfl
  case refused => cases result <;> simp [noRefusal, Except.map, Except.isOk, Except.toBool]
  case source =>
    rintro held rfl
    exact .inl (List.mem_append_right _ (List.mem_singleton.mpr rfl))

theorem acquired_search (shift : Shift S κ) (result : Except Failure (Numbered κ))
    (book : Logbook S) (acquired : Acquired transport shift result book) :
    ∃ deeds, book.deeds = shift.book.deeds ++ deeds ∧ Search transport shift result deeds := by
  cases acquired with
  | kept held asked holds stillOpen =>
      have usable : shift.usable transport = true := by
        rw [usable_held transport shift held holds, stillOpen]
      refine ⟨_, rfl, ?_⟩
      constructor
      case connects => simp [usable, Deed.connects]
      case silent => simp [Deed.entry?]
      case found => rw [usable]; rfl
      case refused => simp [Except.isOk, Except.toBool]
      case source =>
        rintro _ ⟨⟩
        exact .inr ⟨usable, holds⟩
  | fresh front connection middle world cleared =>
      exact ⟨_, rfl, search_fresh transport shift middle front (.ok ⟨_, connection⟩) cleared⟩
  | refused front failure middle world cleared =>
      exact ⟨_, rfl, search_fresh transport shift middle front (.error failure) cleared⟩

-- Once a connection is had, the entry is sent over it; nothing else is done but to close it.
theorem attempt_sent (shift next : Shift S κ) (entry : Entry) (held : Numbered κ)
    (answer : Except Failure Verdict) (search closing : List Deed)
    (searched : Search transport shift (.ok held) search)
    (closes : ∀ deed ∈ closing, deed = .close held.number)
    (added : next.book.deeds =
      shift.book.deeds ++ (search ++ .send held.number entry answer :: closing))
    (loses : next.courier.held = none ↔
      ∃ failure, answer = .error failure ∧ failure.endsConnection = true)
    (keeps : next.courier.held = none ∨
      ∃ connection, next.courier.held = some ⟨held.number, connection⟩) :
    Attempt transport shift entry (answerOutcome answer) next
      (search ++ .send held.number entry answer :: closing) := by
  have sent (number : Nat) (other : Entry) (given : Except Failure Verdict) :
      .send number other given ∈ search ++ .send held.number entry answer :: closing ↔
        number = held.number ∧ other = entry ∧ given = answer := by
    have before : .send number other given ∉ search := fun member =>
      nomatch searched.silent _ member
    have behind : .send number other given ∉ closing := fun member =>
      Deed.noConfusion (closes _ member)
    simp [before, behind]
  have noRefusal (failure : Failure) : .connect (.error failure) ∉ search := fun member =>
    Bool.noConfusion (searched.refused.mp ⟨failure, member⟩)
  have closingConnects : closing.countP Deed.connects = 0 :=
    List.countP_eq_zero.mpr fun deed member => by simp [closes deed member, Deed.connects]
  have entries : (search ++ .send held.number entry answer :: closing).filterMap Deed.entry? =
      [entry] := by
    have before : search.filterMap Deed.entry? = [] := List.filterMap_eq_nil_iff.mpr searched.silent
    have behind : closing.filterMap Deed.entry? = [] :=
      List.filterMap_eq_nil_iff.mpr fun deed member => by simp [closes deed member, Deed.entry?]
    rw [List.filterMap_append, before, List.filterMap_cons, behind]
    rfl
  have found : (shift.usable transport || search.any Deed.opens) = true := searched.found
  constructor
  case added => exact added
  case connects =>
    rw [List.countP_append, searched.connects, List.countP_cons, closingConnects]
    rfl
  case sends => rw [entries, List.any_append, ← Bool.or_assoc, found, Bool.true_or, if_pos rfl]
  case unsent =>
    rw [entries]
    rcases answer with failure | (_ | _) <;> simp [answerOutcome]
  case judged =>
    intro number other given member
    obtain ⟨-, same, rfl⟩ := (sent number other given).mp member
    exact ⟨same, rfl⟩
  case uses =>
    intro number given member
    obtain ⟨rfl, -⟩ := (sent number entry given).mp member
    rcases searched.source held rfl with opened | ⟨usable, holds⟩
    · exact .inl (List.mem_append_left _ opened)
    · exact .inr ⟨usable, held.connection, holds⟩
  case loses =>
    have refused (failure : Failure) :
        .connect (.error failure) ∉ search ++ .send held.number entry answer :: closing := by
      have behind : .connect (.error failure) ∉ closing := fun member =>
        Deed.noConfusion (closes _ member)
      simp [noRefusal, behind]
    rw [loses]
    constructor
    · rintro ⟨failure, failed, ends⟩
      exact .inr ⟨held.number, failure, (sent _ _ _).mpr ⟨rfl, rfl, failed.symm⟩, ends⟩
    · rintro (⟨failure, member⟩ | ⟨number, failure, member, ends⟩)
      · exact (refused failure member).elim
      · exact ⟨failure, ((sent _ _ _).mp member).2.2.symm, ends⟩
  case keeps =>
    intro number given member spares
    obtain ⟨rfl, -, rfl⟩ := (sent number entry given).mp member
    rcases keeps with lost | kept
    · obtain ⟨failure, failed, ends⟩ := loses.mp lost
      exact nomatch ends.symm.trans (spares failure failed)
    · exact kept

theorem course_attempt (shift next : Shift S κ) (entry : Entry) (outcome : Outcome)
    (course : Course transport shift entry outcome next) :
    ∃ deeds, Attempt transport shift entry outcome next deeds := by
  cases course with
  | unconnected failure book acquired =>
      obtain ⟨search, added, searched⟩ := acquired_search transport shift _ book acquired
      have entries : search.filterMap Deed.entry? = [] :=
        List.filterMap_eq_nil_iff.mpr searched.silent
      have unsent (number : Nat) (other : Entry) (answer : Except Failure Verdict) :
          .send number other answer ∉ search := fun member =>
        nomatch searched.silent _ member
      have notFound : (shift.usable transport || search.any Deed.opens) = false := searched.found
      refine ⟨search, added, searched.connects, ?_, by simp [entries], ?_, ?_, ?_, ?_⟩
      · rw [entries, notFound]
        rfl
      · exact fun number other answer member => (unsent number other answer member).elim
      · exact fun number answer member => (unsent number entry answer member).elim
      · exact ⟨fun _ => .inl (searched.refused.mpr rfl), fun _ => rfl⟩
      · exact fun number answer member => (unsent number entry answer member).elim
  | delivered held connection book world acquired =>
      obtain ⟨search, added, searched⟩ := acquired_search transport shift _ book acquired
      exact ⟨_, attempt_sent transport shift _ entry held (.ok .ok) search [] searched nofun
        (by simp [Logbook.told, Logbook.note, added]) (by simp) (.inr ⟨connection, rfl⟩)⟩
  | overloaded held connection book world acquired =>
      obtain ⟨search, added, searched⟩ := acquired_search transport shift _ book acquired
      exact ⟨_, attempt_sent transport shift _ entry held (.ok .tryLater) search [] searched nofun
        (by simp [Logbook.told, Logbook.note, added]) (by simp) (.inr ⟨connection, rfl⟩)⟩
  | spared failure held connection book world acquired answered spares =>
      obtain ⟨search, added, searched⟩ := acquired_search transport shift _ book acquired
      exact ⟨_, attempt_sent transport shift _ entry held (.error failure) search [] searched nofun
        (by simp [Logbook.told, Logbook.note, added]) (by simp [spares])
        (.inr ⟨connection, rfl⟩)⟩
  | ended failure held connection book world acquired answered ends =>
      obtain ⟨search, added, searched⟩ := acquired_search transport shift _ book acquired
      exact ⟨_, attempt_sent transport shift _ entry held (.error failure) search
        [.close held.number] searched (by simp)
        (by simp [Logbook.told, Logbook.note, added]) (by simp [ends]) (.inl rfl)⟩

theorem retire_sends_nothing (shift : Shift S κ) :
    ∃ deeds, (shift.retire transport).book.deeds = shift.book.deeds ++ deeds ∧
      deeds.filterMap Deed.entry? = [] := by
  cases holds : shift.courier.held with
  | none => exact ⟨[], by simp [retire_idle transport shift holds], rfl⟩
  | some held => exact ⟨_, by rw [retire_held transport shift held holds]; rfl, rfl⟩

theorem inquire_sends_nothing (shift : Shift S κ) :
    ∃ deeds, (shift.inquire transport).book.deeds = shift.book.deeds ++ deeds ∧
      deeds.filterMap Deed.entry? = [] := by
  cases holds : shift.courier.held with
  | none => exact ⟨[], by simp [inquire_idle transport shift holds], rfl⟩
  | some held => exact ⟨_, by rw [inquire_held transport shift held holds]; rfl, rfl⟩

def attempted (entries : List Entry) (outcomes : List Outcome) : List Entry :=
  ((entries.zip outcomes).filter fun line => line.2 ≠ .noConnection).map Prod.fst

theorem attempt_entries (shift next : Shift S κ) (entry : Entry) (outcome : Outcome)
    (deeds : List Deed) (attempt : Attempt transport shift entry outcome next deeds) :
    deeds.filterMap Deed.entry? = if outcome = .noConnection then [] else [entry] := by
  by_cases unsent : outcome = .noConnection
  · rw [if_pos unsent]
    exact attempt.unsent.mp unsent
  · rw [if_neg unsent]
    have sends := attempt.sends
    split at sends
    · exact sends
    · exact (unsent (attempt.unsent.mpr sends)).elim

theorem after_sends (shift : Shift S κ) (errands : List Errand) :
    ∃ deeds, (shift.after transport errands).book.deeds = shift.book.deeds ++ deeds ∧
      deeds.filterMap Deed.entry? = attempted (errands.filterMap Errand.entry?)
        (shift.outcomes transport errands) := by
  induction errands generalizing shift with
  | nil => exact ⟨[], (List.append_nil _).symm, rfl⟩
  | cons errand rest ih =>
      cases errand with
      | deliver entry =>
          obtain ⟨first, attempt⟩ :=
            course_attempt transport shift _ entry _ (deliver_course transport shift entry)
          obtain ⟨later, added, sent⟩ := ih (shift.deliver transport entry).2
          have once := attempt_entries transport shift _ entry _ first attempt
          refine ⟨first ++ later, ?_, ?_⟩
          · rw [after_deliver, added, attempt.added, List.append_assoc]
          · rw [List.filterMap_append, once, sent, outcomes_deliver]
            by_cases unsent : (shift.deliver transport entry).1 = .noConnection
            · simp [attempted, Errand.entry?, unsent]
            · simp [attempted, Errand.entry?, unsent]
      | close =>
          obtain ⟨first, closed, silent⟩ := retire_sends_nothing transport shift
          obtain ⟨later, added, sent⟩ := ih (shift.retire transport)
          refine ⟨first ++ later, by rw [after_close, added, closed, List.append_assoc], ?_⟩
          rw [List.filterMap_append, silent, sent]
          rfl
      | inquire =>
          obtain ⟨first, asked, silent⟩ := inquire_sends_nothing transport shift
          obtain ⟨later, added, sent⟩ := ih (shift.inquire transport)
          refine ⟨first ++ later, by rw [after_inquire, added, asked, List.append_assoc], ?_⟩
          rw [List.filterMap_append, silent, sent]
          rfl

def ConnectsAfresh (shift : Shift S κ) : Prop :=
  ∀ entry, ∃ result rest, (shift.deliver transport entry).2.book.deeds =
    shift.book.deeds ++ .connect result :: rest ∧ rest.countP Deed.connects = 0

def ConnectsOnlyIfShut (shift : Shift S κ) (number : Nat) : Prop :=
  ∀ entry deeds, (shift.deliver transport entry).2.book.deeds = shift.book.deeds ++ deeds →
    deeds.countP Deed.connects ≠ 0 → .ask number false ∈ deeds

theorem course_calls (shift next : Shift S κ) (entry : Entry) (outcome : Outcome)
    (course : Course transport shift entry outcome next) :
    ∃ result book calls, Acquired transport shift result book ∧
      next.book.deeds = book.deeds ++ calls ∧ calls.countP Deed.connects = 0 := by
  cases course with
  | unconnected failure book acquired => exact ⟨_, book, [], acquired, by simp [Logbook.told], rfl⟩
  | delivered held connection book world acquired
  | overloaded held connection book world acquired
  | spared failure held connection book world acquired
  | ended failure held connection book world acquired => exact ⟨_, book, _, acquired, rfl, rfl⟩

theorem idle_connects_afresh (shift : Shift S κ) (idle : shift.courier.held = none) :
    ConnectsAfresh transport shift := by
  intro entry
  obtain ⟨result, book, calls, acquired, added, noConnect⟩ :=
    course_calls transport shift _ entry _ (deliver_course transport shift entry)
  cases acquired with
  | kept held asked holds => cases idle.symm.trans holds
  | fresh front connection middle world cleared | refused front failure middle world cleared =>
      cases cleared with
      | idle =>
          rw [Logbook.note, List.nil_append, List.append_assoc] at added
          exact ⟨_, calls, added, noConnect⟩
      | stale held asked holds => cases idle.symm.trans holds

theorem held_connects_only_if_shut (shift : Shift S κ) (held : Numbered κ)
    (holds : shift.courier.held = some held) : ConnectsOnlyIfShut transport shift held.number := by
  intro entry deeds done connects
  obtain ⟨result, book, calls, acquired, added, noConnect⟩ :=
    course_calls transport shift _ entry _ (deliver_course transport shift entry)
  rw [done] at added
  cases acquired with
  | kept =>
      rw [Logbook.note, List.append_assoc] at added
      rw [List.append_cancel_left added] at connects
      exact (connects noConnect).elim
  | fresh front connection middle world cleared | refused front failure middle world cleared =>
      rw [Logbook.note, List.append_assoc] at added
      rw [List.append_cancel_left added]
      cases cleared with
      | idle idle => cases idle.symm.trans holds
      | stale other asked holdsOther =>
          cases holds.symm.trans holdsOther
          simp

-- Between two deliveries a connection can be closed, but none can be had.
theorem pause_held (shift : Shift S κ) (pause : List Errand)
    (quiet : ∀ errand ∈ pause, errand.entry? = none) :
    (shift.courier.held = none → (shift.after transport pause).courier.held = none) ∧
      (.close ∉ pause → (shift.after transport pause).courier.held = shift.courier.held) := by
  induction pause generalizing shift with
  | nil => exact ⟨id, fun _ => rfl⟩
  | cons errand rest ih =>
      have restQuiet : ∀ errand ∈ rest, errand.entry? = none := fun errand member =>
        quiet errand (List.mem_cons_of_mem _ member)
      cases errand with
      | deliver entry => exact nomatch quiet _ List.mem_cons_self
      | close =>
          have closed := (ih (shift.retire transport) restQuiet).1 (retire_held_none transport shift)
          exact ⟨fun _ => closed, fun noClose => (noClose List.mem_cons_self).elim⟩
      | inquire =>
          have later := ih (shift.inquire transport) restQuiet
          exact ⟨later.1, fun noClose => later.2 fun member => noClose (List.mem_cons_of_mem _ member)⟩

end Shift

-- The answers that leave a connection as good as it was: the peer is busy, or the entry is too
-- long to be sent.
inductive Harmless : Except Failure Verdict → Prop where
  | overload : Harmless (.ok .tryLater)
  | oversize (length limit : Nat) : Harmless (.error (.oversize length limit))

theorem one_attempt_each {S κ : Type} (transport : Transport (StateM S) κ) (shift : Shift S κ)
    (errands : List Errand) :
    (∀ entry, ∃ deeds, shift.Attempt transport entry (shift.deliver transport entry).1
        (shift.deliver transport entry).2 deeds ∧
      ∀ pause, (∀ errand ∈ pause, errand.entry? = none) →
        let later := (shift.deliver transport entry).2.after transport pause
        ((shift.deliver transport entry).2.courier.held = none → later.ConnectsAfresh transport) ∧
        ∀ number answer, .send number entry answer ∈ deeds → Harmless answer → .close ∉ pause →
          later.ConnectsOnlyIfShut transport number) ∧
    ∃ deeds, (shift.after transport errands).book.deeds = shift.book.deeds ++ deeds ∧
      deeds.filterMap Deed.entry? = Shift.attempted (errands.filterMap Errand.entry?)
        (shift.outcomes transport errands) := by
  refine ⟨fun entry => ?_, shift.after_sends transport errands⟩
  obtain ⟨deeds, attempt⟩ :=
    shift.course_attempt transport _ entry _ (shift.deliver_course transport entry)
  refine ⟨deeds, attempt, fun pause quiet => ?_⟩
  obtain ⟨staysIdle, staysHeld⟩ := (shift.deliver transport entry).2.pause_held transport pause quiet
  refine ⟨fun idle => Shift.idle_connects_afresh transport _ (staysIdle idle), ?_⟩
  intro number answer sent harmless noClose
  have spares : ∀ failure, answer = .error failure → failure.endsConnection = false := by
    rintro failure rfl
    cases harmless
    rfl
  obtain ⟨connection, kept⟩ := attempt.keeps number answer sent spares
  exact Shift.held_connects_only_if_shut transport _ ⟨number, connection⟩
    ((staysHeld noClose).trans kept)

def waning : Shift Stage Bool :=
  .start "scribe" (.start [⟨.ok .tryLater, true⟩, ⟨.error (.transport "gone"), false⟩] none)

theorem waning_peer_attempts :
    let transport := Stage.transport "here"
    let busy := (waning.deliver transport ⟨"app", "1"⟩).2
    let gone := (busy.deliver transport ⟨"app", "2"⟩).2
    (busy.after transport [.inquire]).ConnectsOnlyIfShut transport 0 ∧
      (gone.after transport [.close]).ConnectsAfresh transport := by
  intro transport busy gone
  obtain ⟨first, attempt, next⟩ := (one_attempt_each transport waning []).1 ⟨"app", "1"⟩
  obtain ⟨_, _, last⟩ := (one_attempt_each transport busy []).1 ⟨"app", "2"⟩
  have opened : first = [.connect (.ok 0), .send 0 ⟨"app", "1"⟩ (.ok .tryLater)] :=
    attempt.added.symm
  refine ⟨(next [.inquire] (by decide)).2 0 (.ok .tryLater) ?_ .overload (by decide),
    (last [.close] (by decide)).1 rfl⟩
  simp [opened]

end LogRelay.Delivery
