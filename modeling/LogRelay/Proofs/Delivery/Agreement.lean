import LogRelay.Proofs.Delivery.Station

set_option autoImplicit false

namespace LogRelay.Delivery

open Wire

-- The deliveries that find no connection: the first of all and the first after each close.
-- `fresh` says that none came since.
def openings : (fresh : Bool) → List Errand → Nat
  | _, [] => 0
  | true, .deliver _ :: rest => 1 + openings false rest
  | false, .deliver _ :: rest => openings false rest
  | _, .close :: rest => openings true rest
  | fresh, .inquire :: rest => openings fresh rest

namespace Station

def outcome (station : Station) (entry : Entry) : Outcome :=
  if 36 + Utf8.size entry.category + Utf8.size entry.message ≤ frameLimit then
    match station.verdict with
    | .ok => .delivered
    | .tryLater => .overloaded
  else .failed

def report (station : Station) (name : String) (entry : Entry) : Report :=
  if 36 + Utf8.size entry.category + Utf8.size entry.message ≤ frameLimit then
    match station.verdict with
    | .ok => .delivered
    | .tryLater => .dropped ⟨name, .overloaded, entry, none⟩
  else
    .dropped ⟨name, .failed, entry,
      some (.oversize (36 + Utf8.size entry.category + Utf8.size entry.message) frameLimit)⟩

def printout (station : Station) (entries : List Entry) : List String :=
  match station.verdict with
  | .ok =>
      (entries.filter fun entry =>
        36 + Utf8.size entry.category + Utf8.size entry.message ≤ frameLimit).map
          fun entry => "[" ++ entry.category ++ "] " ++ entry.message
  | .tryLater => []

theorem printout_nil (station : Station) : station.printout [] = [] := by
  unfold printout
  cases station.verdict <;> rfl

theorem printout_append (station : Station) (first second : List Entry) :
    station.printout (first ++ second) = station.printout first ++ station.printout second := by
  unfold printout
  cases station.verdict with
  | ok => simp
  | tryLater => rfl

-- The connection held, if there is one, waits for its next call at both ends.
inductive Rested (ledger : Ledger) : Option (Link Nat) → Prop where
  | idle : Rested ledger none
  | waiting (stream : Nat) (sequence : Int32) (served : ledger.desks[stream]? = some .fresh) :
      Rested ledger (some ⟨some stream, sequence⟩)

variable (station : Station) (endpoint : Endpoint)

theorem acquire_rested (courier : Courier (Link Nat)) (ledger : Ledger)
    (rested : Rested ledger courier.held) :
    ∃ stream sequence after,
      (courier.acquire (endpoint.transport station.network)).run ledger =
        (.ok ⟨some stream, sequence⟩, after) ∧
      after.desks[stream]? = some .fresh ∧ after.printed = ledger.printed ∧
      after.reports = ledger.reports ∧
      after.desks.length = ledger.desks.length + if courier.held.isNone then 1 else 0 := by
  obtain ⟨name, held⟩ := courier
  cases rested with
  | idle =>
      refine ⟨ledger.desks.length, 0, ledger.accept, ?_, ?_, rfl, rfl, ?_⟩
      · rw [Courier.run_acquire]
        exact station.connect endpoint ledger
      · simp [Ledger.accept]
      · simp [Ledger.accept]
  | waiting stream sequence served =>
      refine ⟨stream, sequence, ledger, ?_, served, rfl, rfl, rfl⟩
      rw [Courier.run_acquire]
      rfl

theorem deliver_rested (courier : Courier (Link Nat)) (entry : Entry) (ledger : Ledger)
    (rested : Rested ledger courier.held) :
    ∃ link after,
      (courier.deliver (endpoint.transport station.network) tell entry).run ledger =
        ((station.outcome entry, { courier with held := some link }), after) ∧
      Rested after (some link) ∧
      after.reports = ledger.reports ++ [station.report courier.name entry] ∧
      after.printed = ledger.printed ++ station.printout [entry] ∧
      after.desks.length = ledger.desks.length + if courier.held.isNone then 1 else 0 := by
  obtain ⟨stream, sequence, middle, acquired, served, printed, reports, count⟩ :=
    station.acquire_rested endpoint courier ledger rested
  refine ⟨⟨some stream, if callLength entry ≤ frameLimit then sequence + 1 else sequence⟩,
    { middle with
      printed := middle.printed ++ station.printout [entry]
      reports := middle.reports ++ [station.report courier.name entry] },
    ?_, .waiting stream _ served, by rw [reports], by rw [printed], count⟩
  rw [Courier.run_deliver, acquired]
  by_cases fits : callLength entry ≤ frameLimit
  · have small : 36 + Utf8.size entry.category + Utf8.size entry.message ≤ frameLimit := fits
    have submitted : ((endpoint.transport station.network).submit ⟨some stream, sequence⟩ entry).run
        middle = _ := station.submit_fitting stream sequence entry middle served fits
    dsimp only
    rw [submitted, if_pos fits]
    cases verdict : station.verdict with
    | ok =>
        simp [outcome, report, printout, small, verdict, run_tell, Ledger.tell, Collector.shown,
          Collector.entryLine]
    | tryLater =>
        simp [outcome, report, printout, small, verdict, run_tell, Ledger.tell, Collector.shown]
  · have large : ¬ 36 + Utf8.size entry.category + Utf8.size entry.message ≤ frameLimit := fits
    have submitted : ((endpoint.transport station.network).submit ⟨some stream, sequence⟩ entry).run
        middle = _ := Link.run_submit_oversize station.network stream sequence entry middle fits
    dsimp only
    rw [submitted, if_neg fits]
    have nothing : station.printout [entry] = [] := by
      cases verdict : station.verdict <;> simp [printout, large, verdict]
    simp [outcome, report, large, nothing, run_tell, Ledger.tell, Failure.endsConnection,
      callLength, callOverhead]

theorem release_rested (courier : Courier (Link Nat)) (ledger : Ledger)
    (rested : Rested ledger courier.held) :
    ∃ after, (courier.release (endpoint.transport station.network)).run ledger =
        ({ courier with held := none }, after) ∧
      after.reports = ledger.reports ∧ after.printed = ledger.printed ∧
      after.desks.length = ledger.desks.length := by
  obtain ⟨name, held⟩ := courier
  cases rested with
  | idle => exact ⟨ledger, Courier.run_release _ _ ledger, rfl, rfl, rfl⟩
  | waiting stream sequence served =>
      refine ⟨ledger.leave stream, Courier.run_release _ _ ledger, rfl, rfl, ?_⟩
      simp [Ledger.leave]

-- The connections that a run of errands opens are those of the first errand and those of the
-- others from where the first one leaves the courier.
theorem perform_rested (errand : Errand) (courier : Courier (Link Nat)) (ledger : Ledger)
    (rested : Rested ledger courier.held) :
    ∃ next after,
      (courier.perform (endpoint.transport station.network) tell errand).run ledger =
        ((errand.entry?.map station.outcome, next), after) ∧
      Rested after next.held ∧ next.name = courier.name ∧
      after.reports = ledger.reports ++ errand.entry?.toList.map (station.report courier.name) ∧
      after.printed = ledger.printed ++ station.printout errand.entry?.toList ∧
      ∀ rest, after.desks.length + openings next.held.isNone rest =
        ledger.desks.length + openings courier.held.isNone (errand :: rest) := by
  rw [Courier.run_perform]
  cases errand with
  | deliver entry =>
      obtain ⟨link, after, ran, restedNow, reports, printed, count⟩ :=
        station.deliver_rested endpoint courier entry ledger rested
      refine ⟨{ courier with held := some link }, after, by simp only [ran]; rfl, restedNow, rfl,
        reports, printed, ?_⟩
      intro rest
      rw [count]
      cases courier.held with
      | none => simp [openings, Nat.add_assoc]
      | some connection => simp [openings]
  | close =>
      obtain ⟨after, ran, reports, printed, count⟩ :=
        station.release_rested endpoint courier ledger rested
      refine ⟨{ courier with held := none }, after, by simp only [ran]; rfl, .idle, rfl, ?_, ?_, ?_⟩
      · simp [reports, Errand.entry?]
      · simp [printed, Errand.entry?, printout_nil]
      · intro rest
        simp [count, openings]
  | inquire =>
      have unmoved : ((courier.isConnected (endpoint.transport station.network)).run ledger).2 =
          ledger := by
        obtain ⟨name, held⟩ := courier
        cases held <;> rfl
      refine ⟨courier, ledger, by simp only [unmoved]; rfl, rested, rfl, ?_, ?_, ?_⟩
      · simp [Errand.entry?]
      · simp [Errand.entry?, printout_nil]
      · intro rest
        cases courier.held <;> rfl

theorem perform_all_rested (errands : List Errand) (courier : Courier (Link Nat))
    (ledger : Ledger) (rested : Rested ledger courier.held) :
    let entries := errands.filterMap Errand.entry?
    ∃ after final,
      (Courier.performAll (endpoint.transport station.network) tell courier errands).run ledger =
        ((entries.map station.outcome, after), final) ∧
      final.reports = ledger.reports ++ entries.map (station.report courier.name) ∧
      final.printed = ledger.printed ++ station.printout entries ∧
      final.desks.length = ledger.desks.length + openings courier.held.isNone errands := by
  induction errands generalizing courier ledger with
  | nil =>
      refine ⟨courier, ledger, rfl, ?_, ?_, ?_⟩
      · simp
      · simp [printout_nil]
      · cases courier.held <;> rfl
  | cons errand rest ih =>
      obtain ⟨next, middle, ran, restedNow, named, reports, printed, count⟩ :=
        station.perform_rested endpoint errand courier ledger rested
      obtain ⟨after, final, others, reportsThen, printedThen, countThen⟩ := ih next middle restedNow
      rw [Courier.run_perform_all_cons, ran]
      dsimp only
      rw [others, entries_cons]
      refine ⟨after, final, ?_, ?_, ?_, ?_⟩
      · cases errand.entry? <;> simp
      · rw [reportsThen, reports, named, List.append_assoc, List.map_append]
      · rw [printedThen, printed, List.append_assoc, printout_append]
      · rw [countThen, count]

end Station

theorem courier_and_collector_agree (station : Station) (endpoint : Endpoint) (name : String)
    (errands : List Errand) :
    let entries := errands.filterMap Errand.entry?
    ∃ courier ledger,
      (Courier.performAll (endpoint.transport station.network) Station.tell (.idle name)
          errands).run .empty = ((entries.map station.outcome, courier), ledger) ∧
      ledger.reports = entries.map (station.report name) ∧
      ledger.printed = station.printout entries ∧
      ledger.desks.length = openings true errands := by
  obtain ⟨courier, ledger, ran, reports, printed, count⟩ :=
    station.perform_all_rested endpoint errands (.idle name) .empty .idle
  refine ⟨courier, ledger, ran, reports, printed, ?_⟩
  rw [count]
  exact Nat.zero_add _

def Station.bytewise (verdict : Verdict) : Station where
  verdict := verdict
  addresses := ["127.0.0.2", "127.0.0.1"]
  listens address := address = "127.0.0.1"
  answers := ⟨"127.0.0.1", by simp, by simp⟩
  pieces bytes := bytes.map fun byte => [byte]
  whole bytes := by
    induction bytes with
    | nil => rfl
    | cons byte rest ih => exact congrArg (List.cons byte) ih

def collectorEndpoint : Endpoint := ⟨"collector", 1463, ⟨none, none⟩⟩

theorem three_lines_on_two_connections :
    ∃ courier ledger,
      (Courier.performAll (collectorEndpoint.transport (Station.bytewise .ok).network) Station.tell
          (.idle "scribe") [.close, .deliver ⟨"app", "up"⟩, .inquire, .deliver ⟨"app", ""⟩, .close,
            .deliver ⟨"app", "down"⟩]).run .empty =
        (([.delivered, .delivered, .delivered], courier), ledger) ∧
      ledger.printed = ["[app] up", "[app] ", "[app] down"] ∧ ledger.desks.length = 2 := by
  obtain ⟨courier, ledger, ran, _, printed, count⟩ := courier_and_collector_agree
    (.bytewise .ok) collectorEndpoint "scribe" [.close, .deliver ⟨"app", "up"⟩, .inquire,
      .deliver ⟨"app", ""⟩, .close, .deliver ⟨"app", "down"⟩]
  exact ⟨courier, ledger, ran, printed, count⟩

end LogRelay.Delivery
