import LogRelay.Delivery.Scripted
import LogRelay.Proofs.Delivery.Logbook

/-!
Every delivery is told about once: by its own outcome, and by nothing else that a courier does. A
tally of what is told therefore counts the deliveries.
-/
set_option autoImplicit false

namespace LogRelay.Delivery

open Wire

inductive Tells (name : String) (entry : Entry) : Outcome → Report → Prop where
  | delivered : Tells name entry .delivered .delivered
  | dropped (outcome : Outcome) (failure : Option Failure) (drops : outcome ≠ .delivered)
      (named : failure.isSome ↔ outcome = .noConnection ∨ outcome = .failed) :
      Tells name entry outcome (.dropped ⟨name, outcome, entry, failure⟩)

inductive Accounted (name : String) : List Entry → List Outcome → List Report → Prop where
  | nothing : Accounted name [] [] []
  | delivery (entry : Entry) (outcome : Outcome) (report : Report) (entries : List Entry)
      (outcomes : List Outcome) (reports : List Report) (tells : Tells name entry outcome report)
      (rest : Accounted name entries outcomes reports) :
      Accounted name (entry :: entries) (outcome :: outcomes) (report :: reports)

theorem tells_outcome (name : String) (entry : Entry) (outcome : Outcome) (report : Report)
    (tells : Tells name entry outcome report) : report.outcome = outcome := by
  cases tells <;> rfl

theorem accounted_outcomes (name : String) (entries : List Entry) (outcomes : List Outcome)
    (reports : List Report) (accounted : Accounted name entries outcomes reports) :
    reports.map Report.outcome = outcomes ∧ outcomes.length = entries.length := by
  induction accounted with
  | nothing => exact ⟨rfl, rfl⟩
  | delivery entry outcome report entries outcomes reports tells rest ih =>
      rw [List.map_cons, tells_outcome name entry outcome report tells, ih.1]
      exact ⟨rfl, congrArg Nat.succ ih.2⟩

def Journal.tellAll (journal : Journal) (reports : List Report) : Journal :=
  reports.foldl (fun journal report => journal.tell report) journal

theorem tell_all_reports (journal : Journal) (reports : List Report) :
    (journal.tellAll reports).reports = reports.reverse ++ journal.reports := by
  induction reports generalizing journal with
  | nil => rfl
  | cons report rest ih =>
      rw [Journal.tellAll, List.foldl_cons]
      exact (ih (journal.tell report)).trans (by simp [Journal.tell])

theorem tally_tell (tally : Tally) (report : Report) (outcome : Outcome) :
    (tally.tell report).get outcome =
      tally.get outcome + if report.outcome = outcome then 1 else 0 := by
  unfold Tally.tell
  cases report.outcome <;> cases outcome <;> simp [Tally.count, Tally.get]

theorem tell_all_tally (journal : Journal) (reports : List Report) (outcome : Outcome) :
    (journal.tellAll reports).tally.get outcome = journal.tally.get outcome +
      UInt64.ofNat ((reports.map Report.outcome).count outcome) := by
  induction reports generalizing journal with
  | nil => simp [Journal.tellAll]
  | cons report rest ih =>
      have once : (journal.tell report).tally.get outcome = _ :=
        tally_tell journal.tally report outcome
      rw [Journal.tellAll, List.foldl_cons]
      refine (ih (journal.tell report)).trans ?_
      rw [once, List.map_cons, List.count_cons, Nat.add_comm, UInt64.ofNat_add]
      by_cases same : report.outcome = outcome
      · simp [same, UInt64.add_assoc]
      · simp [same]

namespace Shift

variable {S κ : Type} (transport : Transport (StateM S) κ)

theorem course_tells (shift next : Shift S κ) (entry : Entry) (outcome : Outcome)
    (course : Course transport shift entry outcome next) :
    next.courier.name = shift.courier.name ∧ ∃ report,
      Tells shift.courier.name entry outcome report ∧
      next.book.journal = shift.book.journal.tell report := by
  cases course with
  | unconnected failure book acquired =>
      refine ⟨rfl, _, .dropped .noConnection (some failure) nofun (by simp), ?_⟩
      rw [← acquired_journal transport shift _ book acquired]
      rfl
  | delivered held connection book world acquired =>
      refine ⟨rfl, _, .delivered, ?_⟩
      rw [← acquired_journal transport shift _ book acquired]
      rfl
  | overloaded held connection book world acquired =>
      refine ⟨rfl, _, .dropped .overloaded none nofun (by simp), ?_⟩
      rw [← acquired_journal transport shift _ book acquired]
      rfl
  | spared failure held connection book world acquired
  | ended failure held connection book world acquired =>
      refine ⟨rfl, _, .dropped .failed (some failure) nofun (by simp), ?_⟩
      rw [← acquired_journal transport shift _ book acquired]
      rfl

theorem after_accounted (shift : Shift S κ) (errands : List Errand) :
    ∃ reports, Accounted shift.courier.name (errands.filterMap Errand.entry?)
        (shift.outcomes transport errands) reports ∧
      (shift.after transport errands).book.journal = shift.book.journal.tellAll reports ∧
      (shift.after transport errands).courier.name = shift.courier.name := by
  induction errands generalizing shift with
  | nil => exact ⟨[], .nothing, rfl, rfl⟩
  | cons errand rest ih =>
      cases errand with
      | deliver entry =>
          obtain ⟨name, report, tells, told⟩ :=
            course_tells transport shift _ entry _ (deliver_course transport shift entry)
          obtain ⟨reports, accounted, journal, nameThen⟩ := ih (shift.deliver transport entry).2
          rw [name] at accounted nameThen
          refine ⟨report :: reports, .delivery entry _ report _ _ reports tells accounted, ?_, nameThen⟩
          rw [after_deliver, journal, told]
          rfl
      | close =>
          obtain ⟨name, silent⟩ := retire_tells_nothing transport shift
          obtain ⟨reports, accounted, journal, nameThen⟩ := ih (shift.retire transport)
          rw [name] at accounted nameThen
          exact ⟨reports, accounted, by rw [after_close, journal, silent], nameThen⟩
      | inquire =>
          obtain ⟨same, silent⟩ := inquire_tells_nothing transport shift
          obtain ⟨reports, accounted, journal, nameThen⟩ := ih (shift.inquire transport)
          rw [same] at accounted nameThen
          exact ⟨reports, accounted, by rw [after_inquire, journal, silent], nameThen⟩

end Shift

theorem count_all (outcomes : List Outcome) :
    outcomes.count .delivered + outcomes.count .noConnection + outcomes.count .overloaded +
      outcomes.count .failed = outcomes.length := by
  induction outcomes with
  | nil => rfl
  | cons outcome rest ih =>
      simp only [List.count_cons, List.length_cons]
      cases outcome <;> simp <;> omega

theorem tally_dropped (tally : Tally) (small : (tally.get .noConnection).toNat +
      (tally.get .overloaded).toNat + (tally.get .failed).toNat < UInt64.size) :
    tally.dropped.toNat = (tally.get .noConnection).toNat + (tally.get .overloaded).toNat +
      (tally.get .failed).toNat := by
  have drops : Outcome.all.filter Outcome.isDrop = [.noConnection, .overloaded, .failed] := rfl
  rw [Tally.dropped, drops]
  simp only [UInt64.size] at small
  simp only [List.map_cons, List.map_nil, List.foldl_cons, List.foldl_nil, UInt64.toNat_add,
    UInt64.toNat_zero]
  omega

theorem every_delivery_told_once {S κ : Type} (transport : Transport (StateM S) κ) (name : String)
    (errands : List Errand) (world : S) :
    let entries := errands.filterMap Errand.entry?
    let first : Shift S κ := .start name world
    let shift := first.after transport errands
    let outcomes := first.outcomes transport errands
    let tally := shift.book.journal.tally
    (∀ entry, ∃ report, Tells name entry (shift.deliver transport entry).1 report ∧
      (shift.deliver transport entry).2.book.journal = shift.book.journal.tell report) ∧
    (shift.retire transport).book.journal = shift.book.journal ∧
    (shift.inquire transport).book.journal = shift.book.journal ∧
    Accounted name entries outcomes shift.book.journal.reports.reverse ∧
    (entries.length < UInt64.size →
      (∀ outcome, (tally.get outcome).toNat = outcomes.count outcome) ∧
      tally.snapshot = Outcome.all.map (fun outcome =>
        (outcome, UInt64.ofNat (outcomes.count outcome))) ∧
      (tally.snapshot.map fun line => line.2.toNat).foldl (· + ·) 0 = entries.length ∧
      tally.dropped.toNat + outcomes.count .delivered = entries.length) := by
  intro entries first shift outcomes tally
  obtain ⟨reports, accounted, journal, named⟩ := Shift.after_accounted transport first errands
  have name_kept : shift.courier.name = name := named
  obtain ⟨told, length⟩ := accounted_outcomes name entries outcomes reports accounted
  have written : shift.book.journal.reports.reverse = reports := by
    rw [journal, tell_all_reports]
    simp [first, Shift.start, Journal.empty]
  have counted (outcome : Outcome) :
      tally.get outcome = UInt64.ofNat (outcomes.count outcome) := by
    have zero : first.book.journal.tally.get outcome = 0 := by cases outcome <;> rfl
    have final := tell_all_tally first.book.journal reports outcome
    rw [← journal, told, zero, UInt64.zero_add] at final
    exact final
  refine ⟨?_, (Shift.retire_tells_nothing transport shift).2,
    (Shift.inquire_tells_nothing transport shift).2, written ▸ accounted, ?_⟩
  · intro entry
    obtain ⟨_, report, tells, told⟩ :=
      Shift.course_tells transport shift _ entry _ (Shift.deliver_course transport shift entry)
    exact ⟨report, name_kept ▸ tells, told⟩
  · intro few
    have whole := count_all outcomes
    have exact (outcome : Outcome) : (tally.get outcome).toNat = outcomes.count outcome := by
      have least : outcomes.count outcome ≤ outcomes.length := List.count_le_length
      rw [counted, UInt64.toNat_ofNat_of_lt' (by omega)]
    have dropped := tally_dropped tally (by simp only [exact]; omega)
    simp only [exact] at dropped
    refine ⟨exact, ?_, ?_, by omega⟩
    · exact List.map_congr_left fun outcome _ => by rw [counted]
    · simp only [Tally.snapshot, Outcome.all, List.map_cons, List.map_nil, exact, List.foldl_cons,
        List.foldl_nil]
      omega

def fourCues : List Cue :=
  [⟨.ok .ok, true⟩, ⟨.ok .tryLater, true⟩, ⟨.error (.oversize 9 8), true⟩,
    ⟨.error (.transport "gone"), false⟩]

def fourErrands : List Errand :=
  [.deliver ⟨"app", "1"⟩, .inquire, .deliver ⟨"app", "2"⟩, .deliver ⟨"app", "3"⟩, .close,
    .deliver ⟨"app", "4"⟩]

theorem four_cues_counted :
    (fourErrands.filterMap Errand.entry?).length < UInt64.size ∧
      ∃ tally, ((Shift.start "scribe" (.start fourCues none) : Shift Stage Bool).after
          (Stage.transport "here") fourErrands).book.journal.tally = tally ∧
        (tally.get .failed).toNat = 2 ∧ tally.dropped.toNat + 1 = 4 := by
  have few : (fourErrands.filterMap Errand.entry?).length < UInt64.size := by decide
  have ended : (Shift.start "scribe" (.start fourCues none) : Shift Stage Bool).outcomes
      (Stage.transport "here") fourErrands = [.delivered, .overloaded, .failed, .failed] := by
    rw [Shift.outcomes_start]
    rfl
  obtain ⟨_, _, _, _, counts⟩ :=
    every_delivery_told_once (Stage.transport "here") "scribe" fourErrands (.start fourCues none)
  obtain ⟨exact, _, _, dropped⟩ := counts few
  have failed := exact .failed
  rw [ended] at failed dropped
  have four : (fourErrands.filterMap Errand.entry?).length = 4 := by decide
  have once : [Outcome.delivered, .overloaded, .failed, .failed].count .delivered = 1 := by decide
  rw [four, once] at dropped
  exact ⟨few, _, rfl, failed, dropped⟩

end LogRelay.Delivery
