import LogRelay.Proofs.Delivery.Accounting
import LogRelay.Proofs.Delivery.Shipment

/-!
Events of other libraries. A shipper knows its own library by how targets begin, so all others are
delivered and told of once, but for those of a library whose name goes on where this one's ends.
-/
set_option autoImplicit false

namespace LogRelay.Delivery

open Wire

def InLibrary (target : String) : Prop :=
  target = ownTarget ∨ (ownTarget ++ "::").toList <+: target.toList

instance (target : String) : Decidable (InLibrary target) :=
  inferInstanceAs (Decidable (_ ∨ _))

-- A target outside that begins like the library goes on with something else than a part's name.
theorem own_target_outside (target : String) (foreign : ¬ InLibrary target) :
    OwnTarget target ↔ ∃ tail, target.toList = ownTarget.toList ++ tail ∧ tail ≠ [] ∧
      ¬ [':', ':'] <+: tail := by
  constructor
  · rintro ⟨tail, same⟩
    refine ⟨tail, same.symm, ?_, ?_⟩
    · rintro rfl
      rw [List.append_nil] at same
      exact foreign (.inl (String.toList_inj.mp same.symm))
    · rintro ⟨name, rfl⟩
      refine foreign (.inr ⟨name, ?_⟩)
      rw [← same, String.toList_append, List.append_assoc]
      rfl
  · rintro ⟨tail, same, _⟩
    exact ⟨tail, same.symm⟩

namespace Shift

variable {S κ : Type} (transport : Transport (StateM S) κ)

def observe (shipper : Shipper) (shift : Shift S κ) (event : Event) : Shift S κ :=
  let (courier, book) :=
    (shipper.observe transport.logged Logbook.tell shift.courier event).run shift.book
  ⟨courier, book⟩

theorem observe_admitted (shipper : Shipper) (shift : Shift S κ) (event : Event)
    (admitted : shipper.admits event = true) :
    shift.observe transport shipper event =
      (shift.deliver transport (shipper.entryOf event)).2 := by
  rw [observe, Shipper.run_observe, if_pos admitted]
  rfl

theorem observe_passed_over (shipper : Shipper) (shift : Shift S κ) (event : Event)
    (refused : shipper.admits event = false) : shift.observe transport shipper event = shift := by
  rw [observe, Shipper.run_observe, if_neg (by simp [refused])]

end Shift

theorem foreign_events_lost_by_name {S κ : Type} (transport : Transport (StateM S) κ)
    (shipper : Shipper) (shift : Shift S κ) (event : Event)
    (severe : event.level.verbosity ≤ shipper.maxLevel.verbosity)
    (foreign : ¬ InLibrary event.target) :
    let entry : Entry := ⟨shipper.category, shipper.layout.eventLine event⟩
    let next := shift.observe transport shipper event
    ((∃ tail, event.target.toList = ownTarget.toList ++ tail ∧ tail ≠ [] ∧
      ¬ [':', ':'] <+: tail) ∧ next = shift) ∨
    ((¬ ∃ tail, event.target.toList = ownTarget.toList ++ tail) ∧
      next = (shift.deliver transport entry).2 ∧
      ∃ report, Tells shift.courier.name entry (shift.deliver transport entry).1 report ∧
        next.book.journal = shift.book.journal.tell report) := by
  intro entry next
  by_cases begins : OwnTarget event.target
  · refine .inl ⟨(own_target_outside event.target foreign).mp begins, ?_⟩
    refine Shift.observe_passed_over transport shipper shift event ?_
    rw [← Bool.not_eq_true, shipper.admits_iff]
    exact fun admitted => admitted.2 begins
  · have delivered : next = (shift.deliver transport entry).2 :=
      Shift.observe_admitted transport shipper shift event
        ((shipper.admits_iff event).mpr ⟨severe, begins⟩)
    obtain ⟨_, report, tells, told⟩ :=
      Shift.course_tells transport shift _ entry _ (Shift.deliver_course transport shift entry)
    refine .inr ⟨?_, delivered, report, tells, ?_⟩
    · rintro ⟨tail, same⟩
      exact begins ⟨tail, same.symm⟩
    · rw [delivered]
      exact told

def firstShift : Shift Stage Bool := .start "scribe" (.start [] none)

theorem work_event_told :
    (Level.info.verbosity ≤ webShipper.maxLevel.verbosity ∧ ¬ InLibrary "app::quill_scribe") ∧
      ∃ report, (firstShift.observe (Stage.transport "here") webShipper
        ⟨.info, "app::quill_scribe", []⟩).book.journal = Journal.empty.tell report := by
  have severe : Level.info.verbosity ≤ webShipper.maxLevel.verbosity := by decide
  have foreign : ¬ InLibrary "app::quill_scribe" := by decide
  rcases foreign_events_lost_by_name (Stage.transport "here") webShipper firstShift
    ⟨.info, "app::quill_scribe", []⟩ severe foreign with ⟨⟨tail, same, _⟩, _⟩ | ⟨_, _, report, _, told⟩
  · exact absurd (show OwnTarget "app::quill_scribe" from ⟨tail, same.symm⟩) (by decide)
  · exact ⟨⟨severe, foreign⟩, report, told⟩

theorem neighbour_event_untold :
    ¬ ∀ (shipper : Shipper) (shift : Shift Stage Bool) (event : Event),
      event.level.verbosity ≤ shipper.maxLevel.verbosity → ¬ InLibrary event.target →
      ∃ report, (shift.observe (Stage.transport "here") shipper event).book.journal =
        shift.book.journal.tell report := by
  intro rule
  let event : Event := ⟨.warn, "quill_scribe_tools", []⟩
  obtain ⟨report, told⟩ := rule webShipper firstShift event (by decide) (by decide)
  rw [Shift.observe_passed_over _ webShipper firstShift event (by decide)] at told
  have reports := congrArg Journal.reports told
  cases reports

end LogRelay.Delivery
