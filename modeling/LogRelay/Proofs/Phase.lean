import LogRelay.Phase

/-!
Starts that fail. Such a start is taken back, with one exception: a component that was never
started before stays stopped if its preparation stopped it.
-/
set_option autoImplicit false

namespace LogRelay

-- What a preparation does with the component that is being started: it looks at the phase, makes
-- calls and goes on by their results, and ends with a result of its own.
inductive Preparation where
  | finish (result : Except SetupError Unit)
  | look (next : Phase → Preparation)
  | start (next : Except SetupError Unit → Preparation)
  | stop (next : Except SetupError Unit → Preparation)
  | startWith (inner : Preparation) (next : Except SetupError Unit → Preparation)

def Preparation.run : Preparation → Phase → Except SetupError Unit × Phase
  | .finish result, phase => (result, phase)
  | .look next, phase => (next phase).run phase
  | .start next, phase => (next phase.start.1).run phase.start.2
  | .stop next, phase => (next phase.stop.1).run phase.stop.2
  | .startWith inner next, phase =>
      let (result, phase) := phase.startWith inner.run
      (next result).run phase

namespace Phase

theorem start_phase (phase : Phase) : phase.start.2 = .started := by
  cases phase <;> rfl

theorem stop_never_clears (phase : Phase) (begun : phase ≠ .notStarted) :
    phase.stop.2 ≠ .notStarted := by
  cases phase with
  | notStarted => exact (begun rfl).elim
  | started => exact nofun
  | stopped => exact nofun

inductive Begun (prepare : Phase → Except SetupError Unit × Phase) (phase : Phase) :
    Except SetupError Unit × Phase → Prop where
  | refused (running : phase = .started) : Begun prepare phase (.error alreadyStarted, phase)
  | prepared (idle : phase ≠ .started) (reached : Phase)
      (done : prepare .started = (.ok (), reached)) : Begun prepare phase (.ok (), reached)
  | takenBack (idle : phase ≠ .started) (error : SetupError)
      (failed : prepare .started = (.error error, .started)) :
      Begun prepare phase (.error error, phase)
  | movedOn (idle : phase ≠ .started) (error : SetupError) (reached : Phase)
      (failed : prepare .started = (.error error, reached)) (moved : reached ≠ .started) :
      Begun prepare phase (.error error, reached)

theorem start_with_begun (prepare : Phase → Except SetupError Unit × Phase) (phase : Phase) :
    Begun prepare phase (phase.startWith prepare) := by
  unfold startWith
  by_cases running : phase = .started
  · have refused : phase.start = (.error alreadyStarted, phase) := if_pos running
    rw [refused]
    exact .refused running
  · have begins : phase.start = (.ok (), .started) := if_neg running
    rw [begins]
    dsimp only
    cases prepared : prepare .started with
    | mk result reached =>
        cases result with
        | ok _ => exact .prepared running reached prepared
        | error error =>
            dsimp only
            by_cases kept : reached = .started
            · subst kept
              rw [if_pos rfl]
              exact .takenBack running error prepared
            · rw [if_neg kept]
              exact .movedOn running error reached prepared kept

end Phase

-- A component that was started once is never again as if it had not been: the phase that a nested
-- start gives back is one that the outer start has already left behind.
theorem Preparation.run_never_clears (preparation : Preparation) (phase : Phase)
    (begun : phase ≠ .notStarted) : (preparation.run phase).2 ≠ .notStarted := by
  induction preparation generalizing phase with
  | finish result => exact begun
  | look next ih => exact ih phase phase begun
  | start next ih =>
      refine ih phase.start.1 phase.start.2 ?_
      rw [Phase.start_phase]
      exact nofun
  | stop next ih => exact ih phase.stop.1 phase.stop.2 (phase.stop_never_clears begun)
  | startWith inner next inside ih =>
      have reaches : (inner.run .started).2 ≠ .notStarted := inside .started nofun
      refine ih (phase.startWith inner.run).1 (phase.startWith inner.run).2 ?_
      have course := phase.start_with_begun inner.run
      generalize phase.startWith inner.run = outcome at course ⊢
      cases course with
      | refused running => exact begun
      | prepared idle reached done => rwa [done] at reaches
      | takenBack idle error failed => exact begun
      | movedOn idle error reached failed moved => rwa [failed] at reaches

theorem failed_start_taken_back_unless_stopped (phase : Phase) (preparation : Preparation)
    (error : SetupError) (failed : (phase.startWith preparation.run).1 = .error error) :
    let after := (phase.startWith preparation.run).2
    (after = phase ↔ ¬ (phase = .notStarted ∧ (preparation.run .started).2 = .stopped)) ∧
      (after ≠ phase → after = .stopped) := by
  have reaches : (preparation.run .started).2 ≠ .notStarted :=
    preparation.run_never_clears .started nofun
  have course := phase.start_with_begun preparation.run
  generalize phase.startWith preparation.run = outcome at course failed ⊢
  cases course with
  | refused running => simp [running]
  | prepared idle reached done => cases failed
  | takenBack idle error prepared => simp [prepared]
  | movedOn idle error reached prepared moved =>
      rw [prepared] at reaches ⊢
      cases reached with
      | notStarted => exact (reaches rfl).elim
      | started => exact (moved rfl).elim
      | stopped =>
          cases phase with
          | notStarted => simp
          | started => exact (idle rfl).elim
          | stopped => simp

def restless : Preparation :=
  .stop fun _ => .start fun _ => .stop fun _ => .finish (.error (.lifecycle "late"))

theorem restless_start_stops :
    (Phase.notStarted.startWith restless.run).1 = .error (.lifecycle "late") ∧
      (Phase.notStarted.startWith restless.run).2 = .stopped := by
  have failed : (Phase.notStarted.startWith restless.run).1 = .error (.lifecycle "late") := rfl
  obtain ⟨kept, stops⟩ := failed_start_taken_back_unless_stopped .notStarted restless _ failed
  exact ⟨failed, stops fun same => kept.mp same ⟨rfl, rfl⟩⟩

theorem failed_start_leaves_trace : ¬ ∀ (phase : Phase) (preparation : Preparation) error,
    (phase.startWith preparation.run).1 = .error error →
      (phase.startWith preparation.run).2 = phase := by
  intro traceless
  have same := traceless .notStarted (.stop fun _ => .finish (.error (.lifecycle "late"))) _ rfl
  cases same

end LogRelay
