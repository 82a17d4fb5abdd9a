import LogRelay.Proofs.AccessLog.LoggerHistory

/-!
Requests handled inside a logger. Whatever the handling does to the logger and to the world stays as
it is; behind it stands one line more exactly if the logger was active before and logs the request
after.
-/
set_option autoImplicit false

namespace LogRelay.AccessLog

-- What the handling of a request does, in a world `W`: it acts on the world, looks at the world and
-- the logger, makes calls on the logger and goes on by their answers, has other requests handled
-- inside the same logger, and gives a request in the end.
inductive Handling (W : Type) where
  | give (request : Request)
  | act (deed : W → W) (next : Handling W)
  | look (next : Logger → W → Handling W)
  | call (made : Call) (next : Answer → Handling W)
  | around (moment : Moment) (inner : Handling W) (next : Request → Handling W)

def Handling.run {W : Type} : Handling W → Logger → StateM W (Request × Logger)
  | .give request, logger => pure (request, logger)
  | .act deed next, logger => do
      modify deed
      next.run logger
  | .look next, logger => do
      let world ← get
      (next logger world).run logger
  | .call made next, logger => (next (logger.serve made).1).run (logger.serve made).2
  | .around moment inner next, logger => do
      let (request, logger) ← logger.aroundIn moment inner.run
      (next request).run logger

namespace Logger

-- A request is logged behind its handling.
structure Due (before after : Logger) (request : Request) : Prop where
  wasActive : before.phase = .started ∧ before.enabled = true
  isActive : after.phase = .started ∧ after.enabled = true
  admitted : ¬ ∃ name, after.condition = some name ∧ (request.attribute? name).isSome = true

def written (logger : Logger) (request : Request) (moment : Moment) : Logger :=
  { logger with
    cache := (logger.pattern.write request moment logger.cache).2
    lines := logger.lines ++ [(logger.pattern.write request moment logger.cache).1] }

theorem due_iff (before after : Logger) (request : Request) : Due before after request ↔
    before.isActive = true ∧ after.isActive = true ∧ after.skips request = false := by
  rw [is_active_iff, is_active_iff, ← Bool.not_eq_true, skips_iff]
  exact ⟨fun due => ⟨due.wasActive, due.isActive, due.admitted⟩, fun ⟨was, is, admitted⟩ =>
    ⟨was, is, admitted⟩⟩

theorem log_leaves (logger : Logger) (request : Request) (moment : Moment) :
    (logger.isActive = true ∧ logger.skips request = false →
      (logger.log request moment).2 = logger.written request moment) ∧
    (¬ (logger.isActive = true ∧ logger.skips request = false) →
      (logger.log request moment).2 = logger) := by
  have served := log_served logger request moment
  generalize (logger.log request moment).1 = answer at served
  generalize (logger.log request moment).2 = next at served ⊢
  cases served with
  | written _ _ active admitted =>
      exact ⟨fun _ => rfl, fun silent => (silent ⟨active, admitted⟩).elim⟩
  | withheld _ _ silent =>
      refine ⟨?_, fun _ => rfl⟩
      rintro ⟨active, admitted⟩
      rcases silent with inactive | skipped
      · cases inactive.symm.trans active
      · cases skipped.symm.trans admitted

theorem log_keeps_lines (logger : Logger) (request : Request) (moment : Moment) :
    logger.lines <+: (logger.log request moment).2.lines := by
  rw [served_lines logger _ _ _ (log_served logger request moment)]
  exact List.prefix_append _ _

section Around

variable {W : Type} (logger : Logger) (moment : Moment)
  (handle : Logger → StateM W (Request × Logger)) (world : W)

theorem run_around_in : (logger.aroundIn moment handle).run world =
    let ((request, changed), left) := (handle logger).run world
    ((request, if logger.isActive then (changed.log request moment).2 else changed), left) := by
  unfold aroundIn
  cases logger.isActive <;> rfl

theorem around_in_keeps_lines :
    ((handle logger).run world).1.2.lines <+:
      ((logger.aroundIn moment handle).run world).1.2.lines := by
  rw [run_around_in]
  generalize (handle logger).run world = outcome
  cases logger.isActive with
  | true => exact log_keeps_lines outcome.1.2 outcome.1.1 moment
  | false => exact List.prefix_refl _

end Around

end Logger

-- No handling takes a line back: inside other handlings neither, by what their own handlings keep.
theorem Handling.run_keeps_lines {W : Type} (handling : Handling W) (logger : Logger) (world : W) :
    logger.lines <+: ((handling.run logger).run world).1.2.lines := by
  induction handling generalizing logger world with
  | give request => exact List.prefix_refl _
  | act deed next ih => exact ih logger (deed world)
  | look next ih => exact ih logger world logger world
  | call made next ih =>
      have kept : logger.lines <+: (logger.serve made).2.lines := by
        rw [Logger.served_lines logger _ _ _ (logger.serve_served made)]
        exact List.prefix_append _ _
      exact kept.trans (ih (logger.serve made).1 (logger.serve made).2 world)
  | around moment inner next inside ih =>
      have kept := (inside logger world).trans
        (logger.around_in_keeps_lines moment inner.run world)
      exact kept.trans (ih _ _ _)

-- The world is left as one run of the handling leaves it, whatever the handling does there: it runs
-- exactly once.
theorem handled_once_then_logged {W : Type} (logger : Logger) (moment : Moment)
    (handling : Handling W) (world : W) :
    let ((request, changed), left) := (handling.run logger).run world
    ∃ inside final,
      (logger.aroundIn moment handling.run).run world = ((request, final), left) ∧
      changed.lines = logger.lines ++ inside ∧
      (logger.Due changed request → final = changed.written request moment) ∧
      (¬ logger.Due changed request → final = changed) := by
  have handled := logger.run_around_in moment handling.run world
  obtain ⟨inside, grown⟩ := handling.run_keeps_lines logger world
  generalize (handling.run logger).run world = outcome at handled grown ⊢
  obtain ⟨⟨request, changed⟩, left⟩ := outcome
  obtain ⟨logged, unlogged⟩ := changed.log_leaves request moment
  refine ⟨inside, _, handled, grown.symm, ?_, ?_⟩
  · intro due
    obtain ⟨wasActive, active, admitted⟩ := (Logger.due_iff logger changed request).mp due
    rw [if_pos wasActive]
    exact logged ⟨active, admitted⟩
  · intro silent
    rw [Logger.due_iff] at silent
    by_cases wasActive : logger.isActive = true
    · rw [if_pos wasActive]
      exact unlogged fun admitted => silent ⟨wasActive, admitted⟩
    · rw [if_neg wasActive]

def counted : Handling Nat :=
  .act (· + 1) (.around midnight (.call (.setPattern "%U") fun _ => .give visit) .give)

example :
    let logger := { Logger.fresh universalClock with phase := .started }
    let outcome := (logger.aroundIn midnight counted.run).run 0
    outcome.1.2.lines = ["/x", "/x"] ∧ outcome.2 = 1 := by
  decide +kernel

end LogRelay.AccessLog
