import LogRelay.Proofs.AccessLog.StampCache

/-!
How far the stamps of a cache can lie ahead of the instants asked for. No more than the window as
long as the clock does not step back by more; behind such a step the last stamp is given again,
however far ahead it is.
-/
set_option autoImplicit false

namespace LogRelay.AccessLog

def Stamp.lead (stamp : Stamp) (now : Instant) : Int := stamp.instant.toInt - now.toInt

namespace StampCache

theorem stamps_split (cache : StampCache) (earlier later : List Instant) (now : Instant) :
    cache.stamps (earlier ++ now :: later) = cache.stamps earlier ++
      ((cache.after earlier).stampAt now).1 ::
        ((cache.after earlier).stampAt now).2.stamps later := by
  induction earlier generalizing cache with
  | nil => rfl
  | cons first rest ih => exact congrArg (List.cons _) (ih (cache.stampAt first).2)

-- A stamp is too far ahead exactly if the one at hand was; a new one is not ahead at all.
theorem asked_lead (cache next : StampCache) (now : Instant) (stamp : Stamp)
    (step : Asked cache now stamp next) :
    -1000 ≤ stamp.lead now ∧ (1000 < stamp.lead now ↔
      ∃ last, cache.current = some last ∧ 1000 < last.lead now) := by
  unfold Stamp.lead
  cases step with
  | reused _ holds near =>
      refine ⟨by omega, fun ahead => ⟨stamp, holds, ahead⟩, ?_⟩
      rintro ⟨last, atHand, ahead⟩
      cases holds.symm.trans atHand
      exact ahead
  | renewed far =>
      refine ⟨by simp, fun ahead => ?_, ?_⟩
      · dsimp only at ahead
        omega
      · rintro ⟨last, atHand, ahead⟩
        have past := far last atHand
        omega

end StampCache

theorem stamps_lead_after_step_back (clock : Clock) (earlier later : List Instant)
    (now : Instant) :
    let cache := (StampCache.start clock).after earlier
    let given := (StampCache.start clock).stamps earlier
    let stamp := (cache.stampAt now).1
    (StampCache.start clock).stamps (earlier ++ now :: later) =
      given ++ stamp :: (cache.stampAt now).2.stamps later ∧
    -1000 ≤ stamp.lead now ∧
    (1000 < stamp.lead now ↔ ∃ last, given.getLast? = some last ∧ 1000 < last.lead now) ∧
    ((∀ former ∈ earlier, former.toInt - now.toInt ≤ 1000) → stamp.lead now ≤ 1000) := by
  intro cache given stamp
  have kept : StampCache.Kept clock earlier given cache := by
    simpa using StampCache.kept_after clock [] earlier [] _ (StampCache.kept_start clock)
  obtain ⟨behind, ahead⟩ := StampCache.asked_lead cache _ now stamp (cache.stamp_at_asked now)
  rw [kept.current] at ahead
  refine ⟨StampCache.stamps_split _ earlier later now, behind, ahead, ?_⟩
  intro steady
  by_cases beyond : 1000 < stamp.lead now
  · obtain ⟨last, ended, far⟩ := ahead.mp beyond
    have near := steady last.instant (kept.source last (List.mem_of_getLast? ended))
    rw [Stamp.lead] at far
    omega
  · omega

def swaying : List Instant := [1000, 5900]

theorem swaying_stamp_near :
    let stamp := (((StampCache.start universalClock).after swaying).stampAt 5000).1
    (∀ former ∈ swaying, former.toInt - (5000 : Instant).toInt ≤ 1000) ∧
      -1000 ≤ stamp.lead 5000 ∧ stamp.lead 5000 ≤ 1000 := by
  have steady : ∀ former ∈ swaying, former.toInt - (5000 : Instant).toInt ≤ 1000 := by
    rw [swaying, List.forall_mem_cons, List.forall_mem_singleton]
    decide
  obtain ⟨_, behind, _, ahead⟩ := stamps_lead_after_step_back universalClock swaying [] 5000
  exact ⟨steady, behind, ahead steady⟩

def stepBack : List Instant := [5000, -7]

theorem stepped_back_stamp_ahead : ¬ ∀ (zone : Zone) (year : Int) (asked : List Instant),
    ∀ answer ∈ asked.zip ((StampCache.start (.ofZone zone year)).stamps asked),
      (answer.2.lead answer.1).natAbs ≤ 1000 := by
  intro near
  have second : (stepBack.zip ((StampCache.start (.ofZone .utc 1970)).stamps stepBack))[1]? =
      some ((-7 : Instant), Stamp.mk 5000 (universalClock.text 5000)) := rfl
  have bound := near .utc 1970 stepBack _ (List.mem_of_getElem? second)
  revert bound
  decide

end LogRelay.AccessLog
