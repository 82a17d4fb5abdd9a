import LogRelay.AccessLog.Stamp

set_option autoImplicit false

namespace LogRelay.AccessLog

-- Where the difference is cut it is far from the window, so the cut does not touch the comparison.
theorem since_window (now earlier : Instant) :
    since now earlier ≤ window ↔ now.toInt ≤ earlier.toInt + 1000 := by
  have least : Int64.minValue.toInt = -9223372036854775808 := rfl
  have greatest : Int64.maxValue.toInt = 9223372036854775807 := rfl
  have width : window.toInt = 1000 := rfl
  rw [Int64.le_iff_toInt_le, width]
  by_cases low : now.toInt - earlier.toInt < Int64.minValue.toInt
  · rw [since, if_pos low]
    omega
  · by_cases high : Int64.maxValue.toInt < now.toInt - earlier.toInt
    · rw [since, if_neg low, if_pos high]
      omega
    · rw [since, if_neg low, if_neg high, Int64.toInt_ofInt_of_le (by omega) (by omega)]
      omega

namespace StampCache

def after (cache : StampCache) : List Instant → StampCache
  | [] => cache
  | now :: later => (cache.stampAt now).2.after later

def stamps (cache : StampCache) : List Instant → List Stamp
  | [] => []
  | now :: later => (cache.stampAt now).1 :: (cache.stampAt now).2.stamps later

inductive Asked (cache : StampCache) (now : Instant) : Stamp → StampCache → Prop where
  | reused (stamp : Stamp) (holds : cache.current = some stamp)
      (near : now.toInt ≤ stamp.instant.toInt + 1000) : Asked cache now stamp cache
  | renewed (far : ∀ stamp, cache.current = some stamp → stamp.instant.toInt + 1000 < now.toInt) :
      Asked cache now ⟨now, cache.clock.text now⟩
        { cache with current := some ⟨now, cache.clock.text now⟩ }

theorem stamp_at_asked (cache : StampCache) (now : Instant) :
    Asked cache now (cache.stampAt now).1 (cache.stampAt now).2 := by
  cases found : cache.fresh? now with
  | some stamp =>
      obtain ⟨holds, near⟩ := Option.filter_eq_some_iff.mp found
      rw [stampAt, found]
      exact .reused stamp holds ((since_window now stamp.instant).mp (by simpa using near))
  | none =>
      rw [stampAt, found]
      apply Asked.renewed
      intro stamp holds
      have stale := Option.filter_eq_none_iff.mp found stamp holds
      have past : ¬ since now stamp.instant ≤ window := by simpa using stale
      rw [since_window] at past
      omega

theorem stamps_snoc (cache : StampCache) (asked : List Instant) (now : Instant) :
    cache.stamps (asked ++ [now]) = cache.stamps asked ++ [((cache.after asked).stampAt now).1] := by
  induction asked generalizing cache with
  | nil => rfl
  | cons first rest ih => exact congrArg (List.cons _) (ih (cache.stampAt first).2)

structure Kept (clock : Clock) (asked : List Instant) (given : List Stamp) (cache : StampCache) :
    Prop where
  sameClock : cache.clock = clock
  current : cache.current = given.getLast?
  text : ∀ stamp ∈ given, stamp.text = clock.text stamp.instant
  source : ∀ stamp ∈ given, stamp.instant ∈ asked
  latest : ∀ stamp ∈ given, ∀ last, given.getLast? = some last →
    stamp.instant.toInt ≤ last.instant.toInt

theorem kept_start (clock : Clock) : Kept clock [] [] (start clock) :=
  ⟨rfl, rfl, nofun, nofun, nofun⟩

theorem last_given (given : List Stamp) (former : Stamp) (member : former ∈ given) :
    ∃ last, given.getLast? = some last :=
  ⟨_, List.getLast?_eq_some_getLast (List.ne_nil_of_mem member)⟩

theorem kept_stamp (clock : Clock) (asked : List Instant) (given : List Stamp)
    (cache next : StampCache) (now : Instant) (stamp : Stamp) (kept : Kept clock asked given cache)
    (step : Asked cache now stamp next) :
    next.clock = clock ∧ next.current = some stamp ∧ stamp.text = clock.text stamp.instant ∧
      stamp.instant ∈ asked ++ [now] ∧ now.toInt ≤ stamp.instant.toInt + 1000 ∧
      ∀ former ∈ given, former.instant.toInt ≤ stamp.instant.toInt := by
  cases step with
  | reused _ holds near =>
      have last : given.getLast? = some stamp := kept.current.symm.trans holds
      have member : stamp ∈ given := List.mem_of_getLast? last
      exact ⟨kept.sameClock, holds, kept.text stamp member,
        List.mem_append_left _ (kept.source stamp member), near,
        fun former before => kept.latest former before stamp last⟩
  | renewed far =>
      refine ⟨kept.sameClock, rfl, congrArg (Clock.text · now) kept.sameClock, by simp, ?_, ?_⟩
      · dsimp only
        omega
      · intro former before
        obtain ⟨last, ended⟩ := last_given given former before
        have earlier := kept.latest former before last ended
        have past := far last (kept.current.trans ended)
        dsimp only
        omega

theorem kept_asked (clock : Clock) (asked : List Instant) (given : List Stamp)
    (cache next : StampCache) (now : Instant) (stamp : Stamp) (kept : Kept clock asked given cache)
    (step : Asked cache now stamp next) :
    Kept clock (asked ++ [now]) (given ++ [stamp]) next := by
  obtain ⟨sameClock, current, text, source, _, rises⟩ :=
    kept_stamp clock asked given cache next now stamp kept step
  refine ⟨sameClock, by simpa using current, ?_, ?_, ?_⟩
  · intro other member
    rcases List.mem_append.mp member with before | last
    · exact kept.text other before
    · rw [List.mem_singleton.mp last]
      exact text
  · intro other member
    rcases List.mem_append.mp member with before | last
    · exact List.mem_append_left _ (kept.source other before)
    · rw [List.mem_singleton.mp last]
      exact source
  · intro other member last ended
    have same : stamp = last := by simpa using ended
    subst last
    rcases List.mem_append.mp member with before | atEnd
    · exact rises other before
    · cases List.mem_singleton.mp atEnd
      exact Int.le_refl _

theorem kept_after (clock : Clock) (asked later : List Instant) (given : List Stamp)
    (cache : StampCache) (kept : Kept clock asked given cache) :
    Kept clock (asked ++ later) (given ++ cache.stamps later) (cache.after later) := by
  induction later generalizing asked given cache with
  | nil => simpa [stamps, after] using kept
  | cons now rest ih =>
      have once := kept_asked clock asked given cache _ now _ kept (cache.stamp_at_asked now)
      simpa [stamps, after] using ih _ _ _ once

theorem renewed_iff (cache next : StampCache) (now : Instant) (stamp : Stamp)
    (step : Asked cache now stamp next) :
    (next.current ≠ cache.current ↔
      ∀ last, cache.current = some last → last.instant.toInt + 1000 < now.toInt) ∧
    (next.current ≠ cache.current → stamp = ⟨now, cache.clock.text now⟩) := by
  cases step with
  | reused _ holds near =>
      refine ⟨⟨fun changed => absurd rfl changed, fun far => ?_⟩, fun changed => absurd rfl changed⟩
      have past := far stamp holds
      omega
  | renewed far =>
      refine ⟨⟨fun _ => far, fun _ same => ?_⟩, fun _ => rfl⟩
      have past := far _ same.symm
      dsimp only at past
      omega

end StampCache

theorem stamps_never_lag (clock : Clock) (earlier : List Instant) (now : Instant) :
    let cache := (StampCache.start clock).after earlier
    let given := (StampCache.start clock).stamps earlier
    let stamp := (cache.stampAt now).1
    let renewed := (cache.stampAt now).2.current ≠ cache.current
    (StampCache.start clock).stamps (earlier ++ [now]) = given ++ [stamp] ∧
    stamp.text = clock.text stamp.instant ∧
    stamp.instant ∈ earlier ++ [now] ∧
    now.toInt - stamp.instant.toInt ≤ 1000 ∧
    (∀ former ∈ given, former.instant.toInt ≤ stamp.instant.toInt) ∧
    (renewed ↔ cache.current = none ∨
      ∃ last, given.getLast? = some last ∧ 1000 < now.toInt - last.instant.toInt) ∧
    (renewed → stamp = ⟨now, clock.text now⟩) := by
  intro cache given stamp renewed
  have kept : StampCache.Kept clock earlier given cache := by
    simpa using StampCache.kept_after clock [] earlier [] _ (StampCache.kept_start clock)
  have step := cache.stamp_at_asked now
  obtain ⟨_, _, text, source, near, rises⟩ :=
    StampCache.kept_stamp clock earlier given cache _ now stamp kept step
  obtain ⟨renews, fresh⟩ := StampCache.renewed_iff cache _ now stamp step
  refine ⟨StampCache.stamps_snoc _ earlier now, text, source, by omega, rises, ?_, ?_⟩
  · refine Iff.trans renews ?_
    rw [kept.current]
    cases given.getLast? with
    | none => simp
    | some last =>
        simp
        omega
  · rw [← kept.sameClock]
    exact fresh

def universalClock : Clock := .ofZone .utc 1970

def jumps : List Instant := [Int64.minValue, 5000, 5900, -7]

theorem jumps_last :
    ((StampCache.start universalClock).stamps jumps).getLast? =
      some ⟨5000, universalClock.text 5000⟩ := by
  rfl

theorem latest_instant_renews :
    let stamp := (((StampCache.start universalClock).after jumps).stampAt Int64.maxValue).1
    stamp = ⟨Int64.maxValue, universalClock.text Int64.maxValue⟩ ∧
      (5000 : Instant).toInt ≤ stamp.instant.toInt := by
  obtain ⟨_, _, _, _, rises, renews, fresh⟩ :=
    stamps_never_lag universalClock jumps Int64.maxValue
  have far : 1000 < Int64.maxValue.toInt - (5000 : Instant).toInt := by decide
  refine ⟨fresh (renews.mpr (.inr ⟨_, jumps_last, far⟩)), ?_⟩
  exact rises _ (List.mem_of_getLast? jumps_last)

end LogRelay.AccessLog
