import LogRelay.Calendar
import Mathlib.Tactic.IntervalCases

/-!
The proleptic Gregorian calendar by its rules: leap years, the lengths of months, and days counted
year by year and month by month. Dates from days obey them, and give the days back.
-/
set_option autoImplicit false

namespace LogRelay

namespace Date

def isLeap (year : Int) : Bool :=
  year % 4 = 0 && (year % 100 ≠ 0 || year % 400 = 0)

def yearLength (year : Int) : Int := if isLeap year then 366 else 365

def monthLength (year : Int) (month : Nat) : Nat :=
  if month = 2 then (if isLeap year then 29 else 28)
  else if month = 4 ∨ month = 6 ∨ month = 9 ∨ month = 11 then 30
  else 31

theorem month_length_le (year : Int) (month : Nat) : monthLength year month ≤ 31 := by
  unfold monthLength
  split
  · split <;> decide
  · split <;> decide

structure Valid (date : Date) : Prop where
  month : 1 ≤ date.month ∧ date.month ≤ 12
  day : 1 ≤ date.day ∧ date.day ≤ monthLength date.year date.month

def yearsFrom (first : Int) : Nat → Int
  | 0 => 0
  | count + 1 => yearsFrom first count + yearLength (first + count)

def monthsBefore (year : Int) (month : Nat) : Nat :=
  ((List.range' 1 (month - 1)).map (monthLength year)).sum

def sinceEpoch (date : Date) : Int :=
  (if 1970 ≤ date.year then yearsFrom 1970 (date.year - 1970).toNat
    else -yearsFrom date.year (1970 - date.year).toNat) +
  monthsBefore date.year date.month + date.day - 1

theorem is_leap_iff (year : Int) :
    isLeap year = true ↔ year % 4 = 0 ∧ (year % 100 ≠ 0 ∨ year % 400 = 0) := by
  simp [isLeap]

def newYear (year : Int) : Int :=
  365 * year + (year - 1) / 4 - (year - 1) / 100 + (year - 1) / 400

theorem new_year_next (year : Int) : newYear (year + 1) = newYear year + yearLength year := by
  have leap := is_leap_iff year
  by_cases leaps : isLeap year = true
  · have rule := leap.mp leaps
    simp only [newYear, yearLength, if_pos leaps]
    omega
  · have rule : ¬ (year % 4 = 0 ∧ (year % 100 ≠ 0 ∨ year % 400 = 0)) := fun holds =>
      leaps (leap.mpr holds)
    simp only [newYear, yearLength, if_neg leaps]
    omega

theorem years_from_eq (first : Int) (count : Nat) :
    yearsFrom first count = newYear (first + count) - newYear first := by
  induction count with
  | zero => simp [yearsFrom]
  | succ count ih =>
      have next := new_year_next (first + count)
      rw [yearsFrom, ih, Nat.cast_succ, ← Int.add_assoc, next]
      omega

theorem since_epoch_eq (date : Date) :
    date.sinceEpoch = newYear date.year - newYear 1970 + monthsBefore date.year date.month +
      date.day - 1 := by
  rw [sinceEpoch]
  by_cases later : 1970 ≤ date.year
  · rw [if_pos later, years_from_eq, Int.toNat_of_nonneg (by omega)]
    simp
  · rw [if_neg later, years_from_eq, Int.toNat_of_nonneg (by omega)]
    simp

-- March opens the days that are the same in every year.
theorem months_before_eq (year : Int) (month : Nat) (low : 1 ≤ month) (high : month ≤ 12) :
    (monthsBefore year month : Int) =
      if month ≤ 2 then 31 * ((month : Int) - 1)
      else 59 + (if isLeap year then 1 else 0) + (153 * ((month : Int) - 3) + 2) / 5 := by
  cases leaps : isLeap year <;> interval_cases month <;>
    simp [monthsBefore, monthLength, List.range'_succ, leaps]

-- What the count of days by years that begin in March has before January of a year.
theorem new_year_march (year : Int) :
    365 * year + year / 4 - year / 100 + year / 400 =
      newYear year + (if isLeap year then 1 else 0) := by
  have next := new_year_next year
  rw [newYear, Int.add_sub_cancel] at next
  cases leaps : isLeap year <;> simp only [yearLength, leaps] at next <;> simp at next ⊢ <;> omega

theorem to_days_eq (date : Date) (low : 1 ≤ date.month) (high : date.month ≤ 12) :
    date.toDays = date.sinceEpoch := by
  have epoch : newYear 1970 = 719527 := by decide
  rw [since_epoch_eq, months_before_eq date.year date.month low high, epoch, toDays, epochDays]
  by_cases early : date.month ≤ 2
  · simp only [if_pos early]
    rw [newYear]
    omega
  · have march := new_year_march date.year
    simp only [if_neg early]
    omega

-- A day within 400 years that begin in March, by centuries, spans of four years, years and days.
-- A leap day is the last day of its year.
structure InSpan (day century quad year rest : Int) : Prop where
  centuries : 0 ≤ century ∧ century ≤ 3
  quads : 0 ≤ quad ∧ quad ≤ 24
  years : 0 ≤ year ∧ year ≤ 3
  days : 0 ≤ rest ∧ rest ≤ 365
  leap : rest = 365 → year = 3 ∧ (quad = 24 → century = 3)
  whole : day = 36524 * century + 1461 * quad + 365 * year + rest

theorem century_of_day (day : Int) (low : 0 ≤ day) (high : day < spanDays) :
    ∃ century rest : Int, (0 ≤ century ∧ century ≤ 3) ∧ (0 ≤ rest ∧ rest ≤ 36524) ∧
      (rest = 36524 → century = 3) ∧ day = 36524 * century + rest := by
  rw [spanDays] at high
  by_cases last : day = 146096
  · exact ⟨3, 36524, by omega, by omega, fun _ => rfl, last⟩
  · exact ⟨day / 36524, day % 36524, by omega, by omega, by omega, by omega⟩

theorem in_span (day : Int) (low : 0 ≤ day) (high : day < spanDays) :
    ∃ century quad year rest, InSpan day century quad year rest := by
  obtain ⟨century, inCentury, centuries, days, lastCentury, whole⟩ := century_of_day day low high
  by_cases last : inCentury % 1461 = 1460
  · exact ⟨century, inCentury / 1461, 3, 365, centuries, by omega, by omega, by omega,
      fun _ => ⟨rfl, by omega⟩, by omega⟩
  · exact ⟨century, inCentury / 1461, inCentury % 1461 / 365, inCentury % 1461 % 365, centuries,
      by omega, by omega, by omega, by omega, by omega⟩

theorem year_of_span (day century quad year rest : Int)
    (parts : InSpan day century quad year rest) :
    (day - day / 1460 + day / 36524 - day / 146096) / 365 = 100 * century + 4 * quad + year := by
  obtain ⟨centuries, quads, years, days, leap, whole⟩ := parts
  have inCentury : day < 36524 * century + 36524 ∨ century = 3 ∧ day = 146096 := by
    by_cases last : rest = 365 <;> omega
  have hundreds : day / 36524 - day / 146096 = century := by
    rcases inCentury with early | ⟨rfl, rfl⟩
    · have exactly : day / 36524 = century := by omega
      omega
    · rfl
  have fours : day / 1460 = 25 * century + quad ∨
      day / 1460 = 25 * century + quad + 1 ∧ 1364 ≤ 365 * year + rest := by omega
  omega

theorem years_in_span (span century quad year : Int) (centuries : 0 ≤ century ∧ century ≤ 3)
    (quads : 0 ≤ quad ∧ quad ≤ 24) (years : 0 ≤ year ∧ year ≤ 3) :
    let total := 100 * century + 4 * quad + year + 400 * span
    total / 4 = 25 * century + quad + 100 * span ∧ total / 100 = century + 4 * span ∧
      total / 400 = span := by
  omega

theorem span_of_days (days : Int) :
    0 ≤ (days + epochDays) % spanDays ∧ (days + epochDays) % spanDays < spanDays ∧
      days + epochDays = 146097 * ((days + epochDays) / spanDays) +
        (days + epochDays) % spanDays := by
  have spans : spanDays = 146097 := rfl
  rw [spans]
  omega

def ofMarch (year inYear : Int) : Date :=
  let fromMarch := (5 * inYear + 2) / 153
  let month := if fromMarch < 10 then fromMarch + 3 else fromMarch - 9
  ⟨if month ≤ 2 then year + 1 else year, month.toNat,
    (inYear - (153 * fromMarch + 2) / 5 + 1).toNat⟩

theorem of_days_march (days : Int) :
    ∃ year inYear : Int, ofDays days = ofMarch year inYear ∧ 0 ≤ inYear ∧ inYear ≤ 365 ∧
      (inYear = 365 → isLeap (year + 1) = true) ∧
      days + epochDays = 365 * year + year / 4 - year / 100 + year / 400 + inYear := by
  obtain ⟨low, high, total⟩ := span_of_days days
  have unfolded : ofDays days = ofMarch _ _ := rfl
  generalize (days + epochDays) / spanDays = span at total unfolded
  generalize (days + epochDays) % spanDays = inSpan at low high total unfolded
  obtain ⟨century, quad, year, rest, parts⟩ := in_span inSpan low high
  rw [year_of_span _ century quad year rest parts] at unfolded
  obtain ⟨centuries, quads, years, inYear, leap, whole⟩ := parts
  obtain ⟨fours, hundreds, spans⟩ := years_in_span span century quad year centuries quads years
  obtain ⟨foursHere, hundredsHere, _⟩ := years_in_span 0 century quad year centuries quads years
  refine ⟨100 * century + 4 * quad + year + 400 * span, rest, ?_, inYear.1, inYear.2, ?_, ?_⟩
  · rw [unfolded]
    congr 1
    omega
  · intro last
    obtain ⟨rfl, century24⟩ := leap last
    rw [is_leap_iff]
    omega
  · rw [fours, hundreds, spans]
    omega

theorem of_march_days (year inYear : Int) (low : 0 ≤ inYear) (high : inYear ≤ 365) :
    (ofMarch year inYear).toDays + epochDays =
      365 * year + year / 4 - year / 100 + year / 400 + inYear := by
  by_cases early : (5 * inYear + 2) / 153 < 10
  · simp only [ofMarch, toDays, if_pos early]
    have march : ¬ (5 * inYear + 2) / 153 + 3 ≤ 2 := by omega
    have marchNat : ¬ ((5 * inYear + 2) / 153 + 3).toNat ≤ 2 := by omega
    simp only [if_neg march, if_neg marchNat]
    omega
  · simp only [ofMarch, toDays, if_neg early]
    have january : (5 * inYear + 2) / 153 - 9 ≤ 2 := by omega
    have januaryNat : ((5 * inYear + 2) / 153 - 9).toNat ≤ 2 := by omega
    simp only [if_pos january, if_pos januaryNat]
    omega

theorem of_march_month (year inYear : Int) (low : 0 ≤ inYear) (high : inYear ≤ 365) :
    1 ≤ (ofMarch year inYear).month ∧ (ofMarch year inYear).month ≤ 12 := by
  by_cases early : (5 * inYear + 2) / 153 < 10
  · simp only [ofMarch, if_pos early]
    omega
  · simp only [ofMarch, if_neg early]
    omega

theorem of_march_valid (year inYear : Int) (low : 0 ≤ inYear) (high : inYear ≤ 365)
    (leap : inYear = 365 → isLeap (year + 1) = true) : (ofMarch year inYear).Valid := by
  refine ⟨of_march_month year inYear low high, ?_⟩
  obtain ⟨fromMarch, named⟩ : ∃ fromMarch, fromMarch = (5 * inYear + 2) / 153 := ⟨_, rfl⟩
  have first : 0 ≤ fromMarch := by omega
  have last : fromMarch ≤ 11 := by omega
  rw [ofMarch, ← named]
  cases leaps : isLeap (year + 1) with
  | true => interval_cases fromMarch <;> simp [monthLength, leaps] <;> omega
  | false =>
      have common : inYear ≤ 364 := by
        by_cases atEnd : inYear = 365
        · exact Bool.noConfusion (leaps.symm.trans (leap atEnd))
        · omega
      interval_cases fromMarch <;> simp [monthLength, leaps] <;> omega

theorem of_days_valid (days : Int) : (ofDays days).Valid := by
  obtain ⟨year, inYear, march, low, high, leap, _⟩ := of_days_march days
  rw [march]
  exact of_march_valid year inYear low high leap

theorem since_epoch_of_days (days : Int) : (ofDays days).sinceEpoch = days := by
  obtain ⟨year, inYear, march, low, high, _, whole⟩ := of_days_march days
  have month := of_march_month year inYear low high
  have back := of_march_days year inYear low high
  rw [march, ← to_days_eq _ month.1 month.2]
  omega

end Date

namespace Civil

structure Valid (civil : Civil) : Prop where
  date : civil.date.Valid
  hour : civil.hour < 24
  minute : civil.minute < 60
  second : civil.second < 60

def sinceEpoch (civil : Civil) : Int :=
  86400 * civil.date.sinceEpoch + 3600 * civil.hour + 60 * civil.minute + civil.second

theorem of_seconds_valid (seconds : Int) : (ofSeconds seconds).Valid := by
  refine ⟨Date.of_days_valid (seconds / 86400), ?_, ?_, ?_⟩ <;> simp only [ofSeconds] <;> omega

theorem since_epoch_of_seconds (seconds : Int) : (ofSeconds seconds).sinceEpoch = seconds := by
  simp only [sinceEpoch, ofSeconds, Date.since_epoch_of_days]
  omega

end Civil

end LogRelay
