/-!
The proleptic Gregorian calendar: dates and times of day from seconds since the start of 1970, and
days back from dates. Years are counted from March 1 within spans of 400 years, so that the leap
day is the last of its year.
-/
set_option autoImplicit false

namespace LogRelay

structure Date where
  year : Int
  month : Nat
  day : Nat
deriving DecidableEq, Repr

namespace Date

-- The days in 400 years.
def spanDays : Int := 146097

-- The days from 0000-03-01 to 1970-01-01.
def epochDays : Int := 719468

def ofDays (days : Int) : Date :=
  let shifted := days + epochDays
  let span := shifted / spanDays
  let inSpan := shifted % spanDays
  let yearInSpan :=
    (inSpan - inSpan / 1460 + inSpan / 36524 - inSpan / 146096) / 365
  let inYear := inSpan - (365 * yearInSpan + yearInSpan / 4 - yearInSpan / 100)
  let fromMarch := (5 * inYear + 2) / 153
  let day := inYear - (153 * fromMarch + 2) / 5 + 1
  let month := if fromMarch < 10 then fromMarch + 3 else fromMarch - 9
  let year := yearInSpan + 400 * span
  ⟨if month ≤ 2 then year + 1 else year, month.toNat, day.toNat⟩

def toDays (date : Date) : Int :=
  let year := if date.month ≤ 2 then date.year - 1 else date.year
  let fromMarch : Int := if date.month ≤ 2 then date.month + 9 else date.month - 3
  let inYear := (153 * fromMarch + 2) / 5 + date.day - 1
  365 * year + year / 4 - year / 100 + year / 400 + inYear - epochDays

end Date

structure Civil where
  date : Date
  hour : Nat
  minute : Nat
  second : Nat
deriving DecidableEq, Repr

def Civil.ofSeconds (seconds : Int) : Civil :=
  let inDay := (seconds % 86400).toNat
  ⟨Date.ofDays (seconds / 86400), inDay / 3600, inDay / 60 % 60, inDay % 60⟩

end LogRelay
