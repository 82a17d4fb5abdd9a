import LogRelay.Calendar
import LogRelay.Text.Decimal

/-!
Time stamps. The text of a stamp is computed afresh only when the instant asked for lies more than
a window past the instant of the stamp at hand; until then the same stamp serves.
-/
set_option autoImplicit false

namespace LogRelay.AccessLog

-- Milliseconds since the start of 1970.
abbrev Instant := Int64

-- The seconds that local time is ahead of universal time, at each instant.
structure Zone where
  offset : Instant → Int

namespace Zone

def utc : Zone := ⟨fun _ => 0⟩

def fixed (offset : Int) : Zone := ⟨fun _ => offset⟩

-- An offset for each month of the year, as universal time counts it.
def monthly (offsets : List Int) : Zone :=
  ⟨fun instant =>
    let date := (Civil.ofSeconds (instant.toInt / 1000)).date
    (offsets[date.month - 1]?).getD 0⟩

def offsetAtMonth (zone : Zone) (year : Int) (month : Nat) : Int :=
  zone.offset (Int64.ofInt (86400000 * (Date.mk year month 1).toDays))

end Zone

def offsetText (offset : Int) : List Char :=
  let size := offset.natAbs
  (if offset < 0 then '-' else '+') ::
    Decimal.padded 2 (size / 3600) ++ Decimal.padded 2 (size / 60 % 60)

def monthNames : List String :=
  ["Jan", "Feb", "Mar", "Apr", "May", "Jun", "Jul", "Aug", "Sep", "Oct", "Nov", "Dec"]

def monthName (month : Nat) : String := (monthNames[month - 1]?).getD ""

-- A zone with its two offsets of the year: standard time has the smaller one.
structure Clock where
  zone : Zone
  standard : Int
  daylight : Int

namespace Clock

def ofZone (zone : Zone) (year : Int) : Clock :=
  let january := zone.offsetAtMonth year 1
  let july := zone.offsetAtMonth year 7
  ⟨zone, min january july, max january july⟩

def earliest : Int := -8334601228800000

def latest : Int := 8210266876799999

def clamp (instant : Instant) : Instant :=
  if earliest ≤ instant.toInt ∧ instant.toInt ≤ latest then instant else 0

def civilText (civil : Civil) : List Char :=
  Decimal.padded 2 civil.date.day ++ ['/'] ++ (monthName civil.date.month).toList ++ ['/'] ++
    Decimal.paddedInt 4 civil.date.year ++ [':'] ++ Decimal.padded 2 civil.hour ++ [':'] ++
    Decimal.padded 2 civil.minute ++ [':'] ++ Decimal.padded 2 civil.second

def text (clock : Clock) (instant : Instant) : String :=
  let shown := clamp instant
  let offset := clock.zone.offset shown
  let civil := Civil.ofSeconds (shown.toInt / 1000 + offset)
  let announced := if offset = clock.standard then clock.standard else clock.daylight
  String.ofList (['['] ++ civilText civil ++ [' '] ++ offsetText announced ++ [']'])

end Clock

structure Stamp where
  instant : Instant
  text : String
deriving DecidableEq, Repr

-- How far, in milliseconds, an instant may lie past a stamp that still serves for it.
def window : Int64 := 1000

-- The difference of two instants, held within the range of instants.
def since (now earlier : Instant) : Int64 :=
  let exact := now.toInt - earlier.toInt
  if exact < Int64.minValue.toInt then Int64.minValue
  else if Int64.maxValue.toInt < exact then Int64.maxValue
  else Int64.ofInt exact

structure StampCache where
  clock : Clock
  current : Option Stamp

namespace StampCache

def start (clock : Clock) : StampCache := ⟨clock, none⟩

def fresh? (cache : StampCache) (now : Instant) : Option Stamp :=
  cache.current.filter fun stamp => since now stamp.instant ≤ window

def stampAt (cache : StampCache) (now : Instant) : Stamp × StampCache :=
  match cache.fresh? now with
  | some stamp => (stamp, cache)
  | none =>
      let stamp := ⟨now, cache.clock.text now⟩
      (stamp, { cache with current := some stamp })

end StampCache

end LogRelay.AccessLog
