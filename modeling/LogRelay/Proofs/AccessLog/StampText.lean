import LogRelay.AccessLog.Stamp
import LogRelay.Proofs.Calendar
import LogRelay.Proofs.Text.Cut
import LogRelay.Proofs.Text.Decimal

/-!
What the text of a stamp says: the form of the text, how it is read, and that what is read is the
instant for which the text was written.
-/
set_option autoImplicit false

namespace LogRelay.AccessLog

structure TwoDigits (text : List Char) (n : Nat) : Prop where
  wide : text.length = 2
  read : Decimal.toNat? text = some n

structure MonthText (text : List Char) (month : Nat) : Prop where
  first : 1 ≤ month
  named : monthNames[month - 1]? = some (String.ofList text)

-- A year in at least four places, of which a minus sign takes one.
inductive YearText : List Char → Int → Prop where
  | plain (digits : List Char) (n : Nat) (wide : 4 ≤ digits.length)
      (read : Decimal.toNat? digits = some n) : YearText digits n
  | minus (digits : List Char) (n : Nat) (wide : 3 ≤ digits.length)
      (read : Decimal.toNat? digits = some n) : YearText ('-' :: digits) (-n)

inductive OffsetText : List Char → Int → Prop where
  | east (hours minutes : List Char) (h m : Nat) (hoursRead : TwoDigits hours h)
      (minutesRead : TwoDigits minutes m) (hour : h < 24) (minute : m < 60) :
      OffsetText ('+' :: hours ++ minutes) (3600 * h + 60 * m)
  | west (hours minutes : List Char) (h m : Nat) (hoursRead : TwoDigits hours h)
      (minutesRead : TwoDigits minutes m) (hour : h < 24) (minute : m < 60) :
      OffsetText ('-' :: hours ++ minutes) (-(3600 * h + 60 * m))

structure StampParts where
  day : List Char
  month : List Char
  year : List Char
  hour : List Char
  minute : List Char
  second : List Char
  offset : List Char

-- `[dd/Mon/yyyy:HH:mm:ss +hhmm]`
def StampParts.text (parts : StampParts) : List Char :=
  '[' :: parts.day ++ '/' :: parts.month ++ '/' :: parts.year ++ ':' :: parts.hour ++
    ':' :: parts.minute ++ ':' :: parts.second ++ ' ' :: parts.offset ++ [']']

structure StampParts.Say (parts : StampParts) (civil : Civil) (offset : Int) : Prop where
  day : TwoDigits parts.day civil.date.day
  month : MonthText parts.month civil.date.month
  year : YearText parts.year civil.date.year
  hour : TwoDigits parts.hour civil.hour
  minute : TwoDigits parts.minute civil.minute
  second : TwoDigits parts.second civil.second
  offset : OffsetText parts.offset offset

def StampText (text : String) (civil : Civil) (offset : Int) : Prop :=
  ∃ parts : StampParts, text = String.ofList parts.text ∧ parts.Say civil offset

theorem two_digits_padded (n : Nat) (small : n < 100) : TwoDigits (Decimal.padded 2 n) n :=
  ⟨Decimal.padded_exact 1 n small, Decimal.padded_read 2 n⟩

theorem year_text_padded (year : Int) : YearText (Decimal.paddedInt 4 year) year := by
  by_cases before : year < 0
  · have written := YearText.minus (Decimal.padded 3 year.natAbs) year.natAbs
      (Decimal.padded_wide 3 _) (Decimal.padded_read 3 _)
    rw [Decimal.paddedInt, if_pos before]
    rwa [Int.ofNat_natAbs_of_nonpos (by omega), Int.neg_neg] at written
  · have written := YearText.plain (Decimal.padded 4 year.natAbs) year.natAbs
      (Decimal.padded_wide 4 _) (Decimal.padded_read 4 _)
    rw [Decimal.paddedInt, if_neg before]
    rwa [Int.natAbs_of_nonneg (by omega)] at written

theorem offset_text_written (offset : Int) (minutes : 60 ∣ offset) (day : offset.natAbs < 86400) :
    OffsetText (offsetText offset) offset := by
  have hours := two_digits_padded (offset.natAbs / 3600) (by omega)
  have rest := two_digits_padded (offset.natAbs / 60 % 60) (by omega)
  by_cases west : offset < 0
  · have written := OffsetText.west _ _ _ _ hours rest (by omega) (by omega)
    rw [offsetText, if_pos west]
    convert written using 1
    omega
  · have written := OffsetText.east _ _ _ _ hours rest (by omega) (by omega)
    rw [offsetText, if_neg west]
    convert written using 1
    omega

theorem month_text_named (month : Nat) (low : 1 ≤ month) (high : month ≤ 12) :
    MonthText (monthName month).toList month := by
  refine ⟨low, ?_⟩
  have inside : month - 1 < monthNames.length := by
    have twelve : monthNames.length = 12 := rfl
    omega
  rw [monthName, List.getElem?_eq_getElem inside]
  simp

theorem digits_free (text : List Char) (n : Nat) (c : Char) (read : Decimal.toNat? text = some n)
    (other : c.isDigit = false) : c ∉ text := by
  intro member
  have digit := List.all_eq_true.mp (Decimal.read_digits text n read) c member
  exact Bool.noConfusion (other.symm.trans digit)

theorem year_free (text : List Char) (year : Int) (c : Char) (read : YearText text year)
    (other : c.isDigit = false) (noSign : c ≠ '-') : c ∉ text := by
  cases read with
  | plain _ n wide read => exact digits_free _ n c read other
  | minus digits n wide read => simp [noSign, digits_free digits n c read other]

theorem month_free (text : List Char) (month : Nat) (read : MonthText text month) :
    '/' ∉ text := by
  have free : ∀ name ∈ monthNames, '/' ∉ name.toList := by decide
  have member := List.mem_of_getElem? read.named
  simpa using free _ member

theorem two_digits_free (text : List Char) (n : Nat) (c : Char) (read : TwoDigits text n)
    (other : c.isDigit = false) : c ∉ text :=
  digits_free text n c read.read other

theorem parts_unique (first second : StampParts) (firstCivil secondCivil : Civil)
    (firstOffset secondOffset : Int) (firstSays : first.Say firstCivil firstOffset)
    (secondSays : second.Say secondCivil secondOffset) (same : first.text = second.text) :
    first = second := by
  simp only [StampParts.text, List.append_assoc, List.cons_append] at same
  obtain ⟨day, afterDay⟩ := Text.cut_unique '/' _ _ _ _
    (two_digits_free _ _ _ firstSays.day rfl) (two_digits_free _ _ _ secondSays.day rfl)
    (List.cons.inj same).2
  obtain ⟨month, afterMonth⟩ := Text.cut_unique '/' _ _ _ _ (month_free _ _ firstSays.month)
    (month_free _ _ secondSays.month) afterDay
  obtain ⟨year, afterYear⟩ := Text.cut_unique ':' _ _ _ _
    (year_free _ _ _ firstSays.year rfl (by decide))
    (year_free _ _ _ secondSays.year rfl (by decide)) afterMonth
  obtain ⟨hour, afterHour⟩ := Text.cut_unique ':' _ _ _ _
    (two_digits_free _ _ _ firstSays.hour rfl) (two_digits_free _ _ _ secondSays.hour rfl) afterYear
  obtain ⟨minute, afterMinute⟩ := Text.cut_unique ':' _ _ _ _
    (two_digits_free _ _ _ firstSays.minute rfl) (two_digits_free _ _ _ secondSays.minute rfl)
    afterHour
  obtain ⟨seconds, afterSecond⟩ := Text.cut_unique ' ' _ _ _ _
    (two_digits_free _ _ _ firstSays.second rfl) (two_digits_free _ _ _ secondSays.second rfl)
    afterMinute
  have offset := List.append_cancel_right afterSecond
  cases first
  cases second
  simp_all

theorem month_unique (text : List Char) (first second : Nat) (one : MonthText text first)
    (other : MonthText text second) : first = second := by
  have distinct : monthNames.Nodup := by decide
  obtain ⟨inside, _⟩ := List.getElem?_eq_some_iff.mp one.named
  have same := (List.getElem?_inj inside distinct).mp (one.named.trans other.named.symm)
  have firstLow := one.first
  have secondLow := other.first
  omega

theorem minus_unread (digits : List Char) (n : Nat) :
    Decimal.toNat? ('-' :: digits) ≠ some n := by
  intro read
  exact digits_free _ n '-' read rfl List.mem_cons_self

theorem year_unique (text : List Char) (first second : Int) (one : YearText text first)
    (other : YearText text second) : first = second := by
  cases one with
  | plain _ n wide read =>
      cases other with
      | plain _ m _ again => rw [Option.some.inj (read.symm.trans again)]
      | minus digits m _ again => exact absurd read (minus_unread digits n)
  | minus digits n wide read =>
      cases other with
      | plain _ m _ again => exact absurd again (minus_unread digits m)
      | minus _ m _ again => rw [Option.some.inj (read.symm.trans again)]

theorem two_digits_unique (text : List Char) (first second : Nat) (one : TwoDigits text first)
    (other : TwoDigits text second) : first = second :=
  Option.some.inj (one.read.symm.trans other.read)

theorem four_digits_unique (hours minutes others behind : List Char) (h m k n : Nat)
    (hoursRead : TwoDigits hours h) (minutesRead : TwoDigits minutes m)
    (othersRead : TwoDigits others k) (behindRead : TwoDigits behind n)
    (same : hours ++ minutes = others ++ behind) : h = k ∧ m = n := by
  obtain ⟨rfl, rfl⟩ := List.append_inj same (hoursRead.wide.trans othersRead.wide.symm)
  exact ⟨two_digits_unique hours h k hoursRead othersRead,
    two_digits_unique minutes m n minutesRead behindRead⟩

theorem offset_unique (text : List Char) (first second : Int) (one : OffsetText text first)
    (other : OffsetText text second) : first = second := by
  cases one with
  | east hours minutes h m hoursRead minutesRead =>
      generalize whole : '+' :: hours ++ minutes = text at other
      cases other with
      | east others behind k n othersRead behindRead =>
          obtain ⟨rfl, rfl⟩ := four_digits_unique _ _ _ _ h m k n hoursRead minutesRead othersRead
            behindRead (List.cons.inj whole).2
          rfl
      | west => exact absurd (List.cons.inj whole).1 (by decide)
  | west hours minutes h m hoursRead minutesRead =>
      generalize whole : '-' :: hours ++ minutes = text at other
      cases other with
      | east => exact absurd (List.cons.inj whole).1 (by decide)
      | west others behind k n othersRead behindRead =>
          obtain ⟨rfl, rfl⟩ := four_digits_unique _ _ _ _ h m k n hoursRead minutesRead othersRead
            behindRead (List.cons.inj whole).2
          rfl

theorem stamp_text_unique (text : String) (first second : Civil) (firstOffset secondOffset : Int)
    (one : StampText text first firstOffset) (other : StampText text second secondOffset) :
    first = second ∧ firstOffset = secondOffset := by
  obtain ⟨parts, written, said⟩ := one
  obtain ⟨others, again, saidToo⟩ := other
  have same : parts.text = others.text := String.ofList_injective (written.symm.trans again)
  cases parts_unique parts others first second _ _ said saidToo same
  obtain ⟨⟨year, month, day⟩, hour, minute, seconds⟩ := first
  obtain ⟨⟨otherYear, otherMonth, otherDay⟩, otherHour, otherMinute, otherSeconds⟩ := second
  obtain rfl : year = otherYear := year_unique _ _ _ said.year saidToo.year
  obtain rfl : month = otherMonth := month_unique _ _ _ said.month saidToo.month
  obtain rfl : day = otherDay := two_digits_unique _ _ _ said.day saidToo.day
  obtain rfl : hour = otherHour := two_digits_unique _ _ _ said.hour saidToo.hour
  obtain rfl : minute = otherMinute := two_digits_unique _ _ _ said.minute saidToo.minute
  obtain rfl : seconds = otherSeconds := two_digits_unique _ _ _ said.second saidToo.second
  exact ⟨rfl, offset_unique _ _ _ said.offset saidToo.offset⟩

theorem civil_text_says (civil : Civil) (offset : Int) (valid : civil.Valid)
    (minutes : 60 ∣ offset) (day : offset.natAbs < 86400) :
    StampText (String.ofList
      (['['] ++ Clock.civilText civil ++ [' '] ++ offsetText offset ++ [']'])) civil offset := by
  have month := valid.date.month
  have inMonth := valid.date.day
  have hour := valid.hour
  have minute := valid.minute
  have second := valid.second
  have short : civil.date.day < 100 := by
    have longest := Date.month_length_le civil.date.year civil.date.month
    omega
  refine ⟨⟨Decimal.padded 2 civil.date.day, (monthName civil.date.month).toList,
    Decimal.paddedInt 4 civil.date.year, Decimal.padded 2 civil.hour,
    Decimal.padded 2 civil.minute, Decimal.padded 2 civil.second, offsetText offset⟩, ?_, ?_⟩
  · simp [StampParts.text, Clock.civilText]
  · exact ⟨two_digits_padded _ short, month_text_named _ month.1 month.2, year_text_padded _,
      two_digits_padded _ (by omega), two_digits_padded _ (by omega),
      two_digits_padded _ (by omega), offset_text_written offset minutes day⟩

-- Of two offsets, the smaller one is standard; the one that holds is announced.
theorem announced_offset (zone : Zone) (year : Int) (instant : Instant)
    (twofold : zone.offset instant = zone.offsetAtMonth year 1 ∨
      zone.offset instant = zone.offsetAtMonth year 7) :
    (if zone.offset instant = (Clock.ofZone zone year).standard
      then (Clock.ofZone zone year).standard else (Clock.ofZone zone year).daylight) =
      zone.offset instant := by
  by_cases standard : zone.offset instant = (Clock.ofZone zone year).standard
  · rw [if_pos standard, standard]
  · rw [if_neg standard]
    simp only [Clock.ofZone] at standard ⊢
    omega

theorem text_within_calendar (zone : Zone) (year : Int) (instant : Instant)
    (twofold : zone.offset instant = zone.offsetAtMonth year 1 ∨
      zone.offset instant = zone.offsetAtMonth year 7)
    (held : Clock.earliest ≤ instant.toInt ∧ instant.toInt ≤ Clock.latest) :
    (Clock.ofZone zone year).text instant = String.ofList (['['] ++
      Clock.civilText (Civil.ofSeconds (instant.toInt / 1000 + zone.offset instant)) ++ [' '] ++
      offsetText (zone.offset instant) ++ [']']) := by
  have shown : Clock.clamp instant = instant := if_pos held
  have sameZone : (Clock.ofZone zone year).zone = zone := rfl
  simp only [Clock.text, shown, sameZone, announced_offset zone year instant twofold]

theorem text_denotes_instant (zone : Zone) (year : Int) (instant : Instant)
    (twofold : ∀ other, zone.offset other = zone.offsetAtMonth year 1 ∨
      zone.offset other = zone.offsetAtMonth year 7)
    (minutes : ∀ other, 60 ∣ zone.offset other ∧ (zone.offset other).natAbs < 86400)
    (held : Clock.earliest ≤ instant.toInt ∧ instant.toInt ≤ Clock.latest) :
    ∃ civil offset,
      (∀ other shift, StampText ((Clock.ofZone zone year).text instant) other shift ↔
        other = civil ∧ shift = offset) ∧
      civil.Valid ∧ civil.sinceEpoch - offset = instant.toInt / 1000 := by
  have valid := Civil.of_seconds_valid (instant.toInt / 1000 + zone.offset instant)
  have written := civil_text_says _ (zone.offset instant) valid (minutes instant).1
    (minutes instant).2
  rw [← text_within_calendar zone year instant (twofold instant) held] at written
  refine ⟨_, zone.offset instant, ?_, valid, ?_⟩
  · intro other shift
    constructor
    · intro read
      exact stamp_text_unique _ other _ shift _ read written
    · intro same
      rw [same.1, same.2]
      exact written
  · rw [Civil.since_epoch_of_seconds]
    omega

def islandZone : Zone :=
  .monthly [-12600, -12600, -12600, -9000, -9000, -9000, -9000, -9000, -9000, -9000, -12600,
    -12600]

theorem island_offsets (instant : Instant) :
    islandZone.offset instant = -12600 ∨ islandZone.offset instant = -9000 := by
  simp only [islandZone, Zone.monthly]
  have month := (Civil.of_seconds_valid (instant.toInt / 1000)).date.month
  generalize (Civil.ofSeconds (instant.toInt / 1000)).date.month = number at month
  obtain ⟨low, high⟩ := month
  interval_cases number <;> decide

-- A millisecond before half past one on the first of March, 1904: still February on the island.
theorem leap_evening_denoted :
    (Clock.ofZone islandZone 2024).text (-2077655400001) = "[29/Feb/1904:21:59:59 -0330]" ∧
      ∃ civil offset,
        (∀ other shift,
          StampText ((Clock.ofZone islandZone 2024).text (-2077655400001)) other shift ↔
            other = civil ∧ shift = offset) ∧
        civil.Valid ∧ civil.sinceEpoch - offset = -2077655401 := by
  have january : islandZone.offsetAtMonth 2024 1 = -12600 := by decide
  have july : islandZone.offsetAtMonth 2024 7 = -9000 := by decide
  refine ⟨by decide +kernel, text_denotes_instant islandZone 2024 (-2077655400001) ?_ ?_ (by decide)⟩
  · intro other
    rw [january, july]
    exact island_offsets other
  · intro other
    rcases island_offsets other with winter | summer
    · rw [winter]
      decide
    · rw [summer]
      decide

end LogRelay.AccessLog
