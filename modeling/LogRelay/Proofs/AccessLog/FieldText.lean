import LogRelay.Proofs.AccessLog.LineText
import LogRelay.Proofs.AccessLog.StampText

/-!
What single fields show in a line: the request line shows what its parts show beside one another,
and elapsed time is shown in whole milliseconds, or in seconds cut off behind their hundredths.
-/
set_option autoImplicit false

namespace LogRelay.AccessLog

section Writing

variable (request : Request) (moment : Moment)

theorem write_on_exchanged (line : String) (cache : StampCache)
    (old new before after : List Element)
    (oldUndated : .dateTime ∉ old) (newUndated : .dateTime ∉ new)
    (same : ∀ stamp, String.join (old.map (Element.shown request moment stamp)) =
      String.join (new.map (Element.shown request moment stamp))) :
    writeOn request moment line cache (before ++ (old ++ after)) =
      writeOn request moment line cache (before ++ (new ++ after)) := by
  rw [write_on_shown, write_on_shown]
  simp only [List.map_append, String.join_append, List.mem_append, same, oldUndated, newUndated]

end Writing

def requestLineParts : List Element :=
  [.method, .literal " ", .uri, .query, .literal " ", .protocol]

theorem scan_request_line (behind : List Char) :
    scan [] [] ('%' :: 'r' :: behind) = [.requestLine] ++ scan [] [] behind := by
  rw [scan_directive _ _ 'r' _ (by decide), scan_behind_element]
  rfl

theorem scan_request_line_parts (behind : List Char) :
    scan [] [] ("%m %U%q %H".toList ++ behind) = requestLineParts ++ scan [] [] behind := by
  have text : "%m %U%q %H".toList ++ behind =
      '%' :: 'm' :: ' ' :: '%' :: 'U' :: '%' :: 'q' :: ' ' :: '%' :: 'H' :: behind := rfl
  rw [text, scan_directive _ _ 'm' _ (by decide), scan_plain _ _ ' ' _ (by decide),
    scan_directive _ _ 'U' _ (by decide), scan_directive _ _ 'q' _ (by decide),
    scan_plain _ _ ' ' _ (by decide), scan_directive _ _ 'H' _ (by decide), scan_from]
  rfl

theorem request_line_from_parts (front behind : String) (closed : Closed front.toList)
    (request : Request) (moment : Moment) (cache : StampCache) :
    (Pattern.compile (front ++ "%r" ++ behind)).write request moment cache =
      (Pattern.compile (front ++ "%m %U%q %H" ++ behind)).write request moment cache := by
  have whole : elementsOf (front ++ "%r" ++ behind) =
      elementsOf front ++ ([.requestLine] ++ elementsOf behind) := by
    rw [elementsOf, String.toList_append, String.toList_append, List.append_assoc]
    exact (closed_scan_percent _ _ closed).trans (congrArg _ (scan_request_line behind.toList))
  have parts : elementsOf (front ++ "%m %U%q %H" ++ behind) =
      elementsOf front ++ (requestLineParts ++ elementsOf behind) := by
    rw [elementsOf, String.toList_append, String.toList_append, List.append_assoc]
    exact (closed_scan_percent _ _ closed).trans
      (congrArg _ (scan_request_line_parts behind.toList))
  rw [Pattern.write, Pattern.write, Pattern.compile, Pattern.compile, whole, parts]
  apply write_on_exchanged
  · decide
  · decide
  · intro stamp
    simp [requestLineParts, Element.shown, Element.text, requestLine, String.append_assoc]

theorem visit_request_line :
    ((Pattern.compile ("%\x7bid\x7dc \"" ++ "%r" ++ " %\x7bx")).write visit midnight
      (.start universalClock)).1 = "7 \"GET /x - ???\x7b???x" := by
  have closed : Closed "%\x7bid\x7dc \"".toList :=
    .named ['i', 'd'] 'c' _ (by decide) <| .plain ' ' _ (by decide) <|
      .plain '"' _ (by decide) .nothing
  rw [request_line_from_parts _ " %\x7bx" closed visit midnight (.start universalClock)]
  decide +kernel

inductive SecondsText : List Char → Nat → Prop where
  | written (seconds hundredths : List Char) (s h : Nat) (secondsRead : Decimal.Plain seconds s)
      (hundredthsRead : TwoDigits hundredths h) :
      SecondsText (seconds ++ '.' :: hundredths) (100 * s + h)

theorem seconds_text_written (milliseconds : Nat) :
    SecondsText (secondsText milliseconds).toList (milliseconds / 10) := by
  have hundredths : TwoDigits [Decimal.digit (milliseconds % 1000 / 100),
      Decimal.digit (milliseconds % 1000 % 100 / 10)]
      (10 * (milliseconds % 1000 / 100) + milliseconds % 1000 % 100 / 10) :=
    ⟨rfl, Decimal.two_digits_read _ _ (by omega) (by omega)⟩
  have seconds := Decimal.plain_digits (milliseconds / 1000)
  have written := SecondsText.written _ _ _ _ seconds hundredths
  have total : 100 * (milliseconds / 1000) +
      (10 * (milliseconds % 1000 / 100) + milliseconds % 1000 % 100 / 10) = milliseconds / 10 := by
    omega
  rw [total] at written
  simpa [secondsText] using written

theorem seconds_text_unique (text : List Char) (first second : Nat)
    (one : SecondsText text first) (other : SecondsText text second) : second = first := by
  cases one with
  | written seconds hundredths s h secondsRead hundredthsRead =>
      generalize whole : seconds ++ '.' :: hundredths = text at other
      cases other with
      | written seconds' hundredths' s' h' secondsRead' hundredthsRead' =>
          obtain ⟨rfl, rfl⟩ := Text.cut_unique '.' _ _ _ _
            (digits_free _ _ '.' secondsRead.read rfl) (digits_free _ _ '.' secondsRead'.read rfl)
            whole
          cases secondsRead.read.symm.trans secondsRead'.read
          cases hundredthsRead.read.symm.trans hundredthsRead'.read
          rfl

theorem seconds_text_iff (milliseconds shown : Nat) :
    SecondsText (secondsText milliseconds).toList shown ↔ shown = milliseconds / 10 := by
  refine ⟨seconds_text_unique _ _ _ (seconds_text_written milliseconds), fun same => ?_⟩
  rw [same]
  exact seconds_text_written milliseconds

theorem directive_line (pattern : String) (c : Char) (spelled : pattern.toList = ['%', c])
    (apart : c ≠ '{') (request : Request) (moment : Moment) (cache : StampCache) :
    ((Pattern.compile pattern).write request moment cache).1 =
      (Element.ofDirective c).shown request moment (cache.stampAt moment.now).1.text := by
  rw [pattern_line, Pattern.compile, elementsOf, spelled, scan_directive _ _ c _ apart, scan_end]
  simp [flush]

theorem milliseconds_mono (moment longer : Moment)
    (lasts : moment.elapsedNanos ≤ longer.elapsedNanos) :
    moment.milliseconds ≤ longer.milliseconds := by
  have whole := Nat.div_le_div_right (c := 1000000) lasts
  rw [Moment.milliseconds, Moment.milliseconds]
  omega

theorem elapsed_time_cut_off (request : Request) (cache : StampCache) (moment : Moment) :
    let line := fun (pattern : String) (moment : Moment) =>
      ((Pattern.compile pattern).write request moment cache).1.toList
    let m := min (moment.elapsedNanos / 1000000) (2 ^ 64 - 1)
    Decimal.Plain (line "%D" moment) m ∧
    (∀ shown, SecondsText (line "%T" moment) shown ↔ shown = m / 10) ∧
    (∀ shown, SecondsText (line "%T" moment) shown → 10 * shown ≤ m ∧ m < 10 * shown + 10) ∧
    ∀ longer : Moment, moment.elapsedNanos ≤ longer.elapsedNanos →
      (∀ shown more, Decimal.Plain (line "%D" moment) shown →
        Decimal.Plain (line "%D" longer) more → shown ≤ more) ∧
      ∀ shown more, SecondsText (line "%T" moment) shown →
        SecondsText (line "%T" longer) more → shown ≤ more := by
  intro line m
  have whole : ∀ moment : Moment, line "%D" moment = Decimal.digits moment.milliseconds := by
    intro moment
    simp only [line]
    rw [directive_line "%D" 'D' rfl (by decide)]
    exact String.toList_ofList
  have cut : ∀ moment : Moment, line "%T" moment = (secondsText moment.milliseconds).toList := by
    intro moment
    simp only [line]
    rw [directive_line "%T" 'T' rfl (by decide)]
    rfl
  have read : ∀ shown, SecondsText (line "%T" moment) shown ↔ shown = m / 10 := by
    intro shown
    rw [cut moment]
    exact seconds_text_iff moment.milliseconds shown
  refine ⟨?_, read, ?_, ?_⟩
  · rw [whole moment]
    exact Decimal.plain_digits moment.milliseconds
  · intro shown reads
    have value := (read shown).mp reads
    omega
  · intro longer lasts
    have rises := milliseconds_mono moment longer lasts
    rw [whole moment, whole longer, cut moment, cut longer]
    refine ⟨fun shown more reads readsMore => ?_, fun shown more reads readsMore => ?_⟩
    · cases reads.read.symm.trans (Decimal.plain_digits moment.milliseconds).read
      cases readsMore.read.symm.trans (Decimal.plain_digits longer.milliseconds).read
      exact rises
    · rw [seconds_text_iff] at reads readsMore
      omega

def lap : Moment := ⟨61059999999, 0, none⟩

def longest : Moment := ⟨18446744073709551615999999999, 0, none⟩

theorem lap_before_longest :
    let line := fun moment => ((Pattern.compile "%T").write visit moment (.start universalClock)).1
    line lap = "61.05" ∧ line longest = "18446744073709551.61" ∧
      SecondsText (line lap).toList 6105 ∧
      SecondsText (line longest).toList 1844674407370955161 ∧ 6105 ≤ 1844674407370955161 := by
  intro line
  obtain ⟨_, read, _, rises⟩ := elapsed_time_cut_off visit (.start universalClock) lap
  obtain ⟨_, readLongest, _⟩ := elapsed_time_cut_off visit (.start universalClock) longest
  have shown := (read 6105).mpr (by decide)
  have more := (readLongest 1844674407370955161).mpr (by decide)
  refine ⟨?_, ?_, shown, more, (rises longest (by decide)).2 _ _ shown more⟩
  · decide +kernel
  · decide +kernel

end LogRelay.AccessLog
