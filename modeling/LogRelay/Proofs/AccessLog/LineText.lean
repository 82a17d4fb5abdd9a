import LogRelay.AccessLog.Line
import LogRelay.Proofs.AccessLog.Scan
import LogRelay.Proofs.AccessLog.StampCache

/-!
What the line of a pattern consists of: the texts of its elements in order, with one time stamp for
all of them. Lines therefore join where patterns do, if the first pattern is closed.
-/
set_option autoImplicit false

namespace LogRelay.AccessLog

theorem StampCache.stamp_at_again (cache : StampCache) (now : Instant) :
    (cache.stampAt now).2.stampAt now = cache.stampAt now := by
  cases found : cache.fresh? now with
  | some stamp =>
      have asked : cache.stampAt now = (stamp, cache) := by rw [stampAt, found]
      rw [asked]
      exact asked
  | none =>
      have asked : cache.stampAt now = (⟨now, cache.clock.text now⟩,
          { cache with current := some ⟨now, cache.clock.text now⟩ }) := by rw [stampAt, found]
      have near : since now now ≤ window := (since_window now now).mpr (by omega)
      have serves : (cache.stampAt now).2.fresh? now = some ⟨now, cache.clock.text now⟩ := by
        rw [asked]
        simp [fresh?, near]
      rw [stampAt, serves, asked]

def Element.shown (request : Request) (moment : Moment) (stamp : String) : Element → String
  | .dateTime => stamp
  | element => element.text request moment

section Writing

variable (request : Request) (moment : Moment)

theorem write_stamp (cache : StampCache) : Element.dateTime.write request moment cache =
    ((cache.stampAt moment.now).1.text, (cache.stampAt moment.now).2) := rfl

theorem write_other (stamp : String) (cache : StampCache) (element : Element)
    (other : element ≠ .dateTime) :
    element.write request moment cache = (element.shown request moment stamp, cache) := by
  cases element <;> first | rfl | exact absurd rfl other

theorem write_on_cons (line : String) (cache : StampCache) (element : Element)
    (rest : List Element) : writeOn request moment line cache (element :: rest) =
      writeOn request moment (line ++ (element.write request moment cache).1)
        (element.write request moment cache).2 rest := rfl

theorem write_on_shown (line : String) (cache : StampCache) (elements : List Element) :
    writeOn request moment line cache elements =
      (line ++ String.join
          (elements.map (Element.shown request moment (cache.stampAt moment.now).1.text)),
        if .dateTime ∈ elements then (cache.stampAt moment.now).2 else cache) := by
  induction elements generalizing line cache with
  | nil => simp [writeOn]
  | cons element rest ih =>
      by_cases dated : element = .dateTime
      · subst dated
        rw [write_on_cons, write_stamp, ih, StampCache.stamp_at_again]
        simp [Element.shown, String.append_assoc]
      · have differs : Element.dateTime ≠ element := Ne.symm dated
        rw [write_on_cons, write_other request moment (cache.stampAt moment.now).1.text _ _ dated,
          ih]
        simp [String.append_assoc, differs]

theorem pattern_line (pattern : Pattern) (cache : StampCache) :
    (pattern.write request moment cache).1 = String.join
      (pattern.elements.map (Element.shown request moment (cache.stampAt moment.now).1.text)) := by
  rw [Pattern.write, write_on_shown, String.empty_append]

variable (stamp : String)

theorem shown_flush (literal : List Char) :
    String.join ((flush literal []).map (Element.shown request moment stamp)) =
      String.ofList literal.reverse := by
  by_cases none : literal = []
  · subst none
    rfl
  · rw [flush, if_neg none]
    simp [Element.shown, Element.text]

-- Literal text read so far shows in front of what the rest shows by itself.
theorem shown_scan (literal text : List Char) :
    String.join ((scan [] literal text).map (Element.shown request moment stamp)) =
      String.ofList literal.reverse ++
        String.join ((scan [] [] text).map (Element.shown request moment stamp)) := by
  induction text generalizing literal with
  | nil =>
      rw [scan_end, scan_end, flush_reverse, flush_reverse, shown_flush, shown_flush]
      simp
  | cons c rest ih =>
      by_cases percent : c = '%'
      · subst percent
        rw [scan_percent, List.map_append, String.join_append, shown_flush]
      · rw [scan_plain _ _ _ _ percent, scan_plain _ _ _ _ percent, ih, ih [c]]
        simp only [List.reverse_cons, List.reverse_nil, List.nil_append, String.ofList_append,
          String.append_assoc]

theorem shown_closed (text behind : List Char) (closed : Closed text) :
    String.join ((scan [] [] (text ++ behind)).map (Element.shown request moment stamp)) =
      String.join ((scan [] [] text).map (Element.shown request moment stamp)) ++
        String.join ((scan [] [] behind).map (Element.shown request moment stamp)) := by
  obtain ⟨done, literal, reached⟩ := closed_scan text closed [] []
  have alone := reached []
  rw [List.append_nil] at alone
  rw [reached, alone, scan_from done literal behind, scan_from done literal [], List.map_append,
    List.map_append, String.join_append, String.join_append, shown_scan _ _ _ literal behind,
    shown_scan _ _ _ literal [], scan_end]
  simp [flush, String.append_assoc]

theorem shown_literal (text : List Char) (free : '%' ∉ text) :
    String.join ((scan [] [] text).map (Element.shown request moment stamp)) =
      String.ofList text := by
  have taken := scan_literal [] [] text [] free
  rw [List.append_nil, List.append_nil] at taken
  rw [taken, scan_end, flush_reverse, shown_flush, List.reverse_reverse]

end Writing

theorem line_of_joined_patterns (first second : String) (closed : Closed first.toList)
    (request : Request) (moment : Moment) (cache : StampCache) :
    let line := fun pattern => ((Pattern.compile pattern).write request moment cache).1
    let part := fun elements => (writeOn request moment "" cache elements).1
    line (first ++ second) = line first ++ line second ∧
    (∀ pattern before after, (Pattern.compile pattern).elements = before ++ .dateTime :: after →
      line pattern = part before ++ (cache.stampAt moment.now).1.text ++ part after) ∧
    ∀ plain : String, '%' ∉ plain.toList → line (plain ++ second) = plain ++ line second := by
  intro line part
  have joins : ∀ text : String, Closed text.toList →
      line (text ++ second) = line text ++ line second := by
    intro text ends
    simp only [line, pattern_line, Pattern.compile, elementsOf, String.toList_append]
    exact shown_closed request moment _ _ _ ends
  refine ⟨joins first closed, ?_, ?_⟩
  · intro pattern before after split
    simp only [line, part, pattern_line, split, write_on_shown, String.empty_append]
    simp [Element.shown, String.append_assoc]
  · intro plain free
    have verbatim : line plain = plain := by
      simp only [line, pattern_line, Pattern.compile, elementsOf]
      rw [shown_literal request moment _ _ free, String.ofList_toList]
    rw [joins plain (plain_closed _ free), verbatim]

def visit : Request :=
  { Request.blank with method := some "GET", uri := some "/x", cookies := [("id", "7")] }

def midnight : Moment := ⟨0, 0, none⟩

theorem visit_closed : Closed "%m %\x7bid\x7dc|%t ".toList :=
  .directive 'm' _ (by decide) <| .plain ' ' _ (by decide) <|
    .named ['i', 'd'] 'c' _ (by decide) <| .plain '|' _ (by decide) <|
    .directive 't' _ (by decide) <| .plain ' ' _ (by decide) .nothing

theorem visit_line :
    ((Pattern.compile ("%m %\x7bid\x7dc|%t " ++ "%\x7bx at %U%")).write visit midnight
      (.start universalClock)).1 = "GET 7|[01/Jan/1970:00:00:00 +0000] ???\x7b???x at /x" := by
  have joined := line_of_joined_patterns _ "%\x7bx at %U%" visit_closed visit midnight
    (.start universalClock)
  refine joined.1.trans ?_
  decide +kernel

end LogRelay.AccessLog
