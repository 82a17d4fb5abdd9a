import LogRelay.Proofs.AccessLog.Scan
import Mathlib.Logic.Relation

/-!
What becomes of a pattern's end that is not understood: a percent sign with nothing behind it is
dropped, and a brace without a closing brace in front of a conversion character is a directive like
any other, behind which the pattern goes on.
-/
set_option autoImplicit false

namespace LogRelay.AccessLog

-- Text behind a brace that has no closing brace in it, or only one at its very end.
def Unfinished (text : List Char) : Prop :=
  '}' ∉ text ∨ ∃ name, text = name ++ ['}'] ∧ '}' ∉ name

-- One turn of a scan: the literal character or the directive at the front of a text is passed.
inductive Passed : List Char → List Char → Prop where
  | plain (c : Char) (rest : List Char) (apart : c ≠ '%') : Passed (c :: rest) rest
  | directive (c : Char) (rest : List Char) (apart : c ≠ '{') : Passed ('%' :: c :: rest) rest
  | named (name : List Char) (conversion : Char) (rest : List Char) (free : '}' ∉ name) :
      Passed ('%' :: '{' :: (name ++ '}' :: conversion :: rest)) rest
  | unnamed (rest : List Char) (unfinished : Unfinished rest) : Passed ('%' :: '{' :: rest) rest

-- The scan of a text comes to stand in front of what is left of it, outside every directive.
abbrev Reached : List Char → List Char → Prop := Relation.ReflTransGen Passed

-- Of a brace met as a directive the first closing brace is the last character of the text.
def ClosedAtEnd (text : List Char) : Prop :=
  ∃ name, Reached text ('%' :: '{' :: (name ++ ['}'])) ∧ '}' ∉ name

-- Every brace met as a directive is closed in front of a conversion character.
def AllFinished (text : List Char) : Prop :=
  ∀ behind, Reached text ('%' :: '{' :: behind) → ¬ Unfinished behind

theorem named_finished (name : List Char) (conversion : Char) (rest : List Char)
    (free : '}' ∉ name) : ¬ Unfinished (name ++ '}' :: conversion :: rest) := by
  intro unfinished
  rcases unfinished with absent | ⟨other, same, otherFree⟩
  · exact absent (by simp)
  · have behind := (Text.cut_unique '}' name other _ [] free otherFree same).2
    cases behind

theorem unfinished_iff (text : List Char) : Unfinished text ↔ takeNamed text = none := by
  cases taken : takeNamed text with
  | some found =>
      obtain ⟨name, conversion, rest⟩ := found
      obtain ⟨split, free⟩ := take_named_split text name conversion rest taken
      have finished := named_finished name conversion rest.1 free
      rw [← split] at finished
      exact iff_of_false finished nofun
  | none =>
      refine iff_of_true ?_ rfl
      by_cases member : '}' ∈ text
      · obtain ⟨name, rest, split, free⟩ := List.eq_append_cons_of_mem member
        cases rest with
        | nil => exact .inr ⟨name, split, free⟩
        | cons conversion rest =>
            obtain ⟨_, found⟩ := take_named_some name conversion rest free
            rw [split, found] at taken
            cases taken
      · exact .inl member

theorem passed_named (name : List Char) (conversion : Char) (rest behind : List Char)
    (free : '}' ∉ name)
    (passed : Passed ('%' :: '{' :: (name ++ '}' :: conversion :: rest)) behind) :
    behind = rest := by
  generalize whole : name ++ '}' :: conversion :: rest = text at passed
  cases passed with
  | plain _ _ apart => exact absurd rfl apart
  | directive _ _ apart => exact absurd rfl apart
  | named other otherConversion _ otherFree =>
      have same := (Text.cut_unique '}' name other _ _ free otherFree whole).2
      exact (List.cons.inj same).2.symm
  | unnamed _ unfinished =>
      rw [← whole] at unfinished
      exact absurd unfinished (named_finished name conversion rest free)

theorem passed_unique (text rest behind : List Char) (first : Passed text rest)
    (second : Passed text behind) : behind = rest := by
  cases first with
  | plain c _ apart =>
      cases second with
      | plain => rfl
      | directive | named | unnamed => exact absurd rfl apart
  | directive c _ apart =>
      cases second with
      | plain _ _ percent => exact absurd rfl percent
      | directive => rfl
      | named | unnamed => exact absurd rfl apart
  | named name conversion _ free => exact passed_named name conversion rest behind free second
  | unnamed _ unfinished =>
      cases second with
      | plain _ _ percent => exact absurd rfl percent
      | directive _ _ apart => exact absurd rfl apart
      | named name conversion _ free =>
          exact absurd unfinished (named_finished name conversion behind free)
      | unnamed => rfl

theorem reached_iff (text rest behind : List Char) (passed : Passed text rest) :
    Reached text behind ↔ behind = text ∨ Reached rest behind := by
  refine ⟨fun reached => ?_, fun reached => ?_⟩
  · rcases reached.cases_head with same | ⟨next, step, later⟩
    · exact .inl same.symm
    · rw [passed_unique text rest next passed step] at later
      exact .inr later
  · rcases reached with same | later
    · rw [same]
    · exact later.head passed

theorem reached_end_iff (text rest : List Char) (passed : Passed text rest) :
    Reached text [] ↔ Reached rest [] := by
  rw [reached_iff text rest [] passed]
  refine or_iff_right (fun empty => ?_)
  rw [← empty] at passed
  cases passed

theorem hanging_unended : ¬ Reached ['%'] [] := by
  intro ends
  rcases ends.cases_head with same | ⟨next, step, _⟩
  · cases same
  · cases step with
    | plain _ _ apart => exact apart rfl

theorem ended_finished_iff (text rest : List Char) (passed : Passed text rest) :
    Reached text [] ∧ AllFinished text ↔
      (∀ behind, text = '%' :: '{' :: behind → ¬ Unfinished behind) ∧
        Reached rest [] ∧ AllFinished rest := by
  rw [reached_end_iff text rest passed]
  simp only [AllFinished, reached_iff text rest _ passed, or_imp, forall_and, eq_comm]
  exact and_left_comm

theorem closed_iff_reached (text : List Char) :
    Closed text ↔ Reached text [] ∧ AllFinished text := by
  refine ⟨fun closed => ?_, ?_⟩
  · induction closed with
    | nothing =>
        refine ⟨.refl, fun behind reached => ?_⟩
        rcases reached.cases_head with same | ⟨next, step, _⟩
        · cases same
        · cases step
    | plain c rest apart _ ih =>
        refine (ended_finished_iff _ rest (.plain c rest apart)).mpr ⟨fun behind front => ?_, ih⟩
        exact absurd (List.cons.inj front).1 apart
    | directive c rest apart _ ih =>
        refine (ended_finished_iff _ rest (.directive c rest apart)).mpr
          ⟨fun behind front => ?_, ih⟩
        exact absurd (List.cons.inj (List.cons.inj front).2).1 apart
    | named name conversion rest free _ ih =>
        refine (ended_finished_iff _ rest (.named name conversion rest free)).mpr
          ⟨fun behind front => ?_, ih⟩
        rw [← (List.cons.inj (List.cons.inj front).2).2]
        exact named_finished name conversion rest free
  · induction text using scan_induction with
    | nothing => exact fun _ => .nothing
    | hanging => exact fun tidy => absurd tidy.1 hanging_unended
    | plain c rest apart ih =>
        intro tidy
        exact .plain c rest apart (ih ((ended_finished_iff _ rest (.plain c rest apart)).mp tidy).2)
    | directive c rest apart ih =>
        intro tidy
        exact .directive c rest apart
          (ih ((ended_finished_iff _ rest (.directive c rest apart)).mp tidy).2)
    | named name conversion rest free ih =>
        intro tidy
        exact .named name conversion rest free
          (ih ((ended_finished_iff _ rest (.named name conversion rest free)).mp tidy).2)
    | unnamed rest untaken _ =>
        exact fun tidy => absurd ((unfinished_iff rest).mpr untaken) (tidy.2 rest .refl)

theorem closed_at_end_iff (text rest : List Char) (passed : Passed text rest)
    (other : ∀ name, text = '%' :: '{' :: (name ++ ['}']) → '}' ∈ name) :
    ClosedAtEnd text ↔ ClosedAtEnd rest := by
  refine ⟨fun closing => ?_, fun closing => ?_⟩
  · obtain ⟨name, reached, free⟩ := closing
    rcases (reached_iff text rest _ passed).mp reached with same | later
    · exact absurd (other name same.symm) free
    · exact ⟨name, later, free⟩
  · obtain ⟨name, reached, free⟩ := closing
    exact ⟨name, reached.head passed, free⟩

theorem nothing_not_closed_at_end : ¬ ClosedAtEnd [] := by
  intro closing
  obtain ⟨name, reached, _⟩ := closing
  rcases reached.cases_head with same | ⟨next, step, _⟩
  · cases same
  · cases step

-- The brace was a directive by itself, and with a percent sign behind it begins a name.
theorem scan_percent_names (done : List Element) (literal name : List Char) (free : '}' ∉ name) :
    scan done literal ('%' :: '{' :: (name ++ ['}', '%'])) ≠
      scan done literal ('%' :: '{' :: (name ++ ['}'])) := by
  have untaken := (unfinished_iff (name ++ ['}'])).mp (.inr ⟨name, rfl, free⟩)
  rw [scan_named _ _ _ _ _ free, scan_unnamed _ _ _ untaken, scan_behind_element,
    scan_behind_element]
  intro same
  have first := (List.cons.inj (List.append_cancel_left same)).1
  cases first

-- A percent sign more is dropped, unless it completes a brace that was closed at the end.
theorem scan_percent_behind (done : List Element) (literal text : List Char)
    (ends : Reached text []) :
    scan done literal (text ++ ['%']) = scan done literal text ↔ ¬ ClosedAtEnd text := by
  induction text using scan_induction generalizing done literal with
  | nothing =>
      rw [List.nil_append, scan_hanging, scan_end]
      exact iff_of_true rfl nothing_not_closed_at_end
  | hanging => exact absurd ends hanging_unended
  | plain c rest apart ih =>
      have passed := Passed.plain c rest apart
      rw [closed_at_end_iff _ rest passed fun name same => absurd (List.cons.inj same).1 apart,
        List.cons_append, scan_plain _ _ _ _ apart, scan_plain _ _ _ _ apart]
      exact ih done (c :: literal) ((reached_end_iff _ rest passed).mp ends)
  | directive c rest apart ih =>
      have passed := Passed.directive c rest apart
      rw [closed_at_end_iff _ rest passed fun name same =>
          absurd (List.cons.inj (List.cons.inj same).2).1 apart,
        List.cons_append, List.cons_append, scan_directive _ _ _ _ apart,
        scan_directive _ _ _ _ apart]
      exact ih _ [] ((reached_end_iff _ rest passed).mp ends)
  | named name conversion rest free ih =>
      have passed := Passed.named name conversion rest free
      have other : ∀ front, '%' :: '{' :: (name ++ '}' :: conversion :: rest) =
          '%' :: '{' :: (front ++ ['}']) → '}' ∈ front := by
        intro front same
        have split := (List.cons.inj (List.cons.inj same).2).2
        by_cases member : '}' ∈ front
        · exact member
        · exact absurd (.inr ⟨front, split, member⟩) (named_finished name conversion rest free)
      rw [closed_at_end_iff _ rest passed other]
      simp only [List.cons_append, List.append_assoc]
      rw [scan_named _ _ _ _ _ free, scan_named _ _ _ _ _ free]
      exact ih _ [] ((reached_end_iff _ rest passed).mp ends)
  | unnamed rest untaken ih =>
      have unfinished := (unfinished_iff rest).mpr untaken
      have passed := Passed.unnamed rest unfinished
      by_cases member : '}' ∈ rest
      · obtain ⟨name, rfl, free⟩ := unfinished.resolve_left fun absent => absent member
        refine iff_of_false ?_ fun silent => silent ⟨name, .refl, free⟩
        simpa using scan_percent_names done literal name free
      · have longer : '}' ∉ rest ++ ['%'] := by simp [member]
        have other : ∀ name, '%' :: '{' :: rest = '%' :: '{' :: (name ++ ['}']) → '}' ∈ name := by
          intro name same
          have split := (List.cons.inj (List.cons.inj same).2).2
          exact absurd (by simp [split]) member
        rw [closed_at_end_iff _ rest passed other, List.cons_append, List.cons_append,
          scan_unnamed _ _ _ untaken, scan_unnamed _ _ _ ((unfinished_iff _).mp (.inl longer))]
        exact ih _ [] ((reached_end_iff _ rest passed).mp ends)

theorem of_named_known (name : String) (conversion c : Char) :
    Element.ofNamed name conversion ≠ .unknown (some c) := by
  unfold Element.ofNamed
  repeat' split
  all_goals nofun

theorem scan_brace_iff (text : List Char) :
    scan [] [] ('%' :: '{' :: text) = .unknown (some '{') :: scan [] [] text ↔
      Unfinished text := by
  have brace : Element.ofDirective '{' = .unknown (some '{') := by decide
  rw [unfinished_iff]
  cases taken : takeNamed text with
  | none =>
      rw [scan_unnamed _ _ _ taken, scan_behind_element, brace]
      exact iff_of_true rfl rfl
  | some found =>
      obtain ⟨name, conversion, rest⟩ := found
      obtain ⟨split, free⟩ := take_named_split text name conversion rest taken
      refine iff_of_false (fun same => ?_) nofun
      rw [split, scan_named _ _ _ _ _ free, scan_behind_element] at same
      exact of_named_known _ _ _ (List.cons.inj same).1

theorem broken_tails_degrade (text tail : String) (ends : Reached text.toList []) :
    ((Pattern.compile (text ++ "%")).elements = (Pattern.compile text).elements ↔
      ¬ ClosedAtEnd text.toList) ∧
    (AllFinished text.toList →
      ((Pattern.compile (text ++ "%\x7b" ++ tail)).elements =
          (Pattern.compile text).elements ++
            .unknown (some '{') :: (Pattern.compile tail).elements ↔
        Unfinished tail.toList)) := by
  simp only [Pattern.compile, elementsOf, String.toList_append]
  refine ⟨scan_percent_behind [] [] text.toList ends, fun finished => ?_⟩
  have closed := (closed_iff_reached text.toList).mpr ⟨ends, finished⟩
  have begun : text.toList ++ "%\x7b".toList ++ tail.toList =
      text.toList ++ '%' :: '{' :: tail.toList := by simp
  rw [begun, closed_scan_percent _ _ closed, List.append_cancel_left_eq]
  exact scan_brace_iff tail.toList

theorem all_finished_not_closed (text : List Char) (finished : AllFinished text) :
    ¬ ClosedAtEnd text := by
  intro closing
  obtain ⟨name, reached, free⟩ := closing
  exact finished _ reached (.inr ⟨name, rfl, free⟩)

def namedText : String := "%\x7b%\x7bx\x7di|%h"

def openTail : String := "y%\x7b\x7d"

theorem named_text_closed : Closed namedText.toList :=
  .named ['%', '{', 'x'] 'i' _ (by decide) <| .plain '|' _ (by decide) <|
    .directive 'h' _ (by decide) .nothing

theorem tails_of_named_text :
    (Pattern.compile (namedText ++ "%")).elements =
        [.requestHeader "%\x7bx", .literal "|", .host] ∧
      (Pattern.compile (namedText ++ "%\x7b" ++ openTail)).elements =
        [.requestHeader "%\x7bx", .literal "|", .host, .unknown (some '{'), .literal "y",
          .unknown (some '{'), .literal "\x7d"] := by
  obtain ⟨ends, finished⟩ := (closed_iff_reached _).mp named_text_closed
  have unfinished : Unfinished openTail.toList := .inr ⟨['y', '%', '{'], by decide, by decide⟩
  obtain ⟨dropped, begun⟩ := broken_tails_degrade namedText openTail ends
  refine ⟨(dropped.mpr (all_finished_not_closed _ finished)).trans ?_,
    ((begun finished).mpr unfinished).trans ?_⟩
  · decide +kernel
  · decide +kernel

end LogRelay.AccessLog
