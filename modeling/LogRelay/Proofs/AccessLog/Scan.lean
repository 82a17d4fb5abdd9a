import LogRelay.AccessLog.Pattern
import LogRelay.Proofs.Text.Cut

/-!
How a pattern is scanned: what each shape of its front adds to the elements, and that a scan which
has come to the end of a closed text goes on as if a pattern began there.
-/
set_option autoImplicit false

namespace LogRelay.AccessLog

-- A text whose directives are all complete: none is begun at its end, and a brace behind a percent
-- sign has its closing brace and its conversion character.
inductive Closed : List Char → Prop where
  | nothing : Closed []
  | plain (c : Char) (rest : List Char) (apart : c ≠ '%') (closed : Closed rest) :
      Closed (c :: rest)
  | directive (c : Char) (rest : List Char) (apart : c ≠ '{') (closed : Closed rest) :
      Closed ('%' :: c :: rest)
  | named (name : List Char) (conversion : Char) (rest : List Char) (free : '}' ∉ name)
      (closed : Closed rest) : Closed ('%' :: '{' :: (name ++ '}' :: conversion :: rest))

theorem plain_closed (text : List Char) (free : '%' ∉ text) : Closed text := by
  induction text with
  | nil => exact .nothing
  | cons c rest ih =>
      rw [List.mem_cons, not_or] at free
      exact .plain c rest (Ne.symm free.1) (ih free.2)

theorem take_named_some (name : List Char) (conversion : Char) (rest : List Char)
    (free : '}' ∉ name) : ∃ shorter,
    takeNamed (name ++ '}' :: conversion :: rest) = some (name, conversion, ⟨rest, shorter⟩) := by
  obtain ⟨before, behind⟩ := (Text.cut_iff '}' _ name (conversion :: rest)).mpr ⟨rfl, free⟩
  have shorter : rest.length < (name ++ '}' :: conversion :: rest).length := by
    simp only [List.length_append, List.length_cons]
    omega
  unfold takeNamed
  split
  · rename_i mark found rest' closing
    have same := closing.symm.trans behind
    simp only [List.cons.injEq] at same
    obtain ⟨_, rfl, rfl⟩ := same
    exact ⟨shorter, by rw [before]⟩
  · rename_i other
    exact absurd behind (other _ _ _)

theorem take_named_split (text name : List Char) (conversion : Char)
    (rest : { rest : List Char // rest.length < text.length })
    (taken : takeNamed text = some (name, conversion, rest)) :
    text = name ++ '}' :: conversion :: rest.1 ∧ '}' ∉ name := by
  unfold takeNamed at taken
  split at taken
  · rename_i mark found rest' closing
    simp only [Option.some.injEq, Prod.mk.injEq] at taken
    obtain ⟨rfl, rfl, rfl⟩ := taken
    rw [Text.drop_while_mark '}' text mark _ closing] at closing
    exact (Text.cut_iff '}' text _ _).mp ⟨rfl, closing⟩
  · cases taken

theorem scan_end (done : List Element) (literal : List Char) :
    scan done literal [] = (flush literal done).reverse := by
  rw [scan]

theorem scan_hanging (done : List Element) (literal : List Char) :
    scan done literal ['%'] = (flush literal done).reverse := by
  rw [scan]

theorem scan_plain (done : List Element) (literal : List Char) (c : Char) (rest : List Char)
    (apart : c ≠ '%') : scan done literal (c :: rest) = scan done (c :: literal) rest := by
  rw [scan]
  all_goals simp [apart]

theorem scan_literal (done : List Element) (literal text rest : List Char) (free : '%' ∉ text) :
    scan done literal (text ++ rest) = scan done (text.reverse ++ literal) rest := by
  induction text generalizing literal with
  | nil => rfl
  | cons c text ih =>
      rw [List.mem_cons, not_or] at free
      rw [List.cons_append, scan_plain _ _ _ _ (Ne.symm free.1), ih _ free.2]
      simp

theorem scan_directive (done : List Element) (literal : List Char) (c : Char) (rest : List Char)
    (apart : c ≠ '{') : scan done literal ('%' :: c :: rest) =
      scan (.ofDirective c :: flush literal done) [] rest := by
  rw [scan]
  all_goals simp [apart]

theorem scan_named (done : List Element) (literal name : List Char) (conversion : Char)
    (rest : List Char) (free : '}' ∉ name) :
    scan done literal ('%' :: '{' :: (name ++ '}' :: conversion :: rest)) =
      scan (.ofNamed (String.ofList name) conversion :: flush literal done) [] rest := by
  obtain ⟨_, taken⟩ := take_named_some name conversion rest free
  rw [scan, taken]

theorem scan_unnamed (done : List Element) (literal rest : List Char)
    (untaken : takeNamed rest = none) : scan done literal ('%' :: '{' :: rest) =
      scan (.ofDirective '{' :: flush literal done) [] rest := by
  rw [scan, untaken]

-- Induction along a scan: by all that can stand at the front of a text.
@[elab_as_elim]
theorem scan_induction {motive : List Char → Prop} (nothing : motive []) (hanging : motive ['%'])
    (plain : ∀ c rest, c ≠ '%' → motive rest → motive (c :: rest))
    (directive : ∀ c rest, c ≠ '{' → motive rest → motive ('%' :: c :: rest))
    (named : ∀ name conversion rest, '}' ∉ name → motive rest →
      motive ('%' :: '{' :: (name ++ '}' :: conversion :: rest)))
    (unnamed : ∀ rest, takeNamed rest = none → motive rest → motive ('%' :: '{' :: rest))
    (text : List Char) : motive text := by
  apply scan.induct (fun _ _ text => motive text) _ _ _ _ _ _ [] [] text
  · intro _ _
    exact nothing
  · intro _ _
    exact hanging
  · intro _ _ rest name conversion rest' shorter taken ih
    obtain ⟨split, free⟩ := take_named_split rest name conversion ⟨rest', shorter⟩ taken
    rw [split]
    exact named name conversion rest' free ih
  · intro _ _ rest untaken ih
    exact unnamed rest untaken ih
  · intro _ _ c rest apart ih
    exact directive c rest apart ih
  · intro _ _ c rest alone _ followed ih
    refine plain c rest (fun percent => ?_) ih
    cases rest with
    | nil => exact alone percent rfl
    | cons next behind => exact followed next behind percent rfl

theorem flush_append (literal : List Char) (done earlier : List Element) :
    flush literal (done ++ earlier) = flush literal done ++ earlier := by
  unfold flush
  split <;> rfl

theorem scan_behind (done earlier : List Element) (literal text : List Char) :
    scan (done ++ earlier) literal text = earlier.reverse ++ scan done literal text := by
  induction text using scan_induction generalizing done literal with
  | nothing => rw [scan_end, scan_end, flush_append, List.reverse_append]
  | hanging => rw [scan_hanging, scan_hanging, flush_append, List.reverse_append]
  | plain c rest apart ih => rw [scan_plain _ _ _ _ apart, scan_plain _ _ _ _ apart, ih]
  | directive c rest apart ih =>
      rw [scan_directive _ _ _ _ apart, scan_directive _ _ _ _ apart, flush_append, ← ih]
      rfl
  | named name conversion rest free ih =>
      rw [scan_named _ _ _ _ _ free, scan_named _ _ _ _ _ free, flush_append, ← ih]
      rfl
  | unnamed rest untaken ih =>
      rw [scan_unnamed _ _ _ untaken, scan_unnamed _ _ _ untaken, flush_append, ← ih]
      rfl

theorem scan_from (done : List Element) (literal text : List Char) :
    scan done literal text = done.reverse ++ scan [] literal text :=
  scan_behind [] done literal text

theorem flush_reverse (literal : List Char) : (flush literal []).reverse = flush literal [] := by
  unfold flush
  split <;> rfl

theorem scan_percent (literal text : List Char) :
    scan [] literal ('%' :: text) = flush literal [] ++ scan [] [] ('%' :: text) := by
  have seam : ∀ element rest, scan (element :: flush literal []) [] rest =
      flush literal [] ++ scan (element :: flush [] []) [] rest := by
    intro element rest
    have behind := scan_behind [element] (flush literal []) [] rest
    rw [flush_reverse] at behind
    exact behind
  cases text with
  | nil =>
      rw [scan_hanging, scan_hanging, flush_reverse]
      exact (List.append_nil _).symm
  | cons c rest =>
      by_cases brace : c = '{'
      · subst brace
        cases taken : takeNamed rest with
        | none => rw [scan_unnamed _ _ _ taken, scan_unnamed _ _ _ taken, seam]
        | some found =>
            obtain ⟨name, conversion, behind⟩ := found
            obtain ⟨split, free⟩ := take_named_split rest name conversion behind taken
            rw [split, scan_named _ _ _ _ _ free, scan_named _ _ _ _ _ free, seam]
      · rw [scan_directive _ _ _ _ brace, scan_directive _ _ _ _ brace, seam]

-- Whatever stands behind a closed text is scanned from one and the same state.
theorem closed_scan (text : List Char) (closed : Closed text) (done : List Element)
    (literal : List Char) : ∃ done' literal', ∀ behind,
    scan done literal (text ++ behind) = scan done' literal' behind := by
  induction closed generalizing done literal with
  | nothing => exact ⟨done, literal, fun _ => rfl⟩
  | plain c rest apart _ ih =>
      obtain ⟨done', literal', reached⟩ := ih done (c :: literal)
      refine ⟨done', literal', fun behind => ?_⟩
      rw [List.cons_append, scan_plain _ _ _ _ apart, reached]
  | directive c rest apart _ ih =>
      obtain ⟨done', literal', reached⟩ := ih (.ofDirective c :: flush literal done) []
      refine ⟨done', literal', fun behind => ?_⟩
      rw [List.cons_append, List.cons_append, scan_directive _ _ _ _ apart, reached]
  | named name conversion rest free _ ih =>
      obtain ⟨done', literal', reached⟩ :=
        ih (.ofNamed (String.ofList name) conversion :: flush literal done) []
      refine ⟨done', literal', fun behind => ?_⟩
      simp only [List.cons_append, List.append_assoc]
      rw [scan_named _ _ _ _ _ free, reached]

theorem closed_scan_percent (text rest : List Char) (closed : Closed text) :
    scan [] [] (text ++ '%' :: rest) = scan [] [] text ++ scan [] [] ('%' :: rest) := by
  obtain ⟨done, literal, reached⟩ := closed_scan text closed [] []
  have alone := reached []
  rw [List.append_nil] at alone
  rw [reached, alone, scan_from done literal ('%' :: rest), scan_from done literal [],
    scan_percent literal rest, scan_end, flush_reverse, List.append_assoc]

theorem scan_behind_element (done : List Element) (element : Element) (text : List Char) :
    scan (element :: done) [] text = done.reverse ++ element :: scan [] [] text := by
  rw [scan_from, List.reverse_cons, List.append_assoc]
  rfl

end LogRelay.AccessLog
