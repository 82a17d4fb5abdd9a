set_option autoImplicit false

namespace LogRelay.Text

theorem drop_while_mark (mark : Char) (text : List Char) (c : Char) (behind : List Char)
    (dropped : text.dropWhile (· ≠ mark) = c :: behind) : c = mark := by
  have ends := List.head?_dropWhile_not (· ≠ mark) text
  rw [dropped] at ends
  simpa using ends

theorem cut_iff (mark : Char) (text before behind : List Char) :
    (text.takeWhile (· ≠ mark) = before ∧ text.dropWhile (· ≠ mark) = mark :: behind) ↔
      text = before ++ mark :: behind ∧ mark ∉ before := by
  refine ⟨?_, ?_⟩
  · rintro ⟨rfl, rest⟩
    refine ⟨?_, ?_⟩
    · rw [← rest]
      exact List.takeWhile_append_dropWhile.symm
    · intro member
      simpa using List.all_eq_true.mp List.all_takeWhile _ member
  · rintro ⟨rfl, free⟩
    have inside : ∀ c ∈ before, (c ≠ mark : Bool) = true := by
      intro c member
      rw [decide_eq_true_iff]
      rintro rfl
      exact free member
    rw [List.takeWhile_append_of_pos inside, List.dropWhile_append_of_pos inside]
    simp

theorem cut_unique (mark : Char) (first second rest behind : List Char)
    (firstFree : mark ∉ first) (secondFree : mark ∉ second)
    (same : first ++ mark :: rest = second ++ mark :: behind) : first = second ∧ rest = behind := by
  obtain ⟨before, after⟩ := (cut_iff mark _ first rest).mpr ⟨rfl, firstFree⟩
  obtain ⟨front, back⟩ := (cut_iff mark _ second behind).mpr ⟨same, secondFree⟩
  exact ⟨before.symm.trans front, (List.cons.inj (after.symm.trans back)).2⟩

end LogRelay.Text
