import LogRelay.Text.Decimal
import Mathlib.Tactic.IntervalCases

set_option autoImplicit false

namespace LogRelay.Decimal

theorem digit_value (n : Nat) (small : n < 10) : (digit n).toNat - 48 = n := by
  interval_cases n <;> rfl

theorem digit_is_digit (n : Nat) (small : n < 10) : (digit n).isDigit = true := by
  interval_cases n <;> rfl

theorem digits_ne_nil (n : Nat) : digits n ≠ [] := by
  rw [digits]
  by_cases small : n < 10
  · simp [small]
  · simp [small]

theorem value_snoc (text : List Char) (c : Char) :
    value (text ++ [c]) = 10 * value text + (c.toNat - 48) := by
  simp [value]

theorem value_digits (n : Nat) : value (digits n) = n := by
  induction n using Nat.strongRecOn with
  | _ n ih =>
    rw [digits]
    by_cases small : n < 10
    · rw [if_pos small]
      simpa [value] using digit_value n small
    · rw [if_neg small, value_snoc, ih (n / 10) (by omega), digit_value (n % 10) (by omega)]
      omega

theorem all_digits (n : Nat) : (digits n).all Char.isDigit = true := by
  induction n using Nat.strongRecOn with
  | _ n ih =>
    rw [digits]
    by_cases small : n < 10
    · simp [small, digit_is_digit n small]
    · simp [small, ih (n / 10) (by omega), digit_is_digit (n % 10) (by omega)]

theorem digits_length (places n : Nat) (fits : n < 10 ^ (places + 1)) :
    (digits n).length ≤ places + 1 := by
  induction places generalizing n with
  | zero =>
      rw [digits, if_pos (by simpa using fits)]
      simp
  | succ places ih =>
      rw [digits]
      by_cases small : n < 10
      · simp [small]
      · have shorter := ih (n / 10) (by rw [Nat.pow_succ] at fits; omega)
        simp [small]
        omega

theorem value_zeros (count : Nat) (text : List Char) :
    value (List.replicate count '0' ++ text) = value text := by
  induction count with
  | zero => rfl
  | succ count ih => simpa [value, List.replicate_succ] using ih

theorem padded_read (width n : Nat) : toNat? (padded width n) = some n := by
  have nonempty : padded width n ≠ [] := fun empty =>
    digits_ne_nil n (List.append_eq_nil_iff.mp empty).2
  have digitsOnly : (padded width n).all Char.isDigit = true := by
    have zero : Char.isDigit '0' = true := rfl
    simp [padded, List.all_append, all_digits, zero]
  rw [toNat?, if_pos ⟨nonempty, digitsOnly⟩, padded, value_zeros, value_digits]

theorem padded_wide (width n : Nat) : width ≤ (padded width n).length := by
  simp only [padded, List.length_append, List.length_replicate]
  omega

theorem padded_exact (places n : Nat) (fits : n < 10 ^ (places + 1)) :
    (padded (places + 1) n).length = places + 1 := by
  have short := digits_length places n fits
  simp only [padded, List.length_append, List.length_replicate]
  omega

theorem read_digits (text : List Char) (n : Nat) (read : toNat? text = some n) :
    text.all Char.isDigit = true := by
  by_cases digitsOnly : text ≠ [] ∧ text.all Char.isDigit = true
  · exact digitsOnly.2
  · rw [toNat?, if_neg digitsOnly] at read
    cases read

-- A number's digits without a zero in front of them, but for zero itself.
structure Plain (text : List Char) (n : Nat) : Prop where
  read : toNat? text = some n
  lead : text.head? = some '0' → text = ['0']

theorem digits_head (n : Nat) (positive : 0 < n) : (digits n).head? ≠ some '0' := by
  induction n using Nat.strongRecOn with
  | _ n ih =>
    rw [digits]
    by_cases small : n < 10
    · rw [if_pos small, List.head?_cons]
      interval_cases n <;> decide
    · have front := ih (n / 10) (by omega) (by omega)
      obtain ⟨c, rest, split⟩ := List.exists_cons_of_ne_nil (digits_ne_nil (n / 10))
      rw [split] at front
      rw [if_neg small, split]
      exact front

theorem plain_digits (n : Nat) : Plain (digits n) n := by
  refine ⟨by simpa [padded] using padded_read 0 n, fun zero => ?_⟩
  by_cases positive : 0 < n
  · exact absurd zero (digits_head n positive)
  · rw [Nat.eq_zero_of_not_pos positive, digits]
    rfl

theorem two_digits_read (tens ones : Nat) (tensSmall : tens < 10) (onesSmall : ones < 10) :
    toNat? [digit tens, digit ones] = some (10 * tens + ones) := by
  have digitsOnly : [digit tens, digit ones].all Char.isDigit = true := by
    simp [digit_is_digit tens tensSmall, digit_is_digit ones onesSmall]
  rw [toNat?, if_pos ⟨List.cons_ne_nil _ _, digitsOnly⟩]
  simp [value, digit_value tens tensSmall, digit_value ones onesSmall]

end LogRelay.Decimal
