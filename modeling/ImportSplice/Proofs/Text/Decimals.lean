import ImportSplice.Text.Bytes

/-!
Decimal numbers.  What is written consists of digits, at least one of them, and the value
of these digits is the number.
-/

namespace ImportSplice.Bytes

theorem isDigit_digit {digit : Nat} (small : digit < 10) :
    isDigit (UInt8.ofNat (48 + digit)) = true := by
  have value : (UInt8.ofNat (48 + digit)).toNat = 48 + digit := by
    simp
    omega
  simp only [isDigit, Bool.and_eq_true, decide_eq_true_eq, UInt8.le_iff_toNat_le, value]
  constructor
  · simp
  · simp
    omega

theorem decimal_digits (number : Nat) : ∀ byte ∈ decimal number, isDigit byte = true := by
  fun_induction decimal number with
  | case1 number small =>
      intro byte member
      rw [List.mem_singleton] at member
      rw [member]
      exact isDigit_digit small
  | case2 number large inductionHypothesis =>
      intro byte member
      rcases List.mem_append.mp member with earlier | last
      · exact inductionHypothesis byte earlier
      · rw [List.mem_singleton] at last
        rw [last]
        exact isDigit_digit (by omega)

theorem decimalValue_decimal (number : Nat) : decimalValue (decimal number) = number := by
  fun_induction decimal number with
  | case1 number small =>
      simp [decimalValue]
      omega
  | case2 number large inductionHypothesis =>
      rw [decimalValue] at inductionHypothesis ⊢
      rw [List.foldl_append, inductionHypothesis]
      simp
      omega

theorem decimal_ne_nil (number : Nat) : decimal number ≠ [] := by
  rw [decimal]
  split <;> simp

end ImportSplice.Bytes
