/-
  Decimal numbers in escape sequences.

  Stated here:
    * `length_decimal`: the digit count agrees with the digits
    * `toNat_of_mem_decimal`: the digits are ASCII digits
-/

namespace Redraw

/- A number in decimal digits. -/
def decimal (n : Nat) : List Char :=
  Nat.toDigits 10 n

/- How many decimal digits a number has. -/
def decimalLength (n : Nat) : Nat :=
  if n < 10 then 1 else decimalLength (n / 10) + 1

/- The digit count is the number of digits. -/
theorem length_decimal
    (n : Nat) :
    (decimal n).length = decimalLength n := by
  induction n using Nat.strongRecOn with
  | ind n ih =>
      unfold decimalLength
      split
      · rename_i h
        simp [decimal, Nat.toDigits_of_lt_base h]
      · rename_i h
        have hq := ih (n / 10) (by omega)
        rw [← hq]
        unfold decimal
        rw [Nat.toDigits_of_base_le (by omega) (by omega)]
        simp

/- Every character of a number is a digit. -/
theorem toNat_of_mem_decimal
    {n : Nat}
    {c : Char}
    (h : c ∈ decimal n) :
    0x30 ≤ c.toNat ∧ c.toNat ≤ 0x39 := by
  have hDigit : c.isDigit :=
    Nat.isDigit_of_mem_toDigits (by omega) (by omega) h
  simp only [Char.isDigit, Bool.and_eq_true, decide_eq_true_eq]
    at hDigit
  exact hDigit

end Redraw
