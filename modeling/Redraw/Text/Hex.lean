/-
  Hexadecimal digits.
-/

namespace Redraw

/- The value of a hexadecimal digit, in either case. -/
def hexValue? (c : Char) : Option Nat :=
  if '0' ≤ c ∧ c ≤ '9' then some (c.toNat - '0'.toNat)
  else if 'a' ≤ c ∧ c ≤ 'f' then some (c.toNat - 'a'.toNat + 10)
  else if 'A' ≤ c ∧ c ≤ 'F' then some (c.toNat - 'A'.toNat + 10)
  else none

/- A number in lower-case hexadecimal digits. -/
def hexDigits (n : Nat) : List Char :=
  Nat.toDigits 16 n

/- A byte as two hexadecimal digits. -/
def hexByte (b : UInt8) : List Char :=
  if b < 16 then '0' :: hexDigits b.toNat else hexDigits b.toNat

end Redraw
