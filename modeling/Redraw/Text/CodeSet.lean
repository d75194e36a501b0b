/-
  Sets of Unicode code points, kept as inclusive ranges in
  increasing order.

  Key definitions include:
    * `CodeSet`
    * `CodeSet.contains`
-/

namespace Redraw

/- A set of code points as a list of inclusive ranges. -/
structure CodeSet where
  ranges : List (Nat × Nat)

namespace CodeSet

/- Membership of a code point. -/
def containsCode
    (s : CodeSet)
    (code : Nat) : Bool :=
  s.ranges.any fun r => r.1 ≤ code && code ≤ r.2

/- Membership of a character. -/
def contains
    (s : CodeSet)
    (c : Char) : Bool :=
  s.containsCode c.toNat

end CodeSet

end Redraw
