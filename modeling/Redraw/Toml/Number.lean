import Redraw.Text.Hex

/-
  Numbers of a settings document.

  Single underscores may stand between digits.  Decimal
  numbers have no leading zeros; other bases are marked and
  have no sign.  Integers are signed words of 64 bits.  Floats
  are kept as written, and only their form and their range are
  checked.
-/

namespace Redraw

namespace Toml

------------------------------------------------------------
-- Digits
------------------------------------------------------------

/- Digits of a base, with underscores between them left out. -/
def digits?
    (base : Nat) :
    List Char → Option (List Nat)
  | [] => none
  | c :: cs =>
      match hexValue? c with
      | none => none
      | some d =>
          if base ≤ d then none
          else
            match cs with
            | [] => some [d]
            | '_' :: cs => (digits? base cs).map (d :: ·)
            | cs => (digits? base cs).map (d :: ·)

/- The number that digits of a base spell. -/
def ofDigits
    (base : Nat)
    (ds : List Nat) : Nat :=
  ds.foldl (fun n d => n * base + d) 0

/- Decimal digits without leading zeros. -/
def plainDigits? : List Char → Option (List Nat)
  | '0' :: cs => if cs.isEmpty then some [0] else none
  | cs => digits? 10 cs

------------------------------------------------------------
-- Integers
------------------------------------------------------------

/- The range of integers. -/
def isWord (n : Int) : Bool :=
  -9223372036854775808 ≤ n && n ≤ 9223372036854775807

/- An integer before its range is checked. -/
def unboundedInteger? : List Char → Option Int
  | '0' :: 'x' :: cs => (digits? 16 cs).map fun ds => ofDigits 16 ds
  | '0' :: 'o' :: cs => (digits? 8 cs).map fun ds => ofDigits 8 ds
  | '0' :: 'b' :: cs => (digits? 2 cs).map fun ds => ofDigits 2 ds
  | '+' :: cs => (plainDigits? cs).map fun ds => ofDigits 10 ds
  | '-' :: cs => (plainDigits? cs).map fun ds => -↑(ofDigits 10 ds)
  | cs => (plainDigits? cs).map fun ds => ofDigits 10 ds

/- An integer. -/
def integer? (cs : List Char) : Option Int :=
  (unboundedInteger? cs).filter isWord

------------------------------------------------------------
-- Floats
------------------------------------------------------------

/- Digits of a number, and underscores. -/
def isDigitOrGap (c : Char) : Bool :=
  c.isDigit || c = '_'

/- An exponent with its sign. -/
def exponent? : List Char → Option Int
  | '+' :: cs => (digits? 10 cs).map fun ds => ofDigits 10 ds
  | '-' :: cs => (digits? 10 cs).map fun ds => -↑(ofDigits 10 ds)
  | cs => (digits? 10 cs).map fun ds => ofDigits 10 ds

/-
  Whether a decimal number is rounded to infinity in double
  precision: whether it is at least halfway from the largest
  finite number to the next power of two.
-/
def overflows
    (digits : List Nat)
    (exponent : Int) : Bool :=
  let significant := digits.dropWhile (· = 0)
  let m := ofDigits 10 significant
  let size := (significant.length : Int) + exponent
  let bound := Nat.pow 2 1024 - Nat.pow 2 970
  if m = 0 || size ≤ 308 then false
  else if 310 ≤ size then true
  else
    bound * Nat.pow 10 (-exponent).toNat
      ≤ m * Nat.pow 10 exponent.toNat

/- An unsigned float: its digits and their exponent. -/
def unsignedFloat? (cs : List Char) : Option (List Nat × Int) :=
  let whole := cs.takeWhile isDigitOrGap
  match cs.drop whole.length with
  | '.' :: rest =>
      let part := rest.takeWhile isDigitOrGap
      (plainDigits? whole).bind fun ds =>
        (digits? 10 part).bind fun fs =>
          match rest.drop part.length with
          | [] => some (ds ++ fs, -↑fs.length)
          | e :: rest =>
              if e = 'e' || e = 'E' then
                (exponent? rest).map fun x =>
                  (ds ++ fs, x - ↑fs.length)
              else none
  | e :: rest =>
      if e = 'e' || e = 'E' then
        (plainDigits? whole).bind fun ds =>
          (exponent? rest).map fun x => (ds, x)
      else none
  | [] => none

/- Names of the floats that no digits spell. -/
def isNamedFloat (cs : List Char) : Bool :=
  cs = ['i', 'n', 'f'] || cs = ['n', 'a', 'n']

/- Whether a text is a float: one too large is none. -/
def isFloat : List Char → Bool
  | '-' :: cs => isNamedFloat cs || (unsignedFloat? cs).isSome
  | '+' :: cs => isNonNegativeFloat cs
  | cs => isNonNegativeFloat cs
where
  isNonNegativeFloat (cs : List Char) : Bool :=
    isNamedFloat cs ||
      ((unsignedFloat? cs).any fun (ds, x) => !overflows ds x)

end Toml

end Redraw
