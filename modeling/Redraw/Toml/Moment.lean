/-
  Dates and times of a settings document.

  A date is a day that exists; a time has seconds, maybe with
  a fraction, and a second of sixty is a leap second.  A time
  zone follows only a date with a time.
-/

namespace Redraw

namespace Toml

/- A number of so many decimal digits, and what follows it. -/
def fixedNumber? :
    Nat → Nat → List Char → Option (Nat × List Char)
  | 0, n, cs => some (n, cs)
  | _ + 1, _, [] => none
  | k + 1, n, c :: cs =>
      if c.isDigit then
        fixedNumber? k (n * 10 + (c.toNat - '0'.toNat)) cs
      else none

/- A number of two digits up to a bound. -/
def pair?
    (top : Nat)
    (cs : List Char) : Option (Nat × List Char) :=
  (fixedNumber? 2 0 cs).filter fun (n, _) => n ≤ top

/- One character, and what follows it. -/
def expect?
    (c : Char) :
    List Char → Option (List Char)
  | [] => none
  | c' :: cs => if c' = c then some cs else none

/- Days of a month. -/
def monthLength (year month : Nat) : Nat :=
  if month = 2 then
    if year % 4 = 0 ∧ (year % 100 ≠ 0 ∨ year % 400 = 0) then 29
    else 28
  else if month = 4 ∨ month = 6 ∨ month = 9 ∨ month = 11 then 30
  else 31

/- What follows a date. -/
def afterDate? (cs : List Char) : Option (List Char) := do
  let (year, cs) ← fixedNumber? 4 0 cs
  let cs ← expect? '-' cs
  let (month, cs) ← pair? 12 cs
  let cs ← expect? '-' cs
  let (day, cs) ← pair? (monthLength year month) cs
  if month = 0 ∨ day = 0 then none else some cs

/- What follows the fraction of a second, if there is one. -/
def afterFraction? : List Char → Option (List Char)
  | '.' :: c :: cs =>
      if c.isDigit then some (cs.dropWhile Char.isDigit) else none
  | cs => some cs

/- What follows the time of a day. -/
def afterTime? (cs : List Char) : Option (List Char) := do
  let (_, cs) ← pair? 23 cs
  let cs ← expect? ':' cs
  let (_, cs) ← pair? 59 cs
  let cs ← expect? ':' cs
  let (_, cs) ← pair? 60 cs
  afterFraction? cs

/- Whether a text is nothing or a time zone. -/
def isZone : List Char → Bool
  | [] => true
  | [c] => c = 'Z' || c = 'z'
  | c :: cs =>
      (c = '+' || c = '-') && (zoneEnd? cs).any List.isEmpty
where
  zoneEnd? (cs : List Char) : Option (List Char) := do
    let (_, cs) ← pair? 23 cs
    let cs ← expect? ':' cs
    let (_, cs) ← pair? 59 cs
    some cs

/- Whether a text is a date. -/
def isDate (cs : List Char) : Bool :=
  (afterDate? cs).any List.isEmpty

/- Whether a text is the time of a day. -/
def isTime (cs : List Char) : Bool :=
  (afterTime? cs).any List.isEmpty

/- Whether a text is a time, maybe with a time zone. -/
def isZonedTime (cs : List Char) : Bool :=
  (afterTime? cs).any isZone

/- Whether a text is a date and a time with a letter between. -/
def isDateTime (cs : List Char) : Bool :=
  match afterDate? cs with
  | some (c :: cs) => (c = 'T' || c = 't') && isZonedTime cs
  | _ => false

/- Whether a text without blanks is a date, a time or both. -/
def isMoment (cs : List Char) : Bool :=
  isDate cs || isTime cs || isDateTime cs

end Toml

end Redraw
