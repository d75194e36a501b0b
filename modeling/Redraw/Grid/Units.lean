import Redraw.Grid.Line

/-
  Units: the narrow cells and the pairs that a line is made of.

  Stated without looking at columns, so that checking a line by
  its columns can be compared with it.

  Key definitions include:
    * `Line.Paired`: a line of whole units
    * `Line.Matched`: and both halves of a pair have one style
    * `Line.IsBoundary`: a column between two units
-/

namespace Redraw

namespace Line

/- A line of narrow cells and of wide ones with a second half. -/
inductive Paired : Line → Prop
  | nil : Paired []
  | narrow
      {cell : Cell}
      {rest : Line}
      (one : cell.width = 1)
      (more : Paired rest) :
      Paired (cell :: rest)
  | pair
      {first second : Cell}
      {rest : Line}
      (wide : first.isWide)
      (continued : second.isContinuation)
      (more : Paired rest) :
      Paired (first :: second :: rest)

/- A line of units whose second halves have the first's style. -/
inductive Matched : Line → Prop
  | nil : Matched []
  | narrow
      {cell : Cell}
      {rest : Line}
      (one : cell.width = 1)
      (more : Matched rest) :
      Matched (cell :: rest)
  | pair
      {first : Cell}
      {rest : Line}
      (wide : first.isWide)
      (more : Matched rest) :
      Matched (first :: .continuation first.style :: rest)

/- A column where one unit ends and the next begins. -/
def IsBoundary
    (line : Line)
    (col : Nat) : Prop :=
  Paired (line.take col) ∧ Paired (line.drop col)

end Line

end Redraw
