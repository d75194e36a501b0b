import Redraw.Escape.Command

/-
  Moves: from one cell to another in the fewest bytes.

  An absolute move always works.  From a known position it
  competes with a new line and with a vertical part followed by
  a horizontal part.

  Key definitions include:
    * `Vertical`, `Horizontal`, `Move`
    * `Move.commands`: a move as told to the terminal
    * `Move.best`
-/

namespace Redraw

------------------------------------------------------------
-- Parts of a Move
------------------------------------------------------------

/- How the row changes. -/
inductive Vertical
  | stay
  | up (n : Nat)
  | down (n : Nat)
  deriving DecidableEq

namespace Vertical

/- The way from a row to another. -/
def between (source target : Nat) : Vertical :=
  if target < source then .up (source - target)
  else if source < target then .down (target - source)
  else .stay

/- The cost of a part in bytes. -/
def cost : Vertical → Nat
  | .stay => 0
  | .up n => relativeLength n
  | .down n => relativeLength n

/- The commands of a part. -/
def commands : Vertical → List Command
  | .stay => []
  | .up n => [.cursorUp n]
  | .down n => [.cursorDown n]

end Vertical

/- How the column changes. -/
inductive Horizontal
  | stay
  | return
  | column (col : Nat)
  | forward (n : Nat)
  | back (n : Nat)
  deriving DecidableEq

namespace Horizontal

/- The cost of a part in bytes. -/
def cost : Horizontal → Nat
  | .stay => 0
  | .return => 1
  | .column col => cursorColumnLength col
  | .forward n => relativeLength n
  | .back n => relativeLength n

/- The cheapest way from a column to another. -/
def between (source target : Nat) : Horizontal :=
  if source = target then .stay
  else if target = 0 then .return
  else
    let relative :=
      if source < target then .forward (target - source)
      else .back (source - target)
    if (column target).cost < relative.cost then .column target
    else relative

/- The commands of a part. -/
def commands : Horizontal → List Command
  | .stay => []
  | .return => [.carriageReturn]
  | .column col => [.cursorColumn col]
  | .forward n => [.cursorForward n]
  | .back n => [.cursorBack n]

end Horizontal

------------------------------------------------------------
-- Moves
------------------------------------------------------------

/- A way to move the cursor. -/
inductive Move
  | absolute (target : Position)
  | nextLine
  | relative (v : Vertical) (h : Horizontal)
  deriving DecidableEq

namespace Move

/- The cost of a move in bytes. -/
def cost : Move → Nat
  | .absolute p => cursorToLength p.row p.col
  | .nextLine => 2
  | .relative v h => v.cost + h.cost

/- The commands of a move. -/
def commands : Move → List Command
  | .absolute p => [.cursorTo p.row p.col]
  | .nextLine => [.carriageReturn, .lineFeed]
  | .relative v h => v.commands ++ h.commands

/- The cheaper of two moves, the first of equals. -/
def cheaper (m n : Move) : Move :=
  if n.cost < m.cost then n else m

/-
  The cheapest move to a position.  An absolute move is taken
  unless another is shorter.
-/
def best
    (source : Option Position)
    (target : Position) : Move :=
  let direct := absolute target
  match source with
  | none => direct
  | some p =>
      let first :=
        if target.row = p.row + 1 ∧ target.col = 0
        then direct.cheaper nextLine
        else direct
      first.cheaper
        (relative (.between p.row target.row) (.between p.col target.col))

end Move

end Redraw
