import Redraw.Grid.Line
import Redraw.Plan

/-
  Strokes: steps drawn one after another with a pen.

  A pen is where the cursor is believed to be and the style
  that is in force.  Each drawing function takes the pen it
  finds and gives the steps it adds, how many cells they draw
  and the pen it leaves.

  Key definitions include:
    * `Pen`, `Stroke`
    * `Pen.moveTo`, `Pen.setStyle`, `Pen.write`, `Pen.erase`
    * `Pen.drawCells`: cells as runs of one style
-/

namespace Redraw

------------------------------------------------------------
-- Pens
------------------------------------------------------------

/- Where drawing goes on, and in which style. -/
structure Pen where
  position : Option Position
  style : Style
  deriving DecidableEq

/- Steps, the cells they draw, and the pen after them. -/
structure Stroke where
  ops : List Op := []
  cells : Nat := 0
  pen : Pen

namespace Stroke

/- Go on drawing where a stroke ended. -/
def andThen
    (s : Stroke)
    (next : Pen → Stroke) : Stroke :=
  let t := next s.pen
  ⟨s.ops ++ t.ops, s.cells + t.cells, t.pen⟩

end Stroke

namespace Pen

/- Add nothing. -/
def rest (pen : Pen) : Stroke :=
  { pen := pen }

/- Add one step that draws no cell. -/
def add
    (op : Op)
    (pen : Pen) : Stroke :=
  { ops := [op], pen := pen }

------------------------------------------------------------
-- Single Steps
------------------------------------------------------------

/- Move to a position, unless the pen is there. -/
def moveTo
    (target : Position)
    (pen : Pen) : Stroke :=
  if pen.position = some target then pen.rest
  else { pen with position := some target }.add (.moveTo target)

/- Switch to a style, unless it is in force. -/
def setStyle
    (style : Style)
    (pen : Pen) : Stroke :=
  if pen.style = style then pen.rest
  else { pen with style := style }.add (.setStyle style)

/-
  Write text at the pen.  After the last column it is unknown
  where the cursor is: terminals wrap late and disagree on what
  a move does then.
-/
def write
    (cols : Nat)
    (start : Position)
    (chars : List Char)
    (width : Nat)
    (pen : Pen) : Stroke :=
  let stop := start.col + width
  { ops := [.text chars width]
    cells := width
    pen :=
      { pen with
        position :=
          if cols ≤ stop then none else some ⟨start.row, stop⟩ } }

/- Erase from a position to the end of its line. -/
def erase
    (cols : Nat)
    (start : Position)
    (pen : Pen) : Stroke :=
  ((pen.moveTo start).andThen (setStyle .default)).andThen fun pen =>
    { ops := [.eraseToEndOfLine]
      cells := cols - start.col
      pen := pen }

------------------------------------------------------------
-- Runs
------------------------------------------------------------

/- Neighbouring cells of one style. -/
structure Run where
  col : Nat
  style : Style
  chars : List Char
  width : Nat
  deriving DecidableEq

/- The runs of some cells, the first of them at a column. -/
def runs
    (col : Nat) :
    List Cell → List Run
  | [] => []
  | cell :: rest =>
      match runs (col + cell.width) rest with
      | [] => [⟨col, cell.style, cell.text, cell.width⟩]
      | run :: later =>
          if run.style = cell.style then
            ⟨col, cell.style, cell.text ++ run.chars,
              cell.width + run.width⟩ :: later
          else
            ⟨col, cell.style, cell.text, cell.width⟩ :: run :: later

/- Draw one run. -/
def drawRun
    (cols row : Nat)
    (run : Run)
    (pen : Pen) : Stroke :=
  ((pen.moveTo ⟨row, run.col⟩).andThen (setStyle run.style)).andThen
    (write cols ⟨row, run.col⟩ run.chars run.width)

/- Draw runs one after another. -/
def drawRuns
    (cols row : Nat) :
    List Run → Pen → Stroke
  | [], pen => pen.rest
  | run :: later, pen =>
      (pen.drawRun cols row run).andThen (drawRuns cols row later)

/-
  Draw cells from a column on.  Continuations come with the
  first half of their pair.
-/
def drawCells
    (cols row col : Nat)
    (cells : List Cell)
    (pen : Pen) : Stroke :=
  pen.drawRuns cols row
    (runs col (cells.filter fun c => !c.isContinuation))

end Pen

end Redraw
