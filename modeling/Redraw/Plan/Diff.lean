import Redraw.Plan.Span
import Redraw.Plan.Stroke
import Redraw.Snapshot

/-
  Planning: the steps that take one screen to the next.

  Lines that are equal are passed over.  In the others the
  changed spans are drawn, and a blank end of a line is erased
  instead of written.

  Key definitions include:
    * `Plan.diff`: from a screen that is known
    * `Plan.repaint`: from a screen that is not
-/

namespace Redraw

/- The shortest blank end of a line worth erasing. -/
def minErase : Nat := 4

namespace Pen

------------------------------------------------------------
-- Lines
------------------------------------------------------------

/-
  Where the text of the last span of a line ends.  Blanks at
  its end are erased if there are enough of them and nothing
  but blanks follows.
-/
def textEnd
    (line : Line)
    (s : Span) : Nat :=
  let blanks :=
    (((line.take s.stop).drop s.start).reverse.takeWhile
      Cell.isBlank).length
  if (line.drop s.stop).all Cell.isBlank && minErase ≤ blanks then
    s.stop - blanks
  else
    s.stop

/- Draw the cells of a line from one column to another. -/
def drawBetween
    (cols row : Nat)
    (line : Line)
    (start stop : Nat)
    (pen : Pen) : Stroke :=
  pen.drawCells cols row start ((line.take stop).drop start)

/- Draw the last span of a line. -/
def drawLastSpan
    (cols row : Nat)
    (line : Line)
    (s : Span)
    (pen : Pen) : Stroke :=
  let stop := textEnd line s
  let drawn := pen.drawBetween cols row line s.start stop
  if stop < s.stop then drawn.andThen (erase cols ⟨row, stop⟩)
  else drawn

/- Draw the spans of a line. -/
def drawSpans
    (cols row : Nat)
    (line : Line) :
    List Span → Pen → Stroke
  | [], pen => pen.rest
  | [s], pen => pen.drawLastSpan cols row line s
  | s :: t :: later, pen =>
      (pen.drawBetween cols row line s.start s.stop).andThen
        (drawSpans cols row line (t :: later))

/- Draw what changed in a line. -/
def drawLine
    (cols row : Nat)
    (prev curr : Line)
    (pen : Pen) : Except Error Stroke := do
  prev.check row
  curr.check row
  let spans ← changedSpans row prev curr
  return pen.drawSpans cols row curr spans

------------------------------------------------------------
-- Screens
------------------------------------------------------------

/-
  Draw what changed in some lines, counted from a row, and
  count the lines that are equal.
-/
def drawLines
    (cols row : Nat) :
    List Line → List Line → Pen → Except Error (Stroke × Nat)
  | prev :: prevs, curr :: currs, pen =>
      if prev = curr then do
        let (later, equal) ← drawLines cols (row + 1) prevs currs pen
        return (later, equal + 1)
      else do
        let drawn ← pen.drawLine cols row prev curr
        let (later, equal) ←
          drawLines cols (row + 1) prevs currs drawn.pen
        return (drawn.andThen fun _ => later, equal)
  | _, _, pen => return (pen.rest, 0)

/- Leave the cursor as a screen wants it. -/
def placeCursor
    (cursor : Cursor)
    (belief : Belief)
    (pen : Pen) : Stroke :=
  let moved := pen.moveTo cursor.position
  let shape :=
    if belief.shape = some cursor.shape then []
    else [Op.setCursorShape cursor.shape]
  let visibility :=
    if belief.visible = some cursor.visible then []
    else [if cursor.visible then Op.showCursor else Op.hideCursor]
  { moved with ops := moved.ops ++ shape ++ visibility }

end Pen

namespace Plan

/- The plan for a screen without cells: nothing is done. -/
def idle
    (grid : Grid)
    (belief : Belief) : Plan where
  ops := []
  rows := grid.rows
  cols := grid.cols
  origin := belief.position
  cursor := grid.cursor
  after := belief
  stats := {}

/-
  The steps from `prev` to `curr` on a terminal whose cursor is
  as believed.  The style is the default before and after.
-/
def diffGrids
    (prev curr : Grid)
    (belief : Belief) : Except Error Plan :=
  if prev.size ≠ curr.size then
    .error (.dimensionMismatch prev.size curr.size)
  else if curr.isEmpty then
    .ok (idle curr belief)
  else do
    let pen : Pen := ⟨belief.position, .default⟩
    let (lines, equal) ← pen.drawLines curr.cols 0 prev.lines curr.lines
    let whole :=
      (lines.andThen (Pen.setStyle .default)).andThen
        (Pen.placeCursor curr.cursor belief)
    return {
      ops := whole.ops
      rows := curr.rows
      cols := curr.cols
      origin := belief.position
      cursor := curr.cursor
      after := Belief.ofCursor curr.cursor
      stats := {
        rendered := whole.cells
        skipped := curr.size.area - whole.cells
        rowsSkipped := equal } }

/- The steps from one snapshot to another. -/
def diff
    (prev curr : Snapshot)
    (belief : Belief) : Except Error Plan :=
  diffGrids prev.grid curr.grid belief

/-
  The steps that show a snapshot on a terminal of which nothing
  is known: clear the screen, then draw over a blank one.
-/
def repaint (curr : Snapshot) : Except Error Plan := do
  let blank := Grid.blank curr.grid.rows curr.grid.cols
  let plan ← diffGrids blank curr.grid .unknown
  return { plan with ops := .clearScreen :: plan.ops }

end Plan

end Redraw
