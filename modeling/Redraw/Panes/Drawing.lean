import Redraw.Grid.Copying
import Redraw.Panes.Compositor

/-
  Drawing: the screen drawn with columns of sixteen bits.

  A column that is a sum has no result if it does not fit, and
  neither has what is drawn there.

  Key definitions include:
    * `columnSum?`
    * `Meter.draw?`
    * `Compositor.draw?`, `Compositor.compose?`
-/

namespace Redraw

/- A sum of columns, if it fits into sixteen bits. -/
def columnSum? (a b : Nat) : Option Nat :=
  if a + b ≤ maxColumn then some (a + b) else none

namespace Meter

/- A bar of so many cells, behind the name of its row. -/
def drawBar?
    (bar : Cell)
    (row count : Nat)
    (g : Grid) : Option Grid :=
  (List.range count).foldlM
    (fun g i => do
      let col ← columnSum? 6 i
      return g.set row col bar) g

/- One row: its name, its bar and its percentage. -/
def drawRow?
    (shares : Shares)
    (width : Nat)
    (g : Grid)
    (row : Nat) : Option Grid := do
  let bar := Cell.blank (barStyle (shares row 255))
  let named := g.put row 0 (label row) labelStyle
  let filled ← drawBar? bar row (shares row width) named
  let col ← columnSum? 7 width
  return filled.put row col (percentage (shares row 100)) .default

/- A bar for each row. -/
def draw?
    (shares : Shares)
    (rows cols : Nat) : Option Grid :=
  (List.range rows).foldlM (drawRow? shares (cols - 8))
    (.blank rows cols)

end Meter

namespace Compositor

/- The screen for a log and any levels of the meter. -/
def draw?
    (l : Layout)
    (log : Log)
    (shares : Shares)
    (committed tenths : Nat) : Option Grid := do
  let right ← columnSum? l.left 1
  let meter ← Meter.draw? shares l.body (l.cols - right)
  let left :=
    drawBorder
      ((Grid.blank l.rows l.cols).blit (log.draw l.body l.left) 0 0)
      l.body l.left
  return ((left.blit meter 0 right).put l.body 0
    (statusLine l committed tenths) statusStyle).withCursor
      (cursor l log)

/- The next screen, for any levels of the meter. -/
def compose?
    (c : Compositor)
    (l : Layout)
    (shares : Shares)
    (tenths : Nat) : Option (Grid × Compositor) := do
  let c := c.tick l
  let g ← draw? l c.log shares c.committed tenths
  return (g, c)

end Compositor

end Redraw
