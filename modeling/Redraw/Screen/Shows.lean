import Redraw.Capabilities
import Redraw.Grid
import Redraw.Screen

/-
  Showing a grid: when a screen looks as a grid wants it.

  Every position shows the grid's text in the nearest style
  that the terminal can show, and the cursor is where and as
  the grid wants it.  Nothing is left over: the style in force
  is the default and no wrap is pending.

  Key definitions include:
    * `Slot.Shows`, `Screen.ShowsCells`, `Screen.ShowsCursor`
    * `Screen.Shows`
-/

namespace Redraw

/- A slot shows a cell. -/
def Slot.Shows
    (caps : Capabilities)
    (slot : Slot)
    (cell : Cell) : Prop :=
  slot.continuation = cell.isContinuation ∧
    (cell.isContinuation = false →
      slot.text = cell.text ∧ slot.style = caps.adaptStyle cell.style)

instance
    (caps : Capabilities)
    (slot : Slot)
    (cell : Cell) :
    Decidable (slot.Shows caps cell) := by
  unfold Slot.Shows
  infer_instance

namespace Screen

/- A screen of a grid's size shows all its cells. -/
def ShowsCells
    (caps : Capabilities)
    (s : Screen)
    (g : Grid) : Prop :=
  s.rows = g.rows ∧ s.cols = g.cols ∧
    ∀ row < g.rows, ∀ col < g.cols,
      ∀ cell ∈ g.cell? row col, (s.slots row col).Shows caps cell

/- A screen's cursor is as a grid wants it. -/
def ShowsCursor
    (s : Screen)
    (c : Cursor) : Prop :=
  s.position = c.position ∧ s.visible = c.visible ∧ s.shape = c.shape

/- A screen shows a grid, and nothing is left over. -/
def Shows
    (caps : Capabilities)
    (s : Screen)
    (g : Grid) : Prop :=
  s.ShowsCells caps g ∧ s.ShowsCursor g.cursor ∧
    s.style = .default ∧ s.pendingWrap = false

instance
    (caps : Capabilities)
    (s : Screen)
    (g : Grid) :
    Decidable (s.Shows caps g) := by
  unfold Shows ShowsCells ShowsCursor
  infer_instance

end Screen

end Redraw
