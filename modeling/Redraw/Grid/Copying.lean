import Redraw.Grid

/-
  Copying: a grid copied onto another one cell at a time.

  Rows and columns are counted in sixteen bits, and a sum that
  does not fit stops at the greatest of them.

  Key definitions include:
    * `maxColumn`, `saturatingAdd`
    * `Grid.copyCells`, `Grid.copyLines`, `Grid.copy`
-/

namespace Redraw

/- The greatest number of sixteen bits. -/
def maxColumn : Nat := 65535

/- A sum, or the greatest number of sixteen bits. -/
def saturatingAdd (a b : Nat) : Nat :=
  min (a + b) maxColumn

namespace Grid

/- Write cells into a row, counted behind a column. -/
def copyCells
    (row col : Nat) :
    Nat → List Cell → Grid → Grid
  | _, [], g => g
  | i, cell :: rest, g =>
      if g.cols ≤ saturatingAdd col i then g
      else
        copyCells row col (i + 1) rest
          (if cell.isContinuation then g
            else g.set row (saturatingAdd col i) cell)

/- Write lines into a grid, counted below a row. -/
def copyLines
    (row col : Nat) :
    Nat → List Line → Grid → Grid
  | _, [], g => g
  | i, line :: rest, g =>
      if g.rows ≤ saturatingAdd row i then g
      else
        copyLines row col (i + 1) rest
          (copyCells (saturatingAdd row i) col 0 line g)

/- Copy the cells of a grid onto another one after another. -/
def copy
    (g src : Grid)
    (row col : Nat) : Grid :=
  copyLines row col 0 src.lines g

end Grid

end Redraw
