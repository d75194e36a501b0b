import Redraw.Grid

/-
  Storage: the cells of a grid in one list, row after row.

  A cell is found by its row, its column and the length of a
  row, so a new length moves every row but the first.  A part or
  a place outside of a storage has no result.

  Key definitions include:
    * `Storage.part?`, `Storage.overwrite?`, `Storage.mend?`
    * `Storage.copyRow?`, `Storage.resize?`
-/

namespace Redraw

/- Rows of cells of one length, one after another. -/
abbrev Storage := List Cell

namespace Storage

/- So many cells from a place on, if they are there. -/
def part?
    (cells : Storage)
    (start count : Nat) : Option (List Cell) :=
  if start + count ≤ cells.length then
    some ((cells.drop start).take count)
  else none

/- Cells written over others from a place on, if they fit. -/
def overwrite?
    (cells : Storage)
    (start : Nat)
    (part : List Cell) : Option Storage :=
  if start + part.length ≤ cells.length then
    some
      (cells.take start ++ part ++ cells.drop (start + part.length))
  else none

/- A first half at a place becomes a space in its style. -/
def mend?
    (cells : Storage)
    (place : Nat) : Option Storage := do
  let cell ← cells[place]?
  return if cell.isWide then cells.set place cell.erased else cells

/-
  Copy the start of a row of one storage to the same row of
  another, whose rows have another length.  Where that is all of
  the new row, its last cell may have lost its second half.
-/
def copyRow?
    (old : Storage)
    (oldCols cols : Nat)
    (next : Storage)
    (row : Nat) : Option Storage := do
  let keep := min cols oldCols
  let part ← old.part? (row * oldCols) keep
  let next ← next.overwrite? (row * cols) part
  if 0 < keep ∧ keep = cols then
    next.mend? (row * cols + keep - 1)
  else
    return next

/- The storage of another extent, and what is inside both. -/
def resize?
    (old : Storage)
    (size size' : Size) : Option Storage :=
  if size' = size then
    some old
  else
    (List.range (min size'.rows size.rows)).foldlM
      (old.copyRow? size.cols size'.cols)
      (List.replicate size'.area .empty)

end Storage

end Redraw
