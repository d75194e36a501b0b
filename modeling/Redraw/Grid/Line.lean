import Redraw.Cell
import Redraw.Error

/-
  Lines: one row of cells and the ways to change it.

  A wide character is a first half followed by a continuation.
  Every change but a raw one keeps pairs whole: overwriting one
  half turns the other into a space.

  Key definitions include:
    * `Line.place`: write one cell
    * `Line.write`: write cells one after another
    * `Line.overlay`: copy a line onto another
    * `Line.resize`
    * `Line.pairingFault?`: the first unpaired half

  Stated here: every change keeps the length of a line, and
  `resize` gives the length asked for.
-/

namespace Redraw

/- One row of cells. -/
abbrev Line := List Cell

namespace Line

------------------------------------------------------------
-- Looking
------------------------------------------------------------

/- The cell in a column. -/
def cell?
    (cells : Line)
    (col : Nat) : Option Cell :=
  cells[col]?

/- Whether a column holds the first half of a pair. -/
def wideAt
    (line : Line)
    (col : Nat) : Bool :=
  (line.cell? col).any Cell.isWide

/- Whether a column holds the second half of a pair. -/
def continuationAt
    (line : Line)
    (col : Nat) : Bool :=
  (line.cell? col).any Cell.isContinuation

/- The text of a line. -/
def text (line : Line) : List Char :=
  line.flatMap Cell.text

------------------------------------------------------------
-- Writing
------------------------------------------------------------

/- Turn the cell at a column into a space in its own style. -/
def eraseAt
    (line : Line)
    (col : Nat) : Line :=
  line.modify col Cell.erased

/- Erase the first half of a pair whose second half is here. -/
def breakBefore
    (line : Line)
    (col : Nat) : Line :=
  if line.continuationAt col && 0 < col && line.wideAt (col - 1)
  then line.eraseAt (col - 1)
  else line

/- Erase the second half of a pair whose first half is here. -/
def breakAfter
    (line : Line)
    (col : Nat) : Line :=
  if line.wideAt col && line.continuationAt (col + 1)
  then line.eraseAt (col + 1)
  else line

/- Erase the other half of a pair at a column. -/
def breakPair
    (line : Line)
    (col : Nat) : Line :=
  (line.breakBefore col).breakAfter col

/-
  Write a cell.  A wide cell takes the next column too; in the
  last column it becomes a space.  A continuation is never
  written by itself.
-/
def place
    (line : Line)
    (col : Nat)
    (cell : Cell) : Line :=
  match cell.glyph with
  | .continuation => line
  | .narrow _ => (line.breakPair col).set col cell
  | .wide _ =>
      if line.length ≤ col + 1 then
        (line.breakPair col).set col cell.erased
      else
        (((line.breakPair col).breakPair (col + 1)).set (col + 1)
          (Cell.continuation cell.style)).set col cell

/-
  Write cells one after another and give the column reached.
  Writing stops at the end of the line; a wide cell that would
  cross it becomes a space.
-/
def write
    (line : Line)
    (col : Nat) :
    List Cell → Line × Nat
  | [] => (line, col)
  | cell :: rest =>
      if line.length ≤ col then
        (line, col)
      else if cell.isWide && line.length ≤ col + 1 then
        (line.place col cell.erased, col + 1)
      else
        write (line.place col cell) (col + cell.width) rest

/-
  Copy the cells of another line from a column on.  What does
  not fit is cut off, and a continuation comes with its first
  half only.
-/
def overlay
    (line : Line)
    (col : Nat) :
    List Cell → Line
  | [] => line
  | cell :: rest =>
      if line.length ≤ col then line
      else overlay (line.place col cell) (col + 1) rest

------------------------------------------------------------
-- Resizing
------------------------------------------------------------

/- An empty line. -/
def blank (cols : Nat) : Line :=
  List.replicate cols Cell.empty

/-
  Cut or fill a line to a length.  A wide character in the last
  column of a line that was not made longer becomes a space.
-/
def resize
    (line : Line)
    (cols : Nat) : Line :=
  if line.length < cols then
    line ++ blank (cols - line.length)
  else
    let kept : Line := line.take cols
    if kept.wideAt (cols - 1) then kept.eraseAt (cols - 1) else kept

------------------------------------------------------------
-- Pairing
------------------------------------------------------------

/-
  The column of the first half without its other half, counted
  from `col`.
-/
def pairingFaultFrom?
    (col : Nat) :
    List Cell → Option Nat
  | [] => none
  | cell :: rest =>
      if cell.isContinuation then
        some col
      else if cell.isWide then
        match rest with
        | [] => some col
        | next :: rest' =>
            if next.isContinuation
            then pairingFaultFrom? (col + 2) rest'
            else some col
      else
        pairingFaultFrom? (col + 1) rest

/- The column of the first half without its other half. -/
def pairingFault? (line : Line) : Option Nat :=
  pairingFaultFrom? 0 line

/- Refuse a line with an unpaired half. -/
def check
    (line : Line)
    (row : Nat) : Except Error Unit :=
  match line.pairingFault? with
  | none => .ok ()
  | some col => .error (.invalidWideCharPairing row col)

------------------------------------------------------------
-- Lengths
------------------------------------------------------------

theorem length_blank
    (cols : Nat) :
    (blank cols).length = cols := by
  simp [blank]

theorem length_eraseAt
    (line : Line)
    (col : Nat) :
    (line.eraseAt col).length = line.length := by
  simp [eraseAt]

theorem length_breakPair
    (line : Line)
    (col : Nat) :
    (line.breakPair col).length = line.length := by
  have hBefore : (line.breakBefore col).length = line.length := by
    unfold breakBefore
    split <;> simp [length_eraseAt]
  unfold breakPair breakAfter
  split <;> simp [length_eraseAt, hBefore]

theorem length_place
    (line : Line)
    (col : Nat)
    (cell : Cell) :
    (line.place col cell).length = line.length := by
  unfold place
  split
  · rfl
  · simp [length_breakPair]
  · split <;> simp [length_breakPair]

theorem length_write
    (cells : List Cell)
    (line : Line)
    (col : Nat) :
    (line.write col cells).1.length = line.length := by
  induction cells generalizing line col with
  | nil => rfl
  | cons cell rest ih =>
      unfold write
      split
      · rfl
      · split
        · simp [length_place]
        · rw [ih, length_place]

theorem length_overlay
    (cells : List Cell)
    (line : Line)
    (col : Nat) :
    (line.overlay col cells).length = line.length := by
  induction cells generalizing line col with
  | nil => rfl
  | cons cell rest ih =>
      unfold overlay
      split
      · rfl
      · rw [ih, length_place]

theorem length_resize
    (line : Line)
    (cols : Nat) :
    (line.resize cols).length = cols := by
  unfold resize
  split
  · simp [length_blank]
    omega
  · simp only
    split <;> simp [length_eraseAt] <;> omega

end Line

end Redraw
