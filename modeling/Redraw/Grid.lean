import Redraw.Cursor
import Redraw.Grid.Line
import Redraw.Text.Cluster

/-
  Grids: a composed screen with its cursor.

  A grid is a list of lines of one length, and its cursor is
  inside.  Both are part of the type, so every change states
  that it keeps them.

  Key definitions include:
    * `Grid`, `Grid.blank`
    * `Grid.set`, `Grid.setRaw`, `Grid.put`, `Grid.blit`
    * `Grid.fill`, `Grid.resize`, `Grid.withCursor`
    * `Grid.validate`
-/

namespace Redraw

/- A rectangle of cells and a cursor. -/
structure Grid where
  rows : Nat
  cols : Nat
  lines : List Line
  cursor : Cursor
  lines_length : lines.length = rows
  line_length : ∀ line ∈ lines, line.length = cols
  cursor_inside : cursor.clamp rows cols = cursor
  deriving DecidableEq

namespace Grid

------------------------------------------------------------
-- Construction
------------------------------------------------------------

/- A grid of empty cells with the cursor at the origin. -/
def blank (rows cols : Nat) : Grid where
  rows := rows
  cols := cols
  lines := List.replicate rows (Line.blank cols)
  cursor := {}
  lines_length := by simp
  line_length := by
    intro line h
    rw [List.eq_of_mem_replicate h, Line.length_blank]
  cursor_inside := by simp [Cursor.clamp]

instance : Inhabited Grid :=
  ⟨blank 0 0⟩

/- The grid with one line changed. -/
def modifyLine
    (g : Grid)
    (row : Nat)
    (change : Line → Line)
    (keeps : ∀ line, (change line).length = line.length) : Grid where
  rows := g.rows
  cols := g.cols
  lines := g.lines.modify row change
  cursor := g.cursor
  lines_length := by simp [g.lines_length]
  line_length := by
    intro line h
    obtain ⟨i, hi, rfl⟩ := List.mem_iff_getElem.1 h
    rw [List.getElem_modify]
    split
    · rw [keeps]
      exact g.line_length _ (List.getElem_mem _)
    · exact g.line_length _ (List.getElem_mem _)
  cursor_inside := g.cursor_inside

------------------------------------------------------------
-- Looking
------------------------------------------------------------

/- The extent of a grid. -/
def size (g : Grid) : Size :=
  ⟨g.rows, g.cols⟩

/- Whether a grid has no cell. -/
def isEmpty (g : Grid) : Bool :=
  g.rows = 0 || g.cols = 0

/- Whether a position is inside a grid. -/
def inBounds
    (g : Grid)
    (row col : Nat) : Bool :=
  row < g.rows && col < g.cols

/- The cell at a position. -/
def cell?
    (g : Grid)
    (row col : Nat) : Option Cell :=
  g.lines[row]?.bind (·.cell? col)

/- A line of a grid. -/
def line?
    (g : Grid)
    (row : Nat) : Option Line :=
  g.lines[row]?

/- All cells, line after line. -/
def cells (g : Grid) : List Cell :=
  g.lines.flatten

/- The lines that hold a cell. -/
def inhabitedLines (g : Grid) : List Line :=
  if g.cols = 0 then [] else g.lines

/- The text of a line; none outside the grid. -/
def lineText
    (g : Grid)
    (row : Nat) : List Char :=
  (g.line? row).elim [] Line.text

------------------------------------------------------------
-- Writing
------------------------------------------------------------

/- The grid with a cursor, moved inside if need be. -/
def withCursor
    (g : Grid)
    (cursor : Cursor) : Grid :=
  { g with
    cursor := cursor.clamp g.rows g.cols
    cursor_inside := cursor.clamp_clamp g.rows g.cols }

/- Every cell becomes a space in a style. -/
def fill
    (g : Grid)
    (style : Style) : Grid where
  rows := g.rows
  cols := g.cols
  lines := g.lines.map fun line => line.map fun _ => Cell.blank style
  cursor := g.cursor
  lines_length := by simp [g.lines_length]
  line_length := by
    intro line h
    obtain ⟨old, hOld, rfl⟩ := List.mem_map.1 h
    simpa using g.line_length old hOld
  cursor_inside := g.cursor_inside

/- Every cell becomes empty; the cursor stays. -/
def clear (g : Grid) : Grid :=
  g.fill .default

/- Whether a cell can be written at a position. -/
def accepts
    (g : Grid)
    (row col : Nat)
    (cell : Cell) : Bool :=
  g.inBounds row col && !cell.isContinuation

/- Write a cell and keep pairs whole. -/
def set
    (g : Grid)
    (row col : Nat)
    (cell : Cell) : Grid :=
  if g.accepts row col cell then
    g.modifyLine row (·.place col cell)
      fun line => Line.length_place line col cell
  else g

/- Write a cell as it is, even if that parts a pair. -/
def setRaw
    (g : Grid)
    (row col : Nat)
    (cell : Cell) : Grid :=
  if g.inBounds row col then
    g.modifyLine row (fun line => List.set line col cell)
      fun _ => List.length_set
  else g

/- The cells of a text, one for each cluster. -/
def cellsOf
    (text : List Char)
    (style : Style) : List Cell :=
  (clusters text).map (Cell.styled · style)

/- Write a text, up to the end of the line. -/
def put
    (g : Grid)
    (row col : Nat)
    (text : List Char)
    (style : Style) : Grid :=
  g.modifyLine row (fun line => (line.write col (cellsOf text style)).1)
    fun line => Line.length_write (cellsOf text style) line col

/- How many columns `put` writes. -/
def putWidth
    (g : Grid)
    (row col : Nat)
    (text : List Char)
    (style : Style) : Nat :=
  match g.line? row with
  | none => 0
  | some line => (line.write col (cellsOf text style)).2 - col

------------------------------------------------------------
-- Composition
------------------------------------------------------------

/- The lines of `src` over those of `dst`, from a row on. -/
def blitLines
    (row col : Nat)
    (src dst : List Line) : List Line :=
  dst.mapIdx fun r line =>
    if row ≤ r then
      (src[r - row]?).elim line (line.overlay col ·)
    else line

/-
  Copy a grid onto another, its corner at a position.  What
  falls outside is cut off; the cursor is not copied.
-/
def blit
    (g src : Grid)
    (row col : Nat) : Grid where
  rows := g.rows
  cols := g.cols
  lines := blitLines row col src.lines g.lines
  cursor := g.cursor
  lines_length := by simp [blitLines, g.lines_length]
  line_length := by
    intro line h
    obtain ⟨r, hr, rfl⟩ := List.mem_mapIdx.1 h
    have hOld := g.line_length _ (List.getElem_mem hr)
    split
    · cases src.lines[r - row]? with
      | none => exact hOld
      | some cells =>
          exact (Line.length_overlay cells _ col).trans hOld
    · exact hOld
  cursor_inside := g.cursor_inside

------------------------------------------------------------
-- Resizing
------------------------------------------------------------

/- The lines of a screen cut or filled to an extent. -/
def resizeLines
    (rows cols : Nat)
    (lines : List Line) : List Line :=
  ((lines.take rows).map (Line.resize · cols))
    ++ List.replicate (rows - lines.length) (Line.blank cols)

/-
  Change the extent and keep what is inside both.  New cells
  are empty, and the cursor is moved inside.
-/
def resize
    (g : Grid)
    (rows cols : Nat) : Grid :=
  if rows = g.rows ∧ cols = g.cols then g
  else
    { rows := rows
      cols := cols
      lines := resizeLines rows cols g.lines
      cursor := g.cursor.clamp rows cols
      lines_length := by
        simp [resizeLines]
        omega
      line_length := by
        intro line h
        rcases List.mem_append.1 h with h | h
        · obtain ⟨old, _, rfl⟩ := List.mem_map.1 h
          exact Line.length_resize old cols
        · rw [List.eq_of_mem_replicate h, Line.length_blank]
      cursor_inside := g.cursor.clamp_clamp rows cols }

------------------------------------------------------------
-- Validation
------------------------------------------------------------

/- Refuse lines with an unpaired half, counted from a row. -/
def checkLines
    (row : Nat) :
    List Line → Except Error Unit
  | [] => .ok ()
  | line :: rest => do
      line.check row
      checkLines (row + 1) rest

/- Refuse a grid with an unpaired half of a wide character. -/
def validate (g : Grid) : Except Error Unit :=
  checkLines 0 g.lines

/- A grid in words: its extent, its cursor and its text. -/
def describe (g : Grid) : String :=
  "Grid(" ++ g.size.describe ++ ", " ++ g.cursor.describe ++ ")\n"
    ++ String.join
      (g.lines.map fun line =>
        "  |" ++ String.ofList line.text ++ "|\n")

end Grid

end Redraw
