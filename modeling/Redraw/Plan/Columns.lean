import Redraw.Grid.Copying
import Redraw.Grid.Storage
import Redraw.Plan.Diff

/-
  Planning by columns: how a plan is found in lines whose cells
  are looked up one by one.

  A cell past the end of its line, a part that is not inside a
  line, a difference below zero and a column that does not fit
  into sixteen bits have no result.  Neither has a plan that
  would need one of them.

  Key definitions include:
    * `Checked`: a computation that may have no result
    * `column?`, `difference?`, `Line.part?`
    * `Line.check?`, `changedSpans?`, `canBridge?`
    * `Storage.validate?`
    * `Pen.textEnd?`, `Pen.drawFrom?`, `Pen.drawLine?`
    * `Plan.diff?`, `Plan.repaint?`
-/

namespace Redraw

/- A computation that may fail, or have no result at all. -/
abbrev Checked : Type → Type :=
  ExceptT Error Option

------------------------------------------------------------
-- Columns
------------------------------------------------------------

/- A column, if it fits into sixteen bits. -/
def column? (n : Nat) : Option Nat :=
  if n ≤ maxColumn then some n else none

/- How much more one number is than another, if it is no less. -/
def difference? (a b : Nat) : Option Nat :=
  if b ≤ a then some (a - b) else none

/- How many columns a cell is passed over with. -/
def Cell.columns (c : Cell) : Nat :=
  if c.isWide then 2 else 1

theorem Cell.columns_pos
    (c : Cell) :
    0 < c.columns := by
  unfold columns
  split <;> decide

namespace Line

/- The cells between two columns, if both are in the line. -/
def part?
    (line : Line)
    (start stop : Nat) : Option Line :=
  if start ≤ stop ∧ stop ≤ line.length then
    some ((line.take stop).drop start)
  else none

/- Refuse a line with an unpaired half from a column on. -/
def checkFrom?
    (line : Line)
    (row col : Nat) : Checked Unit :=
  if col < line.length then do
    let cell ← line.cell? col
    let here ← column? col
    if cell.isContinuation then
      throw (.invalidWideCharPairing row here)
    else if cell.isWide then
      if line.continuationAt (col + 1) then
        line.checkFrom? row (col + 2)
      else
        throw (.invalidWideCharPairing row here)
    else
      line.checkFrom? row (col + 1)
  else
    return ()
termination_by line.length - col

/- Refuse a line with an unpaired half. -/
def check?
    (line : Line)
    (row : Nat) : Checked Unit :=
  line.checkFrom? row 0

end Line

namespace Storage

/- Refuse an unpaired half in so many rows, from a row on. -/
def checkRows?
    (cells : Storage)
    (cols row : Nat) :
    Nat → Checked Unit
  | 0 => return ()
  | left + 1 => do
      let line ← cells.part? (row * cols) cols
      let here ← column? row
      Line.check? line here
      cells.checkRows? cols (row + 1) left

/-
  Refuse an unpaired half in a storage, row by row.  Rows of no
  cells cannot be told apart, so there is none to look at.
-/
def validate?
    (cells : Storage)
    (cols : Nat) : Checked Unit :=
  let width := max cols 1
  cells.checkRows? width 0 (cells.length / width)

end Storage

------------------------------------------------------------
-- Spans
------------------------------------------------------------

/- Whether a gap is drawn again, its cells looked up. -/
def canBridge?
    (line : Line)
    (start stop : Nat) : Option Bool := do
  let gap ← difference? stop start
  if maxBridge < gap ∨ start = 0 then
    return false
  else
    let before ← line.cell? (start - 1)
    let cells ← line.part? start stop
    if cells.all fun c => c.width = 1 && c.style = before.style then
      let gap ← column? gap
      return (cells.map Cell.byteLength).foldr (· + ·) 0
        ≤ relativeLength gap
    else
      return false

/- A changed unit after the spans so far, the last one first. -/
def addUnit?
    (line : Line)
    (u : Span) :
    List Span → Option (List Span)
  | [] => some [u]
  | s :: earlier => do
      let joined :=
        if s.stop = u.start then some true
        else canBridge? line s.stop u.start
      if ← joined then
        return ⟨s.start, u.stop⟩ :: earlier
      else
        return u :: s :: earlier

/-
  Whether the second half of a pair is what it was.  A narrow
  cell has none.
-/
def tailSame?
    (prev curr : Line)
    (col : Nat)
    (cell : Cell) : Option Bool :=
  if cell.isWide then do
    let tail ← curr.cell? (col + 1)
    let oldTail ← prev.cell? (col + 1)
    return decide (tail = oldTail)
  else
    some true

/-
  The spans of a line that differ from the line before, after
  those that end before a column.
-/
def changedSpansFrom?
    (row : Nat)
    (prev curr : Line)
    (col : Nat)
    (found : List Span) : Checked (List Span) :=
  if col < curr.length then do
    let cell ← curr.cell? col
    let old ← prev.cell? col
    let tailSame ← tailSame? prev curr col cell
    if cell = old then
      if tailSame then
        changedSpansFrom? row prev curr (col + cell.columns) found
      else
        let half ← column? (col + 1)
        throw (.invalidWideCharPairing row half)
    else
      let found ← addUnit? curr ⟨col, col + cell.columns⟩ found
      changedSpansFrom? row prev curr (col + cell.columns) found
  else
    return found.reverse
termination_by curr.length - col
decreasing_by all_goals
  have := cell.columns_pos
  omega

/- The spans of a line that differ from the line before. -/
def changedSpans?
    (row : Nat)
    (prev curr : Line) : Checked (List Span) :=
  changedSpansFrom? row prev curr 0 []

------------------------------------------------------------
-- Lines
------------------------------------------------------------

namespace Pen

/- Where the blanks before a column start, but no earlier. -/
def blanksFrom?
    (line : Line)
    (start : Nat) :
    Nat → Option Nat
  | 0 => some 0
  | tail + 1 =>
      if start < tail + 1 then do
        let cell ← line.cell? tail
        if cell.isBlank then blanksFrom? line start tail
        else return tail + 1
      else
        some (tail + 1)

/- Where the text of the last span ends, its cells looked up. -/
def textEnd?
    (line : Line)
    (s : Span) : Option Nat := do
  let after ← line.part? s.stop line.length
  if after.all Cell.isBlank then
    let tail ← blanksFrom? line s.start s.stop
    let blanks ← difference? s.stop tail
    return if minErase ≤ blanks then tail else s.stop
  else
    return s.stop

/- Where a run of one style ends, and its text. -/
def runFrom?
    (line : Line)
    (style : Style)
    (stop col : Nat)
    (chars : List Char) : Option (Nat × List Char) :=
  if col < stop then do
    let cell ← line.cell? col
    if cell.style = style then
      runFrom? line style stop (col + cell.columns)
        (chars ++ cell.text)
    else
      return (col, chars)
  else
    return (col, chars)
termination_by stop - col
decreasing_by
  have := cell.columns_pos
  omega

/- Write text, if the column after it fits into sixteen bits. -/
def write?
    (cols : Nat)
    (start : Position)
    (chars : List Char)
    (width : Nat)
    (pen : Pen) : Option Stroke := do
  let _ ← column? (start.col + width)
  return pen.write cols start chars width

/-
  Draw the cells of a line from one column to another.  A run
  that takes no column would be drawn for ever.
-/
def drawFrom?
    (cols row : Nat)
    (line : Line)
    (stop col : Nat)
    (pen : Pen) : Option Stroke :=
  if col < stop then do
    let cell ← line.cell? col
    let (next, chars) ← runFrom? line cell.style stop col []
    let start ← column? col
    let ready :=
      (pen.moveTo ⟨row, start⟩).andThen (setStyle cell.style)
    let width ← difference? next col
    let width ← column? width
    let written ← write? cols ⟨row, start⟩ chars width ready.pen
    if col < next then
      let later ← drawFrom? cols row line stop next written.pen
      return (ready.andThen fun _ => written).andThen fun _ => later
    else
      none
  else
    return pen.rest
termination_by stop - col

/- Draw the spans of a line. -/
def drawSpans?
    (cols row : Nat)
    (line : Line) :
    List Span → Pen → Option Stroke
  | [], pen => some pen.rest
  | s :: later, pen => do
      let stop :=
        if later.isEmpty then textEnd? line s else some s.stop
      let stop ← stop
      let drawn ← drawFrom? cols row line stop s.start pen
      let erased :=
        if stop < s.stop then do
          let start ← column? stop
          return drawn.andThen (erase cols ⟨row, start⟩)
        else
          some drawn
      let drawn ← erased
      let rest ← drawSpans? cols row line later drawn.pen
      return drawn.andThen fun _ => rest

/- Draw what changed in a line. -/
def drawLine?
    (cols row : Nat)
    (prev curr : Line)
    (pen : Pen) : Checked Stroke := do
  prev.check? row
  curr.check? row
  let spans ← changedSpans? row prev curr
  pen.drawSpans? cols row curr spans

/- Draw what changed in some lines, and count the equal ones. -/
def drawLines?
    (cols row : Nat) :
    List Line → List Line → Pen → Checked (Stroke × Nat)
  | prev :: prevs, curr :: currs, pen =>
      if prev = curr then do
        let (later, equal) ←
          drawLines? cols (row + 1) prevs currs pen
        return (later, equal + 1)
      else do
        let drawn ← pen.drawLine? cols row prev curr
        let (later, equal) ←
          drawLines? cols (row + 1) prevs currs drawn.pen
        return (drawn.andThen fun _ => later, equal)
  | _, _, pen => return (pen.rest, 0)

end Pen

------------------------------------------------------------
-- Screens
------------------------------------------------------------

namespace Plan

/- The steps from one grid to another, if all can be looked up. -/
def diffGrids?
    (prev curr : Grid)
    (belief : Belief) : Checked Plan :=
  if prev.size ≠ curr.size then
    throw (.dimensionMismatch prev.size curr.size)
  else if curr.isEmpty then
    return idle curr belief
  else do
    let pen : Pen := ⟨belief.position, .default⟩
    let (lines, equal) ←
      pen.drawLines? curr.cols 0 prev.lines curr.lines
    let whole :=
      (lines.andThen (Pen.setStyle .default)).andThen
        (Pen.placeCursor curr.cursor belief)
    return {
      ops := whole.ops
      rows := curr.rows
      cols := curr.cols
      origin := belief.position
      cursor := curr.cursor
      after := Belief.ofCursor curr.cursor
      stats := {
        rendered := whole.cells
        skipped := curr.size.area - whole.cells
        rowsSkipped := equal } }

/- The steps from one snapshot to another. -/
def diff?
    (prev curr : Snapshot)
    (belief : Belief) : Checked Plan :=
  diffGrids? prev.grid curr.grid belief

/- The steps that show a snapshot on any terminal. -/
def repaint? (curr : Snapshot) : Checked Plan := do
  let blank := Grid.blank curr.grid.rows curr.grid.cols
  let plan ← diffGrids? blank curr.grid .unknown
  return { plan with ops := .clearScreen :: plan.ops }

end Plan

end Redraw
