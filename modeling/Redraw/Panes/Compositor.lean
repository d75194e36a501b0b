import Redraw.Panes.Meter
import Redraw.Thread.Worker

/-
  The program's screen: the log on the left, the meter on the
  right, a border between them and a status line below.

  Key definitions include:
    * `Layout`: who gets which rows and columns
    * `Compositor.draw`: a screen for any levels
    * `Compositor.compose`: the next screen
    * `Compositor.take`: act on reports
-/

namespace Redraw

/- How a screen is shared out. -/
structure Layout where
  rows : Nat
  cols : Nat
  deriving DecidableEq, Repr

namespace Layout

/- Rows of the panes: all but the status line. -/
def body (l : Layout) : Nat := l.rows - 1

/- Columns of the log, and the column of the border. -/
def left (l : Layout) : Nat := l.cols / 2

/- Columns of the meter. -/
def right (l : Layout) : Nat := l.cols - (l.left + 1)

end Layout

/-
  The state behind the screen: both panes, and how many frames
  have reached the terminal.
-/
structure Compositor where
  log : Log := {}
  meter : Meter := {}
  committed : Nat := 0

namespace Compositor

------------------------------------------------------------
-- The Screen
------------------------------------------------------------

/- The style of the border. -/
def borderStyle : Style :=
  Style.default.withFg (.indexed 8)

/- The style of the status line. -/
def statusStyle : Style :=
  Style.default.withAttrs { reverse := true }

/- A border down a column. -/
def drawBorder
    (g : Grid)
    (rows col : Nat) : Grid :=
  (List.range rows).foldl
    (fun g row => g.set row col (.styled ['│'] borderStyle)) g

/-
  The status line: the size, the frames shown and the time
  since the start in tenths of a second, filled up to the edge.
-/
def statusLine
    (l : Layout)
    (committed tenths : Nat) : List Char :=
  let number (n : Nat) := Nat.toDigits 10 n
  " ttx  ".toList ++ number l.cols ++ 'x' :: number l.rows
    ++ "  frames ".toList ++ number committed
    ++ "  up ".toList ++ number (tenths / 10)
    ++ '.' :: number (tenths % 10) ++ "s  q: quit".toList
    ++ List.replicate l.cols ' '

/- The cursor stands on the last line of the log. -/
def cursor
    (l : Layout)
    (log : Log) : Cursor where
  row := min log.kept l.body - 1
  shape := .steadyBar

/- The screen for a log and any levels of the meter. -/
def draw
    (l : Layout)
    (log : Log)
    (shares : Shares)
    (committed tenths : Nat) : Grid :=
  let log' := log.draw l.body l.left
  let meter := Meter.draw shares l.body l.right
  let panes :=
    (drawBorder ((Grid.blank l.rows l.cols).blit log' 0 0)
      l.body l.left).blit meter 0 (l.left + 1)
  (panes.put l.body 0 (statusLine l committed tenths)
    statusStyle).withCursor (cursor l log)

/- Both panes move on by one step. -/
def tick
    (c : Compositor)
    (l : Layout) : Compositor :=
  { c with log := c.log.tick l.body, meter := c.meter.tick }

/- The next screen. -/
def compose
    (c : Compositor)
    (l : Layout)
    (tenths : Nat) : Grid × Compositor :=
  let c := c.tick l
  (draw l c.log c.meter.shares c.committed tenths, c)

------------------------------------------------------------
-- Reports
------------------------------------------------------------

/-
  Count the frames shown, up to the first failure; what comes
  after it is left.
-/
def take
    (c : Compositor) :
    List Report → Option Error × List Report × Compositor
  | [] => (none, [], c)
  | .committed _ _ :: rs =>
      take { c with committed := c.committed + 1 } rs
  | .rejected _ _ :: rs => take c rs
  | .failed e :: rs => (some e, rs, c)

end Compositor

end Redraw
