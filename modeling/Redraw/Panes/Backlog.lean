import Redraw.Panes.Log

/-
  Backlogs: the lines of the log pane, kept in a queue.

  A new line goes to the end.  The oldest ones leave, one after
  another, as long as there are more lines than a height allows.

  Key definitions include:
    * `Backlog`, `Backlog.tick`
    * `Backlog.draw`
-/

namespace Redraw

/- A line of the log: its text and its style. -/
abbrev LogLine := List Char × Style

/- Kept lines, the oldest first, and the next line's number. -/
structure Backlog where
  lines : List LogLine := []
  next : Nat := 0
  deriving DecidableEq

namespace Backlog

/- A line by its number. -/
def entry (n : Nat) : LogLine :=
  (Log.line n, Log.lineStyle n)

/- The oldest lines leave until a height is enough. -/
def trim
    (height : Nat) :
    List LogLine → List LogLine
  | [] => []
  | oldest :: rest =>
      if height < rest.length + 1 then trim height rest
      else oldest :: rest

/- Add a line and keep as many as a height allows. -/
def tick
    (b : Backlog)
    (height : Nat) : Backlog where
  lines := trim height (b.lines ++ [entry b.next])
  next := b.next + 1

/- Lines one below the other, cut off at the edges. -/
def drawLines
    (lines : List LogLine)
    (rows cols : Nat) : Grid :=
  (lines.take rows).zipIdx.foldl
    (fun g (line, row) => g.put row 0 line.1 line.2)
    (.blank rows cols)

/- The kept lines from the top. -/
def draw
    (b : Backlog)
    (rows cols : Nat) : Grid :=
  drawLines b.lines rows cols

end Backlog

end Redraw
