import Redraw.Escape.Command
import Redraw.Grid.Line

/-
  Spans: which columns of a line have to be drawn.

  A line is compared unit by unit, a unit being a narrow cell
  or a whole pair.  Spans of changed units that are separated
  by a few unchanged cells are joined when drawing those cells
  again is no longer than moving over them.

  Key definitions include:
    * `Span`
    * `changedUnits`, `joinSpans`, `changedSpans`
    * `canBridge`
-/

namespace Redraw

/- The columns from `start` up to but not including `stop`. -/
structure Span where
  start : Nat
  stop : Nat
  deriving DecidableEq, Repr

/- The longest gap of unchanged cells that is drawn again. -/
def maxBridge : Nat := 3

/-
  The units of a line that differ from the line before, from a
  column on.  A pair whose second half alone differs cannot be
  drawn.
-/
def changedUnits
    (row col : Nat) :
    Line → Line → Except Error (List Span)
  | cell :: curr, old :: prev =>
      if cell.isWide then
        match curr, prev with
        | tail :: curr, oldTail :: prev =>
            if cell = old then
              if tail = oldTail then
                changedUnits row (col + 2) curr prev
              else
                .error (.invalidWideCharPairing row (col + 1))
            else do
              let later ← changedUnits row (col + 2) curr prev
              return ⟨col, col + 2⟩ :: later
        | _, _ => .ok []
      else if cell = old then
        changedUnits row (col + 1) curr prev
      else do
        let later ← changedUnits row (col + 1) curr prev
        return ⟨col, col + 1⟩ :: later
  | _, _ => .ok []

/-
  Whether drawing a gap of a line again is no longer than
  moving over it.  Its cells are narrow and have the style that
  the cell before the gap leaves.
-/
def canBridge
    (line : Line)
    (start stop : Nat) : Bool :=
  match line.cell? (start - 1) with
  | none => false
  | some before =>
      let gap := (line.take stop).drop start
      0 < start
      && stop - start ≤ maxBridge
      && gap.all (fun c => c.width = 1 && c.style = before.style)
      && (gap.map Cell.byteLength).foldr (· + ·) 0
          ≤ relativeLength (stop - start)

/- Whether two spans are drawn in one go. -/
def Span.joins
    (line : Line)
    (s t : Span) : Bool :=
  s.stop = t.start || canBridge line s.stop t.start

/- Join neighbouring spans, the first of them `s`. -/
def joinSpans
    (line : Line)
    (s : Span) :
    List Span → List Span
  | [] => [s]
  | t :: rest =>
      if s.joins line t then joinSpans line ⟨s.start, t.stop⟩ rest
      else s :: joinSpans line t rest

/- The spans of a line that differ from the line before. -/
def changedSpans
    (row : Nat)
    (prev curr : Line) : Except Error (List Span) := do
  match ← changedUnits row 0 curr prev with
  | [] => return []
  | s :: rest => return joinSpans curr s rest

end Redraw
