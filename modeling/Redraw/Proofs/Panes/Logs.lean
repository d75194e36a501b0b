import Redraw.Panes.Backlog
import Redraw.Proofs.Grid.Resizing

/-
  Logs: what the log pane keeps and shows.

  A log that only remembers numbers keeps what a queue of lines
  keeps: the latest lines in the order in which they came.  Each
  is drawn in a row of its own, clipped to the columns there are.

  Key definitions include:
    * `Backlog.IsRecent`: the latest lines, the oldest first
    * `LogLine.cellAt`: what a line shows in some columns
    * `Log.backlog`: the queue that a log stands for

  Main declarations:
    * `Backlog.isRecent_tick`
    * `Backlog.cell?_draw`
    * `Log.backlog_tick`, `Log.draw_eq`
-/

namespace Redraw

namespace Backlog

------------------------------------------------------------
-- Kept Lines
------------------------------------------------------------

/- What stays are the last lines, as many as are allowed. -/
theorem trim_eq_drop
    (height : Nat)
    (lines : List LogLine) :
    trim height lines = lines.drop (lines.length - height) := by
  induction lines with
  | nil => simp [trim]
  | cons oldest rest ih =>
      rw [trim, List.length_cons]
      split
      case isTrue hLong =>
        rw [ih, show rest.length + 1 - height =
          rest.length - height + 1 by omega, List.drop_succ_cons]
      case isFalse hShort =>
        rw [show rest.length + 1 - height = 0 by omega,
          List.drop_zero]

/-
  The lines are the latest of all that there have been, no more
  than a height allows, and the newest one if it allows any.
-/
structure IsRecent
    (b : Backlog)
    (height : Nat) : Prop where
  recent : b.lines <:+ (List.range b.next).map entry
  bounded : b.lines.length ≤ height
  newest : 0 < height → b.lines ≠ []

/- One more line: what leaves is in front of what stays. -/
theorem isRecent_tick
    {b : Backlog}
    (h : b.lines <:+ (List.range b.next).map entry)
    (height : Nat) :
    (b.tick height).IsRecent height := by
  have hTrim := trim_eq_drop height (b.lines ++ [entry b.next])
  have hLength : (b.tick height).lines.length = _ :=
    congrArg List.length hTrim
  rw [List.length_drop, List.length_append, List.length_singleton]
    at hLength
  refine ⟨?_, by omega, ?_⟩
  · change trim height (b.lines ++ [entry b.next]) <:+
      (List.range (b.next + 1)).map entry
    rw [hTrim, List.range_succ, List.map_append, List.map_singleton]
    rcases h with ⟨older, hOlder⟩
    exact (List.drop_suffix _ _).trans
      ⟨older, by rw [← List.append_assoc, hOlder]⟩
  · intro hSome
    rw [← List.length_pos_iff]
    omega

end Backlog

------------------------------------------------------------
-- Drawn Lines
------------------------------------------------------------

/- A line that is laid over an empty one, column by column. -/
theorem Line.cell?_overlay_blank
    {top : Line}
    (hTop : top.Matched)
    {cols col : Nat}
    (hCol : col < cols) :
    ((Line.blank cols).overlay 0 top).cell? col =
      some ((top.cell? col).elim .empty (Cell.fitted cols col)) := by
  have hInlays :=
    (Line.matched_blank cols).paired.inlays_overlay hTop 0
  rw [Line.length_blank, Nat.sub_zero] at hInlays
  by_cases hTaken : col < top.length
  · have hCell : top.cell? col = some top[col] :=
      List.getElem?_eq_getElem hTaken
    rw [hInlays.cell?_inside (Nat.zero_le col)
        (by rw [Line.length_clip]; omega),
      Nat.sub_zero, Line.cell?_clip cols top hCol, hCell]
    rfl
  · have hNone : top.cell? col = none :=
      List.getElem?_eq_none (by omega)
    have hEmpty := Line.cell?_blank hCol
    have hUnit : (Line.blank cols).continuationAt col = false := by
      rw [Line.continuationAt, hEmpty]
      rfl
    rw [hInlays col, Line.inlaid,
      if_neg (by rw [Line.length_clip]; omega),
      if_neg (by simp [hUnit]),
      hEmpty, hNone]
    rfl

theorem Grid.getElem?_lines_blank
    {rows row : Nat}
    (h : row < rows)
    (cols : Nat) :
    (blank rows cols).lines[row]? = some (Line.blank cols) := by
  simp [blank, h]

/- What a line of the log shows in one of some columns. -/
def LogLine.cellAt
    (line : LogLine)
    (cols col : Nat) : Cell :=
  ((Line.spread (Grid.cellsOf line.1 line.2)).cell? col).elim
    .empty (Cell.fitted cols col)

namespace Backlog

/- Lines are laid over the rows from one on. -/
theorem rewrites_putLines
    (lines : List LogLine)
    (k : Nat)
    (g : Grid) :
    g.Rewrites
      ((lines.zipIdx k).foldl
        (fun g (line, row) => g.put row 0 line.1 line.2) g)
      fun r cells =>
        if k ≤ r then
          (lines[r - k]?).elim cells fun line =>
            cells.overlay 0
              (Line.spread (Grid.cellsOf line.1 line.2))
        else cells := by
  induction lines generalizing k g with
  | nil =>
      refine g.rewrites_self.congr fun r cells _ _ => ?_
      simp
  | cons line rest ih =>
      have hFirst := g.rewrites_put k 0 line.1 line.2
      have hRest := ih (k + 1) (g.put k 0 line.1 line.2)
      rw [List.zipIdx_cons, List.foldl_cons]
      refine (hFirst.trans hRest).congr fun r cells _ _ => ?_
      rcases Nat.lt_trichotomy r k with hAbove | rfl | hBelow
      · rw [if_neg (by omega), if_neg (by omega), if_neg (by omega)]
      · rw [if_neg (by omega), if_pos rfl, if_pos (Nat.le_refl _),
          Nat.sub_self]
        rfl
      · rw [if_pos (by omega), if_neg (by omega), if_pos (by omega),
          show r - k = r - (k + 1) + 1 by omega]
        rfl

/- Row by row the lines from the top, and below them nothing. -/
theorem cell?_draw
    (b : Backlog)
    {rows cols row col : Nat}
    (hRow : row < rows)
    (hCol : col < cols) :
    (b.draw rows cols).cell? row col =
      some ((b.lines[row]?).elim .empty (·.cellAt cols col)) := by
  have hLine :=
    (rewrites_putLines (b.lines.take rows) 0
      (.blank rows cols)).lines row
  rw [Grid.getElem?_lines_blank hRow, Option.map_some,
    if_pos (Nat.zero_le row), Nat.sub_zero,
    List.getElem?_take_of_lt hRow] at hLine
  rw [draw, drawLines, Grid.cell?_of_line hLine]
  cases b.lines[row]? with
  | none => exact Line.cell?_blank hCol
  | some line =>
      exact
        Line.cell?_overlay_blank
          (Line.matched_spread
            (Grid.isContinuation_cellsOf line.1 line.2)) hCol

end Backlog

------------------------------------------------------------
-- Numbers for Lines
------------------------------------------------------------

namespace Log

/- The queue of lines that a log stands for. -/
def backlog (log : Log) : Backlog where
  lines := log.numbers.map Backlog.entry
  next := log.next

theorem length_backlog
    (log : Log) :
    log.backlog.lines.length = log.kept := by
  simp [backlog, numbers]

/- A log goes on as its queue does. -/
theorem backlog_tick
    {log : Log}
    (h : log.kept ≤ log.next)
    (height : Nat) :
    (log.tick height).backlog = log.backlog.tick height := by
  have hNext : log.next - log.kept + log.kept = log.next := by omega
  have hNumbers :
      log.numbers ++ [log.next] =
        List.range' (log.next - log.kept) (log.kept + 1) := by
    rw [List.range'_1_concat, hNext]
    rfl
  have hLines :
      log.backlog.lines ++ [Backlog.entry log.next] =
        (log.numbers ++ [log.next]).map Backlog.entry := by
    rw [List.map_append]
    rfl
  have hTrim :
      (log.tick height).numbers.map Backlog.entry =
        Backlog.trim height
          (log.backlog.lines ++ [Backlog.entry log.next]) := by
    rw [Backlog.trim_eq_drop, hLines, hNumbers, List.length_map,
      List.length_range', ← List.map_drop, List.drop_range']
    simp only [numbers, tick]
    congr 2 <;> omega
  exact congrArg (Backlog.mk · (log.next + 1)) hTrim

theorem kept_tick_le
    {log : Log}
    (h : log.kept ≤ log.next)
    (height : Nat) :
    (log.tick height).kept ≤ (log.tick height).next := by
  simp only [tick]
  omega

/- A log is drawn as its queue is. -/
theorem draw_eq
    (log : Log)
    (rows cols : Nat) :
    log.draw rows cols = log.backlog.draw rows cols := by
  rw [draw, Backlog.draw, Backlog.drawLines, backlog]
  simp only
  rw [← List.map_take, List.zipIdx_map, List.foldl_map]
  rfl

end Log

end Redraw
