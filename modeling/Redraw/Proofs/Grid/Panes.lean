import Redraw.Grid.Copying
import Redraw.Proofs.Grid.Overlays

/-
  Panes: what copying a grid onto another changes.

  Cells are copied one after another, and each write mends what
  it cuts.  Line by line that lays the source over the target,
  so no later write undoes an earlier one.  A place counted in
  sixteen bits is either the right one or outside.

  Main declarations:
    * `Grid.copy_eq_blit`
    * `Grid.overlays_blit`
    * `Grid.blit_composes`
-/

namespace Redraw

namespace Grid

variable {g : Grid}

------------------------------------------------------------
-- One Cell After Another
------------------------------------------------------------

/- Below what sixteen bits can say, a sum is what it is. -/
theorem saturatingAdd_cases
    {bound : Nat}
    (hBound : bound ≤ maxColumn)
    (a b : Nat) :
    bound ≤ saturatingAdd a b ∧ bound ≤ a + b ∨
      saturatingAdd a b = a + b ∧ a + b < bound := by
  unfold saturatingAdd
  omega

/- A continuation is not written by itself. -/
theorem set_of_isContinuation
    (g : Grid)
    (row col : Nat)
    {cell : Cell}
    (h : cell.isContinuation = true) :
    g.set row col cell = g := by
  simp [set, accepts, h]

/- A written cell is placed in its line. -/
theorem rewrites_set
    (g : Grid)
    (row col : Nat)
    (cell : Cell) :
    g.Rewrites (g.set row col cell) fun r line =>
      if r = row then line.place col cell else line := by
  by_cases hAccepts : g.accepts row col cell = true
  · rw [set, if_pos hAccepts]
    refine ⟨rfl, rfl, fun r => ?_⟩
    rw [modifyLine, List.getElem?_modify]
    by_cases hRow : r = row
    · simp [hRow]
    · simp [hRow, Ne.symm hRow]
  · rw [set, if_neg hAccepts]
    refine g.rewrites_self.congr fun r line hInside hLength => ?_
    split
    case isFalse hOther => rfl
    case isTrue hRow =>
      by_cases hContinued : cell.isContinuation = true
      · rw [Line.place_of_isContinuation line col hContinued]
      · have hOut : g.cols ≤ col := by
          simpa [accepts, inBounds, hContinued, ← hRow, hInside]
            using hAccepts
        rw [Line.place_of_length_le (by omega)]

/- Cells that are copied into a row change its line alone. -/
theorem rewrites_copyCells
    (row col : Nat)
    {g : Grid}
    (hCols : g.cols ≤ maxColumn)
    (i : Nat)
    (cells : List Cell) :
    g.Rewrites (copyCells row col i cells g) fun r line =>
      if r = row then line.overlay (col + i) cells else line := by
  induction cells generalizing i g with
  | nil =>
      refine g.rewrites_self.congr fun r line _ _ => ?_
      simp [Line.overlay]
  | cons cell rest ih =>
      rw [copyCells]
      rcases saturatingAdd_cases hCols col i with
        ⟨hEnd, hOut⟩ | ⟨hHere, hInside⟩
      · rw [if_pos hEnd]
        refine g.rewrites_self.congr fun r line _ hLength => ?_
        rw [Line.overlay_of_length_le (by omega), ite_self]
      · have hStep :
            (if cell.isContinuation then g
              else g.set row (col + i) cell) =
              g.set row (col + i) cell := by
          split
          case isTrue hContinued =>
            exact (set_of_isContinuation g row _ hContinued).symm
          case isFalse hUnit => rfl
        have hNext := g.rewrites_set row (col + i) cell
        have hRest := ih (by rw [hNext.cols]; exact hCols) (i + 1)
        rw [hHere, if_neg (by omega), hStep]
        refine (hNext.trans hRest).congr fun r line _ hLength => ?_
        split
        · rw [Line.overlay.eq_def line (col + i), ← Nat.add_assoc]
          simp only
          rw [if_neg (by omega)]
        · rfl

/- Lines that are copied below a row change theirs alone. -/
theorem rewrites_copyLines
    (row col : Nat)
    {g : Grid}
    (hRows : g.rows ≤ maxColumn)
    (hCols : g.cols ≤ maxColumn)
    (i : Nat)
    (lines : List Line) :
    g.Rewrites (copyLines row col i lines g) fun r line =>
      if row + i ≤ r then
        (lines[r - (row + i)]?).elim line (line.overlay col ·)
      else line := by
  induction lines generalizing i g with
  | nil =>
      refine g.rewrites_self.congr fun r line _ _ => ?_
      simp
  | cons cells rest ih =>
      rw [copyLines]
      rcases saturatingAdd_cases hRows row i with
        ⟨hEnd, hOut⟩ | ⟨hHere, hInside⟩
      · rw [if_pos hEnd]
        refine g.rewrites_self.congr fun r line hRow _ => ?_
        rw [if_neg (by omega)]
      · have hNext := rewrites_copyCells (row + i) col hCols 0 cells
        have hRest :=
          ih (by rw [hNext.rows]; exact hRows)
            (by rw [hNext.cols]; exact hCols) (i + 1)
        rw [hHere, if_neg (by omega)]
        refine (hNext.trans hRest).congr fun r line _ _ => ?_
        rcases Nat.lt_trichotomy r (row + i) with
          hAbove | rfl | hBelow
        · rw [if_neg (by omega), if_neg (by omega), if_neg (by omega)]
        · rw [if_neg (by omega), if_pos rfl, if_pos (Nat.le_refl _),
            Nat.sub_self]
          rfl
        · rw [if_pos (by omega), if_neg (by omega), if_pos (by omega),
            show r - (row + i) = r - (row + (i + 1)) + 1 by omega]
          rfl

------------------------------------------------------------
-- Panes
------------------------------------------------------------

theorem rewrites_blit
    (g src : Grid)
    (row col : Nat) :
    g.Rewrites (g.blit src row col) fun r line =>
      if row ≤ r then
        (src.lines[r - row]?).elim line (line.overlay col ·)
      else line :=
  ⟨rfl, rfl, fun _ => List.getElem?_mapIdx⟩

/- Counting in sixteen bits, cell by cell, comes to the same. -/
theorem copy_eq_blit
    (hRows : g.rows ≤ maxColumn)
    (hCols : g.cols ≤ maxColumn)
    (src : Grid)
    (row col : Nat) :
    g.copy src row col = g.blit src row col :=
  (rewrites_copyLines row col hRows hCols 0 src.lines).unique
    (g.rewrites_blit src row col)

/-
  A grid that is copied takes the rectangle that it covers, as
  far as it is inside the other.
-/
theorem overlays_blit
    {src : Grid}
    (hValid : g.validate = .ok ())
    (hSource : ∀ line ∈ src.lines, line.Matched)
    (row col : Nat) :
    g.Overlays (g.blit src row col)
      (fun r c =>
        row ≤ r ∧ r < row + src.rows ∧ r < g.rows ∧
          col ≤ c ∧ c < col + src.cols ∧ c < g.cols)
      (fun r c => src.cell? (r - row) (c - col)) := by
  apply (g.rewrites_blit src row col).overlays
  intro r line hLine
  have hInside := lt_rows_of_line hLine
  split
  case isFalse hAbove =>
    exact line.takes_self (fun c hPart => hAbove hPart.1) _
  case isTrue hFrom =>
  cases hCells : src.lines[r - row]? with
  | none =>
      have hTo := getElem?_lines_eq_none_iff.mp hCells
      exact line.takes_self (fun c hPart => by omega) _
  | some cells =>
      have hTo := lt_rows_of_line hCells
      have hTop :
          (fun c => src.cell? (r - row) (c - col)) =
            fun c => cells.cell? (c - col) := by
        funext c
        exact cell?_of_line hCells _
      rw [hTop]
      apply (paired_of_line hValid hLine).takes_overlay
        (hSource cells (List.mem_of_getElem? hCells))
      intro c
      rw [length_of_line hCells, length_of_line hLine]
      omega

/-
  Copying a composed grid onto another takes the rectangle that
  it covers, cut off at the other's edges.  Beside it only a
  half that lost its other half is changed.  Cell by cell, with
  places counted in sixteen bits, comes to the same.
-/
theorem blit_composes
    (g src : Grid)
    (hTarget : g.Composed)
    (hSource : src.Composed)
    (row col : Nat) :
    g.Overlays (g.blit src row col)
        (fun r c =>
          row ≤ r ∧ r < row + src.rows ∧ r < g.rows ∧
            col ≤ c ∧ c < col + src.cols ∧ c < g.cols)
        (fun r c => src.cell? (r - row) (c - col)) ∧
      (g.rows ≤ maxColumn → g.cols ≤ maxColumn →
        g.copy src row col = g.blit src row col) :=
  ⟨overlays_blit hTarget.valid hSource.matched row col,
    fun hRows hCols => copy_eq_blit hRows hCols src row col⟩

/- A pane that is one wide character. -/
def widePane : Grid :=
  (Grid.blank 1 2).put 0 0 ['漢'] .default

/- In the last column only a space is left of it. -/
theorem blit_composes_cut :
    (Grid.blank 1 3).Composed ∧ widePane.Composed ∧
      ((Grid.blank 1 3).blit widePane 0 2).cell? 0 2 =
        some .empty := by
  have hTarget := Composed.blank 1 3
  have hPane : widePane.Composed :=
    (Composed.blank 1 2).put 0 0 ['漢'] .default
  have hOverlays := (blit_composes _ _ hTarget hPane 0 2).1
  rcases @Overlays.written _ _ _ _ hOverlays 0 2 (by decide)
      (by decide +kernel) with
    ⟨cell, hTop, hCell⟩
  have hCorner :
      widePane.cell? 0 0 = some (.styled ['漢'] .default) := by
    decide +kernel
  obtain rfl : .styled ['漢'] .default = cell :=
    Option.some.inj (hCorner.symm.trans hTop)
  exact ⟨hTarget, hPane, hCell.trans (by decide +kernel)⟩

end Grid

end Redraw
