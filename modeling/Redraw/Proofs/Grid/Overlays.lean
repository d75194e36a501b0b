import Redraw.Proofs.Grid.Composition

/-
  Overlays: what writing over a part of a grid changes.

  A part of the grid takes what is written.  Beside the part a
  half whose other half was overwritten becomes a space in its
  own style, and everything else stays, the extent and the
  cursor included.

  Key definitions include:
    * `Cell.fitted`: a cell as it is written in a column
    * `Line.PartedBy`: a half that lost the other one
    * `Line.Takes`, `Grid.Overlays`: columns that are written

  Main declarations:
    * `Line.Paired.takes_overlay`
    * `Grid.overlays_put`, `Grid.put_writes`
-/

namespace Redraw

/- A cell in one of some columns: no first half in the last. -/
def Cell.fitted
    (cols col : Nat)
    (c : Cell) : Cell :=
  if c.isWide ∧ col + 1 = cols then c.erased else c

------------------------------------------------------------
-- Lines
------------------------------------------------------------

namespace Line

/- A half whose other half is in a part of its line. -/
def PartedBy
    (line : Line)
    (part : Nat → Prop)
    (col : Nat) : Prop :=
  (line.wideAt col ∧ part (col + 1)) ∨
    (line.continuationAt col ∧ ∃ lead, col = lead + 1 ∧ part lead)

/-
  A line becomes another when a part of it takes cells, each in
  its own column.  A half beside the part that lost its other
  half becomes a space in its style, and all else is kept.
-/
structure Takes
    (line line' : Line)
    (part : Nat → Prop)
    (top : Nat → Option Cell) : Prop where
  written :
    ∀ {col}, part col →
      ∃ cell, top col = some cell ∧
        line'.cell? col = some (cell.fitted line.length col)
  parted :
    ∀ {col}, ¬ part col → line.PartedBy part col →
      line'.cell? col = (line.cell? col).map Cell.erased
  kept :
    ∀ {col}, ¬ part col → ¬ line.PartedBy part col →
      line'.cell? col = line.cell? col

variable {line : Line}
variable {part : Nat → Prop}

/- A line without written columns stays as it is. -/
theorem takes_self
    (line : Line)
    (h : ∀ col, ¬ part col)
    (top : Nat → Option Cell) :
    line.Takes line part top where
  written hPart := absurd hPart (h _)
  parted _ hParted := by
    rcases hParted with ⟨-, hPart⟩ | ⟨-, lead, -, hPart⟩
    · exact absurd hPart (h _)
    · exact absurd hPart (h _)
  kept _ _ := rfl

/- Only the columns right beside a part can be parted by it. -/
theorem partedBy_iff
    {start width : Nat}
    (hPart : ∀ col, part col ↔ start ≤ col ∧ col < start + width)
    {col : Nat}
    (hOutside : ¬ part col) :
    line.PartedBy part col ↔
      0 < width ∧
        (col + 1 = start ∧ line.wideAt col ∨
          col = start + width ∧ line.continuationAt col) := by
  rw [hPart] at hOutside
  unfold PartedBy
  simp only [hPart]
  constructor
  · rintro (⟨hWide, hNext⟩ | ⟨hContinued, lead, rfl, hLead⟩)
    · exact ⟨by omega, .inl ⟨by omega, hWide⟩⟩
    · exact ⟨by omega, .inr ⟨by omega, hContinued⟩⟩
  · rintro ⟨hSome, ⟨hNext, hWide⟩ | ⟨rfl, hContinued⟩⟩
    · exact .inl ⟨hWide, by omega⟩
    · exact
        .inr ⟨hContinued, start + width - 1, by omega, by omega⟩

/-
  A line takes what is copied to it, as far as its columns go.
-/
theorem Paired.takes_overlay
    (h : line.Paired)
    {cells : Line}
    (hCells : cells.Matched)
    (start : Nat)
    (hPart :
      ∀ col, part col ↔
        start ≤ col ∧ col < start + cells.length ∧
          col < line.length) :
    line.Takes (line.overlay start cells) part
      fun col => cells.cell? (col - start) := by
  have hLaid := h.inlays_overlay hCells start
  have hLength := length_clip (line.length - start) cells
  have hInside (col : Nat) :
      part col ↔
        start ≤ col ∧
          col < start + (clip (line.length - start) cells).length := by
    rw [hPart, hLength]
    omega
  constructor
  case written =>
    intro col hCol
    rcases (hPart col).mp hCol with ⟨hFrom, hTo, hEnd⟩
    have hCell : cells.cell? (col - start) = some cells[col - start] :=
      List.getElem?_eq_getElem (by omega)
    refine ⟨cells[col - start], hCell, ?_⟩
    rw [hLaid.cell?_inside hFrom ((hInside col).mp hCol).2,
      cell?_clip _ _ (by omega), hCell]
    have hLast :
        col - start + 1 = line.length - start ↔
          col + 1 = line.length := by
      omega
    simp only [Option.map_some, Cell.fitted, hLast]
  case parted =>
    intro col hCol hParted
    rw [partedBy_iff hInside hCol] at hParted
    rw [hInside] at hCol
    rw [hLaid col, inlaid, if_neg hCol, if_pos hParted]
  case kept =>
    intro col hCol hKept
    rw [partedBy_iff hInside hCol] at hKept
    rw [hInside] at hCol
    rw [hLaid col, inlaid, if_neg hCol, if_neg hKept]

end Line

------------------------------------------------------------
-- Grids
------------------------------------------------------------

namespace Grid

/-
  A grid becomes another when a part of it takes cells, line by
  line.  Its extent and its cursor stay.
-/
structure Overlays
    (g g' : Grid)
    (part : Nat → Nat → Prop)
    (top : Nat → Nat → Option Cell) : Prop where
  size : g'.size = g.size
  cursor : g'.cursor = g.cursor
  lines :
    ∀ {row : Nat} {line line' : Line},
      g.lines[row]? = some line → g'.lines[row]? = some line' →
        line.Takes line' (part row) (top row)

variable {g g' g'' : Grid}

/- There are lines just in the rows. -/
theorem getElem?_lines_eq_none_iff
    {row : Nat} :
    g.lines[row]? = none ↔ g.rows ≤ row := by
  rw [List.getElem?_eq_none_iff, g.lines_length]

theorem lt_rows_of_line
    {row : Nat}
    {line : Line}
    (h : g.lines[row]? = some line) :
    row < g.rows := by
  rw [← Nat.not_le, ← getElem?_lines_eq_none_iff, h]
  exact Option.some_ne_none line

theorem paired_of_line
    (hValid : g.validate = .ok ())
    {row : Nat}
    {line : Line}
    (h : g.lines[row]? = some line) :
    line.Paired :=
  g.validate_eq_ok_iff.mp hValid line (List.mem_of_getElem? h)

/- A written cell is found in its row and column. -/
theorem Overlays.written
    {part : Nat → Nat → Prop}
    {top : Nat → Nat → Option Cell}
    (h : g.Overlays g' part top)
    {row col : Nat}
    (hRow : row < g.rows)
    (hPart : part row col) :
    ∃ cell, top row col = some cell ∧
      g'.cell? row col = some (cell.fitted g.cols col) := by
  have hRows : g'.rows = g.rows := congrArg Size.rows h.size
  have hLine : g.lines[row]? = some _ :=
    List.getElem?_eq_getElem (by rw [g.lines_length]; exact hRow)
  have hLine' : g'.lines[row]? = some _ :=
    List.getElem?_eq_getElem
      (by rw [g'.lines_length, hRows]; exact hRow)
  rcases (h.lines hLine hLine').written hPart with
    ⟨cell, hTop, hCell⟩
  refine ⟨cell, hTop, ?_⟩
  rw [cell?_of_line hLine', ← length_of_line hLine]
  exact hCell

------------------------------------------------------------
-- Changed Lines
------------------------------------------------------------

/-
  A grid becomes another when every line is changed in a way
  that its row tells, and nothing else is.
-/
structure Rewrites
    (g g' : Grid)
    (change : Nat → Line → Line) : Prop where
  size : g'.size = g.size
  cursor : g'.cursor = g.cursor
  lines : ∀ row : Nat, g'.lines[row]? = (g.lines[row]?).map (change row)

variable {change next : Nat → Line → Line}

theorem rewrites_self
    (g : Grid) :
    g.Rewrites g fun _ line => line :=
  ⟨rfl, rfl, fun row => by simp⟩

theorem Rewrites.rows
    (h : g.Rewrites g' change) :
    g'.rows = g.rows :=
  congrArg Size.rows h.size

theorem Rewrites.cols
    (h : g.Rewrites g' change) :
    g'.cols = g.cols :=
  congrArg Size.cols h.size

theorem Rewrites.trans
    (h : g.Rewrites g' change)
    (hNext : g'.Rewrites g'' next) :
    g.Rewrites g'' fun row line => next row (change row line) where
  size := hNext.size.trans h.size
  cursor := hNext.cursor.trans h.cursor
  lines row := by
    rw [hNext.lines, h.lines, Option.map_map]
    rfl

/- Only what a change does to lines of the grid counts. -/
theorem Rewrites.congr
    (h : g.Rewrites g' change)
    (hSame :
      ∀ row line, row < g.rows → line.length = g.cols →
        change row line = next row line) :
    g.Rewrites g' next where
  size := h.size
  cursor := h.cursor
  lines row := by
    rw [h.lines]
    cases hLine : g.lines[row]? with
    | none => rfl
    | some line =>
        exact
          congrArg some
            (hSame row line (lt_rows_of_line hLine)
              (length_of_line hLine))

/- The same change leads to the same grid. -/
theorem Rewrites.unique
    (h : g.Rewrites g' change)
    (h' : g.Rewrites g'' change) :
    g' = g'' := by
  have hSize : g'.size = g''.size := h.size.trans h'.size.symm
  have hRows : g'.rows = g''.rows := congrArg Size.rows hSize
  have hCols : g'.cols = g''.cols := congrArg Size.cols hSize
  have hCursor : g'.cursor = g''.cursor :=
    h.cursor.trans h'.cursor.symm
  have hLines : g'.lines = g''.lines :=
    List.ext_getElem? fun row => (h.lines row).trans (h'.lines row).symm
  cases g'
  cases g''
  simp_all

/- What every changed line takes, the grid takes. -/
theorem Rewrites.overlays
    (h : g.Rewrites g' change)
    {part : Nat → Nat → Prop}
    {top : Nat → Nat → Option Cell}
    (hTakes :
      ∀ {row : Nat} {line : Line}, g.lines[row]? = some line →
        line.Takes (change row line) (part row) (top row)) :
    g.Overlays g' part top where
  size := h.size
  cursor := h.cursor
  lines := by
    intro row line line' hLine hLine'
    rw [h.lines, hLine] at hLine'
    cases hLine'
    exact hTakes hLine

------------------------------------------------------------
-- Texts
------------------------------------------------------------

theorem isContinuation_cellsOf
    (text : List Char)
    (style : Style) :
    ∀ c ∈ cellsOf text style, c.isContinuation = false := by
  intro c hc
  rcases List.mem_map.mp hc with ⟨cluster, -, rfl⟩
  exact Cell.isContinuation_styled cluster style

/- A text is copied to its row with its second halves. -/
theorem rewrites_put
    (g : Grid)
    (row col : Nat)
    (text : List Char)
    (style : Style) :
    g.Rewrites (g.put row col text style) fun r line =>
      if r = row then
        line.overlay col (Line.spread (cellsOf text style))
      else line where
  size := rfl
  cursor := rfl
  lines r := by
    have hUnits := isContinuation_cellsOf text style
    rw [put, modifyLine, List.getElem?_modify]
    by_cases hRow : r = row
    · simp [hRow, Line.write_eq_overlay _ col hUnits]
    · simp [hRow, Ne.symm hRow]

theorem putWidth_eq
    (g : Grid)
    (row col : Nat)
    (text : List Char)
    (style : Style) :
    g.putWidth row col text style =
      if row < g.rows then
        min ((cellsOf text style).map Cell.width).sum (g.cols - col)
      else 0 := by
  rw [putWidth, line?]
  cases hLine : g.lines[row]? with
  | none =>
      have hRow := getElem?_lines_eq_none_iff.mp hLine
      rw [if_neg (Nat.not_lt.mpr hRow)]
  | some line =>
      have hUnits := isContinuation_cellsOf text style
      rw [if_pos (lt_rows_of_line hLine)]
      simp only [line.column_write col hUnits, length_of_line hLine,
        Nat.add_sub_cancel_left]

/- Outside of a grid no text is written. -/
theorem put_of_outside
    {row col : Nat}
    (hOut : g.rows ≤ row ∨ g.cols ≤ col)
    (text : List Char)
    (style : Style) :
    g.put row col text style = g := by
  apply Rewrites.unique _ g.rewrites_self
  refine (g.rewrites_put row col text style).congr ?_
  intro r line hRow hLength
  split
  · rw [Line.overlay_of_length_le (by omega)]
  · rfl

/- In a grid it takes the columns that its cells are wide. -/
theorem overlays_put
    (hValid : g.validate = .ok ())
    (row col : Nat)
    (text : List Char)
    (style : Style) :
    g.Overlays (g.put row col text style)
      (fun r c =>
        r = row ∧ col ≤ c ∧
          c < col +
            min ((cellsOf text style).map Cell.width).sum
              (g.cols - col))
      (fun _ c =>
        (Line.spread (cellsOf text style)).cell? (c - col)) := by
  apply (g.rewrites_put row col text style).overlays
  intro r line hLine
  have hUnits := isContinuation_cellsOf text style
  split
  case isTrue hHere =>
    apply (paired_of_line hValid hLine).takes_overlay
      (Line.matched_spread hUnits)
    intro c
    rw [Line.length_spread hUnits, length_of_line hLine]
    omega
  case isFalse hOther =>
    exact line.takes_self (fun c hPart => hOther hPart.1) _

/-
  A text that starts in a grid is written with its second halves
  from there on, as many columns as its clusters are wide and
  the line goes on.  Beside them only a half that lost its other
  half is changed.  Outside of the grid nothing is written.
-/
theorem put_writes
    (g : Grid)
    (hValid : g.validate = .ok ())
    (row col : Nat)
    (text : List Char)
    (style : Style) :
    (g.rows ≤ row ∨ g.cols ≤ col →
        g.putWidth row col text style = 0 ∧
          g.put row col text style = g) ∧
      (row < g.rows → col < g.cols →
        ∃ n,
          n =
              min ((cellsOf text style).map Cell.width).sum
                (g.cols - col) ∧
            g.putWidth row col text style = n ∧
              g.Overlays (g.put row col text style)
                (fun r c => r = row ∧ col ≤ c ∧ c < col + n)
                (fun _ c =>
                  (Line.spread (cellsOf text style)).cell?
                    (c - col))) := by
  have hWidth := g.putWidth_eq row col text style
  constructor
  · intro hOut
    refine ⟨?_, put_of_outside hOut text style⟩
    rw [hWidth]
    split
    · rw [Nat.sub_eq_zero_of_le (by omega), Nat.min_zero]
    · rfl
  · intro hRow hCol
    rw [if_pos hRow] at hWidth
    exact ⟨_, rfl, hWidth, overlays_put hValid row col text style⟩

/- Two pairs, and a text from the middle of one to the edge. -/
def twoPairs : Grid :=
  (Grid.blank 1 4).put 0 0 ['漢', '字'] .default

/- Its wide end would cross the edge, and its start parts a pair. -/
theorem put_writes_across :
    twoPairs.validate = .ok () ∧
      twoPairs.putWidth 0 1 ['a', 'b', '漢'] .default = 3 ∧
        twoPairs.Overlays (twoPairs.put 0 1 ['a', 'b', '漢'] .default)
          (fun r c => r = 0 ∧ 1 ≤ c ∧ c < 1 + 3)
          (fun _ c =>
            (Line.spread (cellsOf ['a', 'b', '漢'] .default)).cell?
              (c - 1)) := by
  have hValid : twoPairs.validate = .ok () :=
    ((Composed.blank 1 4).put 0 0 _ _).valid
  rcases
      (twoPairs.put_writes hValid 0 1 ['a', 'b', '漢'] .default).2
        (by decide +kernel) (by decide +kernel) with
    ⟨n, hWide, hWidth, hOverlays⟩
  obtain rfl : n = 3 := hWide.trans (by decide +kernel)
  exact ⟨hValid, hWidth, hOverlays⟩

end Grid

end Redraw
