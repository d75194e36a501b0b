import Redraw.Grid.Storage
import Redraw.Proofs.Grid.Overlays

/-
  Resizing: what a new extent leaves of a grid.

  What is inside both extents stays, but for a pair of which the
  new last column has the first half only.  A longer line only
  gets empty cells behind its old ones, so that cutting it again
  gives the line it was.

  Key definitions include:
    * `Grid.CutAt`: a pair that a last column parts
    * `Grid.Reframes`: a grid becomes one of another extent

  Main declarations:
    * `Line.cell?_resize`
    * `Storage.resize?_cells`
    * `Grid.resize_keeps_overlap`
-/

namespace Redraw

/- Moving a cursor inside twice, first into a larger screen. -/
theorem Cursor.clamp_clamp_of_le
    (c : Cursor)
    {rows cols rows' cols' : Nat}
    (hRows : rows ≤ rows')
    (hCols : cols ≤ cols') :
    (c.clamp rows' cols').clamp rows cols = c.clamp rows cols := by
  simp only [clamp, Nat.min_assoc,
    Nat.min_eq_right (Nat.sub_le_sub_right hRows 1),
    Nat.min_eq_right (Nat.sub_le_sub_right hCols 1)]

------------------------------------------------------------
-- Lines
------------------------------------------------------------

namespace Line

variable {line : Line}

theorem cell?_blank
    {cols col : Nat}
    (h : col < cols) :
    (blank cols).cell? col = some .empty := by
  simp [blank, cell?, h]

/- A line cut or filled to a length, column by column. -/
theorem cell?_resize
    (line : Line)
    {cols col : Nat}
    (hCol : col < cols) :
    (line.resize cols).cell? col =
      if line.length ≤ col then some .empty
      else if col + 1 = cols ∧ line.wideAt col then
        (line.cell? col).map Cell.erased
      else line.cell? col := by
  by_cases hGrown : line.length < cols
  · rw [resize, if_pos hGrown, cell?_append]
    by_cases hOld : col < line.length
    · rw [if_pos hOld, if_neg (by omega), if_neg (by omega)]
    · rw [if_neg hOld, if_pos (by omega), cell?_blank (by omega)]
  · have hTaken : cell? (line.take cols) col = line.cell? col :=
      List.getElem?_take_of_lt hCol
    have hOld : ¬ line.length ≤ col := by omega
    simp only [resize, if_neg hGrown, if_neg hOld]
    by_cases hLast : col + 1 = cols
    · obtain rfl := hLast
      rw [Nat.add_sub_cancel, wideAt_take_succ]
      simp only [true_and]
      split
      · rw [cell?_eraseAt, if_pos rfl, hTaken]
      · exact hTaken
    · simp only [hLast, false_and, if_false]
      split
      · rw [cell?_eraseAt, if_neg (by omega), hTaken]
      · exact hTaken

theorem cell?_of_length_le
    {col : Nat}
    (h : line.length ≤ col) :
    line.cell? col = none :=
  List.getElem?_eq_none h

/- The first halves that are left have a column after them. -/
theorem wideAt_resize
    (line : Line)
    (cols col : Nat) :
    (line.resize cols).wideAt col =
      (decide (col + 1 < cols) && line.wideAt col) := by
  by_cases hCol : col < cols
  · rw [wideAt, cell?_resize line hCol]
    split
    case isTrue hNew =>
      simp [wideAt, cell?_of_length_le hNew, Cell.empty, Cell.blank,
        Cell.isWide]
    case isFalse hOld =>
    split
    case isTrue hCut =>
      rw [Cell.any_isWide_map_erased, ← hCut.1]
      simp
    case isFalse hKept =>
      rw [← wideAt]
      grind
  · have hEnd : (line.resize cols).length ≤ col := by
      rw [length_resize]
      omega
    rw [wideAt, cell?_of_length_le hEnd, decide_eq_false (by omega)]
    rfl

/- Second halves stay as far as the columns go. -/
theorem continuationAt_resize
    (line : Line)
    (cols col : Nat) :
    (line.resize cols).continuationAt col =
      (decide (col < cols) && line.continuationAt col) := by
  by_cases hCol : col < cols
  · have hLone := line.wideAt_eq_false_of_continuationAt col
    rw [continuationAt, cell?_resize line hCol, decide_eq_true hCol,
      Bool.true_and]
    split
    case isTrue hNew =>
      rw [continuationAt, cell?_of_length_le hNew]
      rfl
    case isFalse hOld =>
    split
    case isTrue hCut =>
      have hErased :
          ((line.cell? col).map Cell.erased).any Cell.isContinuation =
            false := by
        cases line.cell? col <;> rfl
      rw [hErased]
      grind
    case isFalse hKept => rfl
  · have hEnd : (line.resize cols).length ≤ col := by
      rw [length_resize]
      omega
    rw [continuationAt, cell?_of_length_le hEnd,
      decide_eq_false hCol]
    rfl

/- Whole units are whole in any length. -/
theorem Paired.resized
    (h : line.Paired)
    (cols : Nat) :
    Paired (line.resize cols) := by
  apply paired_of_halves
  · rw [continuationAt_resize, h.continuationAt_zero, Bool.and_false]
  · intro col
    rw [continuationAt_resize, wideAt_resize,
      h.continuationAt_eq_wideAt]

/- A line of whole units is cut to its own length as it is. -/
theorem Paired.resize_length
    (h : line.Paired) :
    line.resize line.length = line := by
  have hLast : line.wideAt (line.length - 1) = false := by
    rcases line.length.eq_zero_or_pos with hNil | hSome
    · rw [List.length_eq_zero_iff.mp hNil]
      rfl
    · exact h.wideAt_last (Nat.sub_add_cancel hSome)
  simp only [resize, Nat.lt_irrefl, if_false, List.take_length, hLast,
    Bool.false_eq_true]

/- What was filled up is cut off again. -/
theorem Paired.resize_resize
    (h : line.Paired)
    {cols : Nat}
    (hCols : line.length ≤ cols) :
    (line.resize cols).resize line.length = line := by
  rcases Nat.eq_or_lt_of_le hCols with rfl | hGrown
  · rw [h.resize_length, h.resize_length]
  · have hCut (more : Line) :
        resize (line ++ more) line.length =
          line.resize line.length := by
      have hLonger : ¬ line.length + more.length < line.length := by
        omega
      simp [resize, hLonger]
    have hFilled :
        line.resize cols = line ++ blank (cols - line.length) :=
      if_pos hGrown
    rw [hFilled, hCut, h.resize_length]

end Line

------------------------------------------------------------
-- Storage
------------------------------------------------------------

namespace Storage

variable {before row after : List Cell}

theorem part?_append
    {count : Nat}
    (h : count ≤ row.length) :
    part? (before ++ (row ++ after)) before.length count =
      some (row.take count) := by
  rw [part?, if_pos (by simp; omega), List.drop_left,
    List.take_append_of_le_length h]

theorem overwrite?_append
    {part : List Cell}
    (h : part.length ≤ row.length) :
    overwrite? (before ++ (row ++ after)) before.length part =
      some (before ++ ((part ++ row.drop part.length) ++ after)) := by
  rw [overwrite?, if_pos (by simp; omega), List.take_left,
    ← List.drop_drop, List.drop_left, List.drop_append_of_le_length h]
  simp

theorem mend?_append
    {place : Nat}
    (h : place < row.length) :
    mend? (before ++ (row ++ after)) (before.length + place) =
      some
        (before ++
          ((if Line.wideAt row place then Line.eraseAt row place
            else row) ++ after)) := by
  have hCell :
      (before ++ (row ++ after))[before.length + place]? =
        some row[place] := by
    rw [List.getElem?_append_right (Nat.le_add_right _ _),
      Nat.add_sub_cancel_left, List.getElem?_append_left h,
      List.getElem?_eq_getElem h]
  have hWide : Line.wideAt row place = row[place].isWide := by
    simp [Line.wideAt, Line.cell?, h]
  have hErased :
      Line.eraseAt row place = row.set place row[place].erased := by
    simp [Line.eraseAt, List.modify_eq_set, h]
  rw [mend?, hCell, hWide, hErased]
  simp only [Option.bind_eq_bind, Option.bind_some, Option.pure_def]
  split
  · rw [List.set_append_right _ _ (Nat.le_add_right _ _),
      Nat.add_sub_cancel_left, List.set_append_left _ _ h]
  · rfl

/-
  One row of a storage is copied.  By its length: a longer row
  is filled up, and another one is mended in its last column.
-/
theorem copyRow?_append
    {cols n : Nat}
    {done todo : List Cell}
    (hBefore : before.length = n * row.length)
    (hDone : done.length = n * cols) :
    copyRow? (before ++ (row ++ after)) row.length cols
        (done ++ (Line.blank cols ++ todo)) n =
      some (done ++ (Line.resize row cols ++ todo)) := by
  obtain ⟨keep, hKeep⟩ : ∃ keep, min cols row.length = keep :=
    ⟨_, rfl⟩
  have hPart :
      part? (before ++ (row ++ after)) before.length keep =
        some (row.take keep) :=
    part?_append (by omega)
  have hKept : (row.take keep).length = keep :=
    List.length_take_of_le (by omega)
  have hOver :
      overwrite? (done ++ (Line.blank cols ++ todo)) done.length
          (row.take keep) =
        some
          (done ++
            ((row.take keep ++ (Line.blank cols).drop keep) ++ todo)) := by
    rw [overwrite?_append (by rw [hKept, Line.length_blank]; omega),
      hKept]
  rw [copyRow?]
  simp only [← hBefore, ← hDone, hKeep, hPart, hOver,
    Option.bind_eq_bind, Option.bind_some]
  by_cases hGrown : row.length < cols
  · obtain rfl : keep = row.length := by omega
    rw [if_neg (by omega), Line.resize, if_pos hGrown,
      List.take_length, Line.blank, List.drop_replicate]
    rfl
  · obtain rfl : keep = cols := by omega
    have hNone : (Line.blank keep).drop keep = [] :=
      List.drop_eq_nil_of_le (Nat.le_of_eq (Line.length_blank keep))
    rw [hNone, List.append_nil, Line.resize, if_neg hGrown]
    rcases Nat.eq_zero_or_pos keep with rfl | hSome
    · rfl
    · rw [if_pos ⟨hSome, rfl⟩, Nat.add_sub_assoc hSome]
      exact mend?_append (by omega)

/-
  Rows are copied from the first one on.  By their number: the
  rows copied so far are in front of the empty cells.
-/
theorem foldlM_copyRow?
    {rows cols oldCols n : Nat}
    {lines : List Line}
    (hLength : ∀ line ∈ lines, line.length = oldCols)
    (hLines : n ≤ lines.length)
    (hRows : n ≤ rows) :
    (List.range n).foldlM (copyRow? lines.flatten oldCols cols)
        (List.replicate (rows * cols) .empty) =
      some
        (((lines.take n).map (Line.resize · cols)).flatten ++
          List.replicate ((rows - n) * cols) .empty) := by
  induction n with
  | zero => rfl
  | succ n ih =>
      have hLine : n < lines.length := hLines
      have hHere : lines[n].length = oldCols :=
        hLength _ (List.getElem_mem hLine)
      have hSplit :
          lines = lines.take n ++ lines[n] :: lines.drop (n + 1) := by
        rw [← List.drop_eq_getElem_cons hLine, List.take_append_drop]
      have hCells :
          lines.flatten =
            (lines.take n).flatten ++
              (lines[n] ++ (lines.drop (n + 1)).flatten) :=
        (congrArg List.flatten hSplit).trans
          (by rw [List.flatten_append, List.flatten_cons])
      have hBlank :
          List.replicate ((rows - n) * cols) Cell.empty =
            Line.blank cols ++
              List.replicate ((rows - (n + 1)) * cols) .empty := by
        rw [Line.blank, List.replicate_append_replicate,
          show rows - n = rows - (n + 1) + 1 by omega, Nat.succ_mul,
          Nat.add_comm]
      have hTaken : (lines.take n).length = n :=
        List.length_take_of_le (Nat.le_of_lt hLine)
      have hOld : ∀ line ∈ lines.take n, line.length = oldCols :=
        fun line h => hLength line (List.mem_of_mem_take h)
      have hNew :
          ∀ line ∈ (lines.take n).map (Line.resize · cols),
            line.length = cols := by
        intro line h
        rcases List.mem_map.mp h with ⟨old, -, rfl⟩
        exact Line.length_resize old cols
      have hBefore :
          (lines.take n).flatten.length = n * lines[n].length := by
        rw [Grid.length_flatten hOld, hTaken, hHere]
      have hDone :
          ((lines.take n).map (Line.resize · cols)).flatten.length =
            n * cols := by
        rw [Grid.length_flatten hNew, List.length_map, hTaken]
      rw [List.range_succ, List.foldlM_append, ih (by omega) (by omega),
        hBlank]
      simp only [Option.bind_eq_bind, Option.bind_some, List.foldlM_cons,
        List.foldlM_nil]
      rw [hCells, ← hHere, copyRow?_append hBefore hDone,
        List.take_succ_eq_append_getElem hLine, List.map_append,
        List.flatten_append, List.append_assoc, List.map_singleton,
        List.flatten_singleton]
      rfl

/- A grid's storage becomes that of the resized grid. -/
theorem resize?_cells
    (g : Grid)
    (rows cols : Nat) :
    resize? g.cells g.size ⟨rows, cols⟩ =
      some (g.resize rows cols).cells := by
  by_cases hSame : rows = g.rows ∧ cols = g.cols
  · have hSize : (⟨rows, cols⟩ : Size) = g.size := by
      rw [hSame.1, hSame.2]
      rfl
    rw [Grid.resize, if_pos hSame, resize?, if_pos hSize]
  · have hSize : ¬ (⟨rows, cols⟩ : Size) = g.size := fun h =>
      hSame ⟨congrArg Size.rows h, congrArg Size.cols h⟩
    have hTake : g.lines.take (min rows g.rows) = g.lines.take rows := by
      rw [← g.lines_length, ← List.take_eq_take_min]
    have hLines : min rows g.rows ≤ g.lines.length := by
      rw [g.lines_length]
      exact Nat.min_le_right _ _
    have hCopied :
        (List.range (min rows g.rows)).foldlM
            (copyRow? g.lines.flatten g.cols cols)
            (List.replicate (rows * cols) .empty) = some _ :=
      foldlM_copyRow? g.line_length hLines (Nat.min_le_left _ _)
    rw [hTake, show rows - min rows g.rows = rows - g.rows by omega]
      at hCopied
    have hCells :
        (g.resize rows cols).cells =
          (Grid.resizeLines rows cols g.lines).flatten := by
      rw [Grid.resize, if_neg hSame, Grid.cells]
    rw [resize?, if_neg hSize, hCells, Grid.resizeLines,
      List.flatten_append, Line.blank,
      List.flatten_replicate_replicate, g.lines_length]
    exact hCopied

end Storage

------------------------------------------------------------
-- Grids
------------------------------------------------------------

namespace Grid

/-
  A pair of which a last column has the first half and cuts the
  second one off.
-/
def CutAt
    (g : Grid)
    (cols row col : Nat) : Prop :=
  col + 1 = cols ∧
    ∃ first second,
      g.cell? row col = some first ∧ first.isWide = true ∧
        g.cell? row cols = some second ∧
          second.isContinuation = true

/-
  A grid becomes one of another extent.  What is inside both
  stays, a cut pair becomes a space in its style, and the rest
  is empty.  The cursor is moved inside.
-/
structure Reframes
    (g g' : Grid)
    (rows cols : Nat) : Prop where
  size : g'.size = ⟨rows, cols⟩
  kept :
    ∀ {row col},
      row < rows → row < g.rows → col < cols → col < g.cols →
        ¬ g.CutAt cols row col →
          ∃ cell, g.cell? row col = some cell ∧
            g'.cell? row col = some cell
  cut :
    ∀ {row col},
      row < rows → g.CutAt cols row col →
        ∃ cell, g.cell? row col = some cell ∧
          g'.cell? row col = some (.blank cell.style)
  new :
    ∀ {row col},
      row < rows → col < cols → g.rows ≤ row ∨ g.cols ≤ col →
        g'.cell? row col = some .empty
  cursor :
    g'.cursor =
      { g.cursor with
        row := min g.cursor.row (rows - 1)
        col := min g.cursor.col (cols - 1) }
  valid : g'.validate = .ok ()
  matched :
    (∀ line ∈ g.lines, line.Matched) → ∀ line ∈ g'.lines, line.Matched

variable {g : Grid}

theorem exists_line
    {row : Nat}
    (h : row < g.rows) :
    ∃ line, g.lines[row]? = some line := by
  rw [← g.lines_length] at h
  exact ⟨_, List.getElem?_eq_getElem h⟩

theorem exists_cell
    {row col : Nat}
    {line : Line}
    (hLine : g.lines[row]? = some line)
    (h : col < g.cols) :
    ∃ cell, g.cell? row col = some cell := by
  rw [← length_of_line hLine] at h
  rw [cell?_of_line hLine]
  exact ⟨_, List.getElem?_eq_getElem h⟩

/- Grids of one extent with the same lines and cursor. -/
theorem eq_of_lines
    {g' : Grid}
    (hSize : g'.size = g.size)
    (hCursor : g'.cursor = g.cursor)
    (hLines : ∀ row : Nat, g'.lines[row]? = g.lines[row]?) :
    g' = g := by
  have hSame : g.Rewrites g' fun _ line => line :=
    ⟨hSize, hCursor, fun row => by simp [hLines]⟩
  exact hSame.unique g.rewrites_self

theorem size_resize
    (g : Grid)
    (rows cols : Nat) :
    (g.resize rows cols).size = ⟨rows, cols⟩ := by
  unfold resize
  split
  · rename_i hSame
    rw [hSame.1, hSame.2]
    rfl
  · rfl

theorem cursor_resize
    (g : Grid)
    (rows cols : Nat) :
    (g.resize rows cols).cursor = g.cursor.clamp rows cols := by
  unfold resize
  split
  · rename_i hSame
    rw [hSame.1, hSame.2, g.cursor_inside]
  · rfl

/- A row has its old line in the new length, or an empty one. -/
theorem getElem?_lines_resize
    (hValid : g.validate = .ok ())
    {rows : Nat}
    (cols : Nat)
    {row : Nat}
    (hRow : row < rows) :
    (g.resize rows cols).lines[row]? =
      some ((g.lines[row]?).elim (.blank cols) (Line.resize · cols)) := by
  unfold resize
  split
  case isTrue hSame =>
    rcases hSame with ⟨rfl, rfl⟩
    have hLine : g.lines[row]? = some _ :=
      List.getElem?_eq_getElem (by rw [g.lines_length]; exact hRow)
    have hWhole := (paired_of_line hValid hLine).resize_length
    rw [length_of_line hLine] at hWhole
    rw [hLine]
    exact congrArg some hWhole.symm
  case isFalse hOther =>
    simp only [resizeLines]
    rw [List.getElem?_append, List.length_map, List.length_take,
      g.lines_length, List.getElem?_map, List.getElem?_take_of_lt hRow]
    split
    case isTrue hOld =>
      rw [List.getElem?_eq_getElem (by rw [g.lines_length]; omega)]
      rfl
    case isFalse hNew =>
      rw [getElem?_lines_eq_none_iff.mpr (by omega),
        List.getElem?_replicate, if_pos (by omega)]
      rfl

/- In whole units, any first half in a last column is cut. -/
theorem cutAt_iff
    (hValid : g.validate = .ok ())
    {row : Nat}
    {line : Line}
    (hLine : g.lines[row]? = some line)
    (cols col : Nat) :
    g.CutAt cols row col ↔ col + 1 = cols ∧ line.wideAt col = true := by
  have hCell := cell?_of_line hLine
  unfold CutAt
  simp only [hCell]
  constructor
  · rintro ⟨hLast, first, -, hFirst, hWide, -⟩
    exact
      ⟨hLast,
        (line.wideAt_eq_true_iff col).mpr ⟨first, hFirst, hWide⟩⟩
  · rintro ⟨rfl, hWide⟩
    have hPaired := paired_of_line hValid hLine
    rcases (line.continuationAt_eq_true_iff _).mp
        (hPaired.continuationAt_succ hWide) with
      ⟨second, hSecond, hContinued⟩
    rcases (line.wideAt_eq_true_iff col).mp hWide with
      ⟨first, hFirst, hWide⟩
    exact ⟨rfl, first, second, hFirst, hWide, hSecond, hContinued⟩

/- A position in an old row has a cell of the old line. -/
theorem cell?_resize_of_line
    (hValid : g.validate = .ok ())
    {rows cols row col : Nat}
    {line : Line}
    (hLine : g.lines[row]? = some line)
    (hRow : row < rows)
    (hCol : col < cols) :
    (g.resize rows cols).cell? row col =
      if g.cols ≤ col then some .empty
      else if col + 1 = cols ∧ line.wideAt col then
        (g.cell? row col).map Cell.erased
      else g.cell? row col := by
  have hNew := getElem?_lines_resize hValid cols hRow
  rw [hLine, Option.elim_some] at hNew
  rw [cell?_of_line hNew, line.cell?_resize hCol,
    length_of_line hLine, cell?_of_line hLine]

/- In a new row it is empty. -/
theorem cell?_resize_of_rows_le
    (hValid : g.validate = .ok ())
    {rows cols row col : Nat}
    (hOld : g.rows ≤ row)
    (hRow : row < rows)
    (hCol : col < cols) :
    (g.resize rows cols).cell? row col = some .empty := by
  have hNew := getElem?_lines_resize hValid cols hRow
  rw [getElem?_lines_eq_none_iff.mpr hOld, Option.elim_none] at hNew
  rw [cell?_of_line hNew, Line.cell?_blank hCol]

/- The new lines are whole units again. -/
theorem validate_resize
    (hValid : g.validate = .ok ())
    (rows cols : Nat) :
    (g.resize rows cols).validate = .ok () := by
  rw [validate_eq_ok_iff] at hValid ⊢
  exact forall_resize hValid (fun _ hLine => hLine.resized cols)
    (Line.matched_blank cols).paired

/- A grid that was made larger is cut to what it was. -/
theorem resize_resize
    (hValid : g.validate = .ok ())
    {rows cols : Nat}
    (hRows : g.rows ≤ rows)
    (hCols : g.cols ≤ cols) :
    (g.resize rows cols).resize g.rows g.cols = g := by
  have hLarger := validate_resize hValid rows cols
  apply eq_of_lines
  · exact size_resize _ _ _
  · rw [cursor_resize, cursor_resize,
      g.cursor.clamp_clamp_of_le hRows hCols, g.cursor_inside]
  · intro row
    by_cases hRow : row < g.rows
    · rcases exists_line hRow with ⟨line, hLine⟩
      have hLength := length_of_line hLine
      have hBack :=
        (paired_of_line hValid hLine).resize_resize
          (Nat.le_trans (Nat.le_of_eq hLength) hCols)
      rw [hLength] at hBack
      rw [getElem?_lines_resize hLarger g.cols hRow,
        getElem?_lines_resize hValid cols (by omega), hLine]
      exact congrArg some hBack
    · have hRows :
          ((g.resize rows cols).resize g.rows g.cols).rows = g.rows :=
        congrArg Size.rows (size_resize _ g.rows g.cols)
      rw [getElem?_lines_eq_none_iff.mpr (by omega),
        getElem?_lines_eq_none_iff.mpr (by omega)]

/- Resizing a grid of whole units keeps what is inside both. -/
theorem reframes_resize
    (hValid : g.validate = .ok ())
    (rows cols : Nat) :
    g.Reframes (g.resize rows cols) rows cols where
  size := g.size_resize rows cols
  kept := by
    intro row col hRow hOldRow hCol hOldCol hWhole
    rcases exists_line hOldRow with ⟨line, hLine⟩
    rcases exists_cell hLine hOldCol with ⟨cell, hCell⟩
    rw [cutAt_iff hValid hLine] at hWhole
    rw [cell?_resize_of_line hValid hLine hRow hCol,
      if_neg (by omega), if_neg hWhole]
    exact ⟨cell, hCell, hCell⟩
  cut := by
    intro row col hRow hCut
    rcases hCut with ⟨hLast, first, second, hFirst, hWide, hSecond, -⟩
    rcases Option.bind_eq_some_iff.mp hFirst with ⟨line, hLine, hCell⟩
    have hEnd : cols < g.cols := by
      rw [cell?_of_line hLine] at hSecond
      rw [← length_of_line hLine]
      exact (List.getElem?_eq_some_iff.mp hSecond).1
    have hWideAt : line.wideAt col = true :=
      (line.wideAt_eq_true_iff col).mpr ⟨first, hCell, hWide⟩
    rw [cell?_resize_of_line hValid hLine hRow (by omega),
      if_neg (by omega), if_pos ⟨hLast, hWideAt⟩, hFirst]
    exact ⟨first, rfl, rfl⟩
  new := by
    intro row col hRow hCol hNew
    rcases Nat.lt_or_ge row g.rows with hOldRow | hNewRow
    · rcases exists_line hOldRow with ⟨line, hLine⟩
      rw [cell?_resize_of_line hValid hLine hRow hCol, if_pos (by omega)]
    · exact cell?_resize_of_rows_le hValid hNewRow hRow hCol
  cursor := g.cursor_resize rows cols
  valid := validate_resize hValid rows cols
  matched hMatched :=
    forall_resize hMatched (fun _ hLine => hLine.resize cols)
      (Line.matched_blank cols)

/-
  Resizing keeps what is inside both extents and leaves a grid
  of whole units.  A grid that was made larger is cut back to
  what it was.  Row by row in one list of cells, no copied part
  is outside of the list, and the result is the same.
-/
theorem resize_keeps_overlap
    (g : Grid)
    (hValid : g.validate = .ok ())
    (rows cols : Nat) :
    g.Reframes (g.resize rows cols) rows cols ∧
      (g.rows ≤ rows → g.cols ≤ cols →
        (g.resize rows cols).resize g.rows g.cols = g) ∧
      Storage.resize? g.cells g.size ⟨rows, cols⟩ =
        some (g.resize rows cols).cells :=
  ⟨reframes_resize hValid rows cols, resize_resize hValid,
    Storage.resize?_cells g rows cols⟩

/- A letter and a pair. -/
def letterAndPair : Grid :=
  (Grid.blank 1 3).put 0 0 ['a', '漢'] .default

/- Its last column is cut off, and a row is added. -/
theorem resize_keeps_overlap_cut :
    letterAndPair.validate = .ok () ∧
      letterAndPair.Reframes (letterAndPair.resize 2 2) 2 2 ∧
        (letterAndPair.resize 2 4).resize 1 3 = letterAndPair := by
  have hValid : letterAndPair.validate = .ok () :=
    ((Composed.blank 1 3).put 0 0 _ _).valid
  exact
    ⟨hValid, (letterAndPair.resize_keeps_overlap hValid 2 2).1,
      (letterAndPair.resize_keeps_overlap hValid 2 4).2.1
        (by decide) (by decide)⟩

end Grid

end Redraw
