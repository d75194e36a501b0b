import Redraw.Grid
import Redraw.Proofs.Grid.Inlays

/-
  Composition: what holds of every grid that was composed.

  A composed grid starts blank and is changed by anything but a
  raw write.  Its lines stay matched, so it passes validation;
  its cursor stays in the rows and columns that there are.

  Key definitions include:
    * `Grid.Composed`
    * `Grid.WellFormed`

  Main declarations:
    * `Grid.validate_eq_ok_iff`
    * `Grid.Composed.matched`
    * `Grid.Composed.wellFormed`
-/

namespace Redraw

namespace Grid

------------------------------------------------------------
-- Composed Grids
------------------------------------------------------------

/- The grids that changes other than raw writes lead to. -/
inductive Composed : Grid → Prop
  | blank
      (rows cols : Nat) :
      Composed (blank rows cols)
  | set
      {g : Grid}
      (more : Composed g)
      (row col : Nat)
      (cell : Cell) :
      Composed (g.set row col cell)
  | put
      {g : Grid}
      (more : Composed g)
      (row col : Nat)
      (text : List Char)
      (style : Style) :
      Composed (g.put row col text style)
  | fill
      {g : Grid}
      (more : Composed g)
      (style : Style) :
      Composed (g.fill style)
  | clear
      {g : Grid}
      (more : Composed g) :
      Composed g.clear
  | blit
      {g src : Grid}
      (more : Composed g)
      (source : Composed src)
      (row col : Nat) :
      Composed (g.blit src row col)
  | resize
      {g : Grid}
      (more : Composed g)
      (rows cols : Nat) :
      Composed (g.resize rows cols)
  | withCursor
      {g : Grid}
      (more : Composed g)
      (cursor : Cursor) :
      Composed (g.withCursor cursor)

------------------------------------------------------------
-- Lines of a Grid
------------------------------------------------------------

theorem cell?_of_line
    {g : Grid}
    {row : Nat}
    {line : Line}
    (h : g.line? row = some line)
    (col : Nat) :
    g.cell? row col = line.cell? col := by
  simp only [cell?, show g.lines[row]? = some line from h,
    Option.bind_some]

theorem length_of_line
    {g : Grid}
    {row : Nat}
    {line : Line}
    (h : g.line? row = some line) :
    line.length = g.cols :=
  g.line_length line (List.mem_of_getElem? h)

------------------------------------------------------------
-- Changed Lines
------------------------------------------------------------

variable {P : Line → Prop}

/- What a change keeps of every line, one changed line keeps. -/
theorem forall_modifyLine
    {g : Grid}
    (h : ∀ line ∈ g.lines, P line)
    {row : Nat}
    {change : Line → Line}
    {keeps : ∀ line, (change line).length = line.length}
    (hChange : ∀ line, P line → P (change line)) :
    ∀ line ∈ (g.modifyLine row change keeps).lines, P line := by
  intro line hLine
  rcases List.mem_iff_getElem.mp hLine with ⟨i, hi, rfl⟩
  have hi : i < g.lines.length := by
    simpa [modifyLine] using hi
  have hOld := h _ (List.getElem_mem hi)
  simp only [modifyLine, List.getElem_modify]
  split
  · exact hChange _ hOld
  · exact hOld

theorem forall_fill
    {g : Grid}
    {style : Style}
    (hBlank : ∀ line : Line, P (line.map fun _ => Cell.blank style)) :
    ∀ line ∈ (g.fill style).lines, P line := by
  intro line hLine
  rcases List.mem_map.mp hLine with ⟨old, -, rfl⟩
  exact hBlank old

theorem forall_blit
    {g src : Grid}
    (h : ∀ line ∈ g.lines, P line)
    {row col : Nat}
    (hOverlay :
      ∀ line, P line → ∀ top, P (line.overlay col top)) :
    ∀ line ∈ (g.blit src row col).lines, P line := by
  intro line hLine
  rcases List.mem_mapIdx.mp hLine with ⟨r, hr, rfl⟩
  have hOld := h _ (List.getElem_mem hr)
  split
  · cases src.lines[r - row]? with
    | none => exact hOld
    | some top => exact hOverlay _ hOld top
  · exact hOld

theorem forall_resize
    {g : Grid}
    (h : ∀ line ∈ g.lines, P line)
    {rows cols : Nat}
    (hResize : ∀ line, P line → P (line.resize cols))
    (hBlank : P (Line.blank cols)) :
    ∀ line ∈ (g.resize rows cols).lines, P line := by
  unfold resize
  split
  · exact h
  · intro line hLine
    rcases List.mem_append.mp hLine with hKept | hNew
    · rcases List.mem_map.mp hKept with ⟨old, hOld, rfl⟩
      exact hResize old (h old (List.mem_of_mem_take hOld))
    · rwa [List.eq_of_mem_replicate hNew]

------------------------------------------------------------
-- Validation
------------------------------------------------------------

theorem checkLines_eq_ok_iff
    (row : Nat)
    (lines : List Line) :
    checkLines row lines = .ok () ↔
      ∀ line ∈ lines, line.Paired := by
  induction lines generalizing row with
  | nil => simp [checkLines]
  | cons line rest ih =>
      rw [List.forall_mem_cons, ← ih (row + 1),
        ← line.check_eq_ok_iff row, checkLines]
      cases line.check row with
      | ok done => simp [bind, Except.bind]
      | error e => simp [bind, Except.bind]

/- A grid passes validation when its lines are whole units. -/
theorem validate_eq_ok_iff
    (g : Grid) :
    g.validate = .ok () ↔ ∀ line ∈ g.lines, line.Paired :=
  checkLines_eq_ok_iff 0 g.lines

------------------------------------------------------------
-- The Cursor
------------------------------------------------------------

/- The cursor is in the rows and columns that there are. -/
theorem cursor_le
    (g : Grid) :
    g.cursor.row ≤ g.rows - 1 ∧ g.cursor.col ≤ g.cols - 1 := by
  have hInside := g.cursor_inside
  have hRow : min g.cursor.row (g.rows - 1) = g.cursor.row :=
    congrArg Cursor.row hInside
  have hCol : min g.cursor.col (g.cols - 1) = g.cursor.col :=
    congrArg Cursor.col hInside
  omega

------------------------------------------------------------
-- Well-Formed Grids
------------------------------------------------------------

/- Lines of one length have so many cells together. -/
theorem length_flatten
    {lines : List Line}
    {cols : Nat}
    (h : ∀ line ∈ lines, line.length = cols) :
    lines.flatten.length = lines.length * cols := by
  have hLengths :
      lines.map List.length = lines.map fun _ => cols :=
    List.map_congr_left h
  rw [List.length_flatten, hLengths, List.map_const',
    List.sum_replicate_nat]

theorem length_cells
    (g : Grid) :
    g.cells.length = g.rows * g.cols := by
  rw [cells, length_flatten g.line_length, g.lines_length]

/- What may be relied on in a grid without raw writes. -/
structure WellFormed (g : Grid) : Prop where
  count : g.cells.length = g.rows * g.cols
  valid : g.validate = .ok ()
  matched : ∀ line ∈ g.lines, line.Matched
  cursor_inside :
    0 < g.size.area → g.cursor.row < g.rows ∧ g.cursor.col < g.cols
  no_row : g.rows = 0 → g.cursor.row = 0
  no_col : g.cols = 0 → g.cursor.col = 0

/-
  By the changes that composed the grid.  A change writes cells
  one at a time, and each keeps its line matched.
-/
theorem Composed.matched
    {g : Grid}
    (h : g.Composed) :
    ∀ line ∈ g.lines, line.Matched := by
  induction h with
  | blank rows cols =>
      intro line hLine
      rw [List.eq_of_mem_replicate hLine]
      exact Line.matched_blank cols
  | set more row col cell ih =>
      unfold Grid.set
      split
      · exact forall_modifyLine ih fun _ hLine => hLine.place col cell
      · exact ih
  | put more row col text style ih =>
      exact forall_modifyLine ih fun _ hLine => hLine.write col _
  | fill more style ih => exact forall_fill (Line.matched_filled style)
  | clear more ih => exact forall_fill (Line.matched_filled .default)
  | blit more source row col ih =>
      exact forall_blit ih fun _ hLine top => hLine.overlay col top
  | resize more rows cols ih =>
      exact forall_resize ih (fun _ hLine => hLine.resize cols)
        (Line.matched_blank cols)
  | withCursor more cursor ih => exact ih

/- So it passes validation. -/
theorem Composed.valid
    {g : Grid}
    (h : g.Composed) :
    g.validate = .ok () :=
  g.validate_eq_ok_iff.mpr fun line hLine =>
    (h.matched line hLine).paired

theorem Composed.wellFormed
    {g : Grid}
    (h : g.Composed) :
    g.WellFormed where
  count := g.length_cells
  valid := g.validate_eq_ok_iff.mpr fun line hLine =>
    (h.matched line hLine).paired
  matched := h.matched
  cursor_inside := by
    intro hArea
    have hRows : 0 < g.rows := Nat.pos_of_mul_pos_right hArea
    have hCols : 0 < g.cols := Nat.pos_of_mul_pos_left hArea
    have hCursor := g.cursor_le
    omega
  no_row := by
    intro hRows
    have hCursor := g.cursor_le
    omega
  no_col := by
    intro hCols
    have hCursor := g.cursor_le
    omega

/- A pane with a wide character, which the new right edge cuts. -/
theorem Composed.wellFormed_cut :
    WellFormed
      (((Grid.blank 2 3).blit
        ((Grid.blank 1 2).put 0 0 ['漢'] .default) 0 1).resize 1 2) :=
  have hPane := (Composed.blank 1 2).put 0 0 ['漢'] .default
  (((Composed.blank 2 3).blit hPane 0 1).resize 1 2).wellFormed

/-
  A grid without cells need not have its cursor at the origin:
  each coordinate is moved inside by itself.
-/
theorem Composed.cursor_beside_origin :
    ¬ ∀ g : Grid,
      g.Composed →
        g.size.area = 0 → g.cursor.position = ⟨0, 0⟩ := by
  intro hAll
  have hOrigin :=
    hAll ((Grid.blank 0 2).withCursor { col := 1 })
      ((Composed.blank 0 2).withCursor { col := 1 }) rfl
  exact absurd hOrigin (by decide)

end Grid

end Redraw
