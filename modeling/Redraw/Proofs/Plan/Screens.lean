import Redraw.Proofs.Plan.Lines

/-
  Screens: a screen that shows a grid shows the next one after
  the plan between them, and a cleared screen shows a blank
  grid.

  Key definitions include:
    * `Grid.IsSimple`: a grid of simple cells
    * `Belief.Describes`: what is believed of a cursor is so
    * `Stroke.StaysFrom`

  Main declarations:
    * `Pen.shows_drawLines`
    * `Plan.shows_diffGrids`
    * `Plan.shows_repaint`
-/

namespace Redraw

/- A grid whose cells are all simple. -/
def Grid.IsSimple (g : Grid) : Prop :=
  ∀ line ∈ g.lines, ∀ cell ∈ line, cell.IsSimple

instance : DecidablePred Grid.IsSimple := by
  intro g
  unfold Grid.IsSimple
  infer_instance

/- Grids of one size have as many lines of one length. -/
theorem Grid.lines_of_size
    {prev curr : Grid}
    (h : prev.size = curr.size) :
    prev.lines.length = curr.lines.length ∧
      ∀ line ∈ prev.lines, line.length = curr.cols := by
  have hRows : prev.rows = curr.rows := congrArg Size.rows h
  have hCols : prev.cols = curr.cols := congrArg Size.cols h
  refine ⟨?_, fun line hLine => ?_⟩
  · rw [prev.lines_length, curr.lines_length, hRows]
  · exact (prev.line_length line hLine).trans hCols

/- A screen's cursor is as believed. -/
structure Belief.Describes
    (b : Belief)
    (s : Screen) : Prop where
  position :
    ∀ p, b.position = some p →
      s.position = p ∧ s.pendingWrap = false
  visible : ∀ v, b.visible = some v → s.visible = v
  shape : ∀ k, b.shape = some k → s.shape = k

/- Nothing is wrong where nothing is believed. -/
theorem Belief.unknown_describes
    (s : Screen) :
    unknown.Describes s :=
  ⟨by simp [unknown], by simp [unknown], by simp [unknown]⟩

------------------------------------------------------------
-- Lines of a Grid
------------------------------------------------------------

/- A grid is shown line by line. -/
theorem Screen.showsCells_iff
    (caps : Capabilities)
    (s : Screen)
    (g : Grid) :
    s.ShowsCells caps g ↔
      s.extent = g.size ∧
        ∀ row, ∀ line ∈ g.lines[row]?,
          ∀ col, s.ShowsCell caps row line col := by
  constructor
  · rintro ⟨hRows, hCols, hCells⟩
    refine ⟨by rw [Screen.extent, Grid.size, hRows, hCols], ?_⟩
    intro row line hLine col cell hCell
    rcases List.getElem?_eq_some_iff.mp hLine with ⟨hRow, rfl⟩
    rcases List.getElem?_eq_some_iff.mp hCell with ⟨hCol, _⟩
    refine hCells row ?_ col ?_ cell ?_
    · rw [← g.lines_length]
      exact hRow
    · rw [← g.line_length _ (List.getElem_mem hRow)]
      exact hCol
    · simp only [Grid.cell?, List.getElem?_eq_getElem hRow,
        Option.bind_some]
      exact hCell
  · rintro ⟨hExtent, hLines⟩
    refine
      ⟨congrArg Size.rows hExtent, congrArg Size.cols hExtent, ?_⟩
    intro row _ col _ cell hCell
    rcases Option.bind_eq_some_iff.mp hCell with
      ⟨line, hLine, hHere⟩
    exact hLines row line hLine col cell hHere

namespace Stroke

/-
  A stroke leaves the lines above a row alone, and its pen is
  right after it.
-/
structure StaysFrom
    (caps : Capabilities)
    (row : Nat)
    (s : Screen)
    (stroke : Stroke) : Prop where
  extent : (s.draw caps stroke).extent = s.extent
  above :
    ∀ r, r < row → (s.draw caps stroke).slots r = s.slots r
  visible : (s.draw caps stroke).visible = s.visible
  shape : (s.draw caps stroke).shape = s.shape
  pen : stroke.pen.Describes caps (s.draw caps stroke)

end Stroke

namespace Pen

variable {caps : Capabilities}
variable {cols row : Nat}
variable {s : Screen}
variable {pen : Pen}

/- Equal lines are passed over and counted, others are drawn. -/
theorem drawLines_cons_eq_ok
    {prev curr : Line}
    {prevs currs : List Line}
    {stroke : Stroke}
    {equal : Nat}
    (h :
      drawLines cols row (prev :: prevs) (curr :: currs) pen =
        .ok (stroke, equal)) :
    (prev = curr ∧
        ∃ n, equal = n + 1 ∧
          drawLines cols (row + 1) prevs currs pen =
            .ok (stroke, n)) ∨
      prev ≠ curr ∧
        ∃ drawn later,
          pen.drawLine cols row prev curr = .ok drawn ∧
            drawLines cols (row + 1) prevs currs drawn.pen =
              .ok (later, equal) ∧
            stroke = drawn.andThen fun _ => later := by
  unfold drawLines at h
  by_cases hSame : prev = curr
  · rw [if_pos hSame] at h
    rcases exists_of_bind_eq_ok h with ⟨later, hLater, hStroke⟩
    cases hStroke
    exact Or.inl ⟨hSame, later.2, rfl, hLater⟩
  · rw [if_neg hSame] at h
    rcases exists_of_bind_eq_ok h with ⟨drawn, hDrawn, hRest⟩
    rcases exists_of_bind_eq_ok hRest with
      ⟨later, hLater, hStroke⟩
    cases hStroke
    exact
      Or.inr ⟨hSame, drawn, later.1, hDrawn, hLater, rfl⟩

/-
  Lines are drawn one after another.  The induction is on the
  lines: drawing one leaves those below as they were, so they
  still show what the plan starts from.
-/
theorem shows_drawLines
    {prevs currs : List Line}
    (hPrevs : ∀ line ∈ prevs, line.length = cols)
    (hCurrs : ∀ line ∈ currs, line.length = cols)
    (hSimple : ∀ line ∈ currs, ∀ cell ∈ line, cell.IsSimple)
    (hCount : prevs.length = currs.length)
    (hCols : s.cols = cols)
    (hRows : row + currs.length ≤ s.rows)
    (hPen : pen.Describes caps s)
    (hShows :
      ∀ i, ∀ line ∈ prevs[i]?,
        ∀ c, s.ShowsCell caps (row + i) line c)
    {stroke : Stroke}
    {equal : Nat}
    (h :
      pen.drawLines cols row prevs currs = .ok (stroke, equal)) :
    stroke.StaysFrom caps row s ∧
      ∀ i, ∀ line ∈ currs[i]?,
        ∀ c,
          (s.draw caps stroke).ShowsCell caps (row + i) line c := by
  induction prevs generalizing row currs pen s stroke equal with
  | nil =>
      cases currs with
      | nil =>
          cases h
          exact
            ⟨⟨rfl, fun _ _ => rfl, rfl, rfl, hPen⟩, by simp⟩
      | cons curr currs => simp at hCount
  | cons prev prevs ih =>
      cases currs with
      | nil => simp at hCount
      | cons curr currs =>
          have hHead :
              ∃ drawn later n,
                drawn.StaysOn caps row s ∧
                  (∀ c,
                    (s.draw caps drawn).ShowsCell caps row curr c) ∧
                  drawLines cols (row + 1) prevs currs drawn.pen =
                    .ok (later, n) ∧
                  s.draw caps stroke =
                    (s.draw caps drawn).draw caps later ∧
                  stroke.pen = later.pen := by
            rcases drawLines_cons_eq_ok h with
              ⟨rfl, n, -, hLater⟩ | ⟨-, drawn, later, hDrawn, hLater,
                rfl⟩
            · exact
                ⟨pen.rest, stroke, n, Stroke.staysOn_rest hPen,
                  hShows 0 prev rfl, hLater, rfl, rfl⟩
            · have hLine :=
                shows_drawLine (hPrevs prev (by simp))
                  (hCurrs curr (by simp)) (hSimple curr (by simp))
                  hCols (by simp at hRows; omega) hPen
                  (hShows 0 prev rfl) hDrawn
              exact
                ⟨drawn, later, equal, hLine.1, hLine.2, hLater,
                  Screen.draw_andThen caps s drawn _, rfl⟩
          rcases hHead with
            ⟨drawn, later, n, hStays, hCurr, hLater, hDraw,
              hLast⟩
          have hBelow :
              ∀ i, ∀ line ∈ prevs[i]?,
                ∀ c,
                  (s.draw caps drawn).ShowsCell caps (row + 1 + i)
                    line c := by
            intro i line hLine c cell hCell
            rw [hStays.changes.others _ (by omega),
              show row + 1 + i = row + (i + 1) by omega]
            exact hShows (i + 1) line hLine c cell hCell
          have hRest :=
            ih (fun l hl => hPrevs l (by simp [hl]))
              (fun l hl => hCurrs l (by simp [hl]))
              (fun l hl => hSimple l (by simp [hl]))
              (by simpa using hCount)
              (hStays.changes.cols.trans hCols)
              (by
                rw [hStays.changes.rows]
                simp only [List.length_cons] at hRows
                omega)
              hStays.pen hBelow hLater
          rw [← hDraw] at hRest
          refine ⟨⟨?_, ?_, ?_, ?_, ?_⟩, ?_⟩
          · rw [hDraw]
            exact hRest.1.extent.trans hStays.changes.extent
          · intro r hr
            rw [hDraw, hRest.1.above r (by omega)]
            exact hStays.changes.others r (by omega)
          · rw [hDraw]
            exact hRest.1.visible.trans hStays.changes.visible
          · rw [hDraw]
            exact hRest.1.shape.trans hStays.changes.shape
          · rw [hDraw, hLast]
            exact hRest.1.pen
          · intro i line hLine c cell hCell
            cases i with
            | zero =>
                rw [← Option.some.inj hLine] at hCell
                rw [hDraw, Nat.add_zero,
                  hRest.1.above row (Nat.lt_succ_self row)]
                exact hCurr c cell hCell
            | succ i =>
                rw [show row + (i + 1) = row + 1 + i by omega]
                exact hRest.2 i line hLine c cell hCell

------------------------------------------------------------
-- Cursors
------------------------------------------------------------

/- The cursor is left as wanted. -/
theorem draw_placeCursor
    (hPen : pen.Describes caps s)
    {belief : Belief}
    (hVisible : ∀ v, belief.visible = some v → s.visible = v)
    (hShape : ∀ k, belief.shape = some k → s.shape = k)
    {cursor : Cursor}
    (hRow : cursor.row < s.rows)
    (hCol : cursor.col < s.cols) :
    ∃ l,
      s.draw caps (pen.placeCursor cursor belief) =
        { s with
          row := cursor.row
          col := cursor.col
          pendingWrap := false
          visible := cursor.visible
          shape := cursor.shape
          last := l } := by
  rcases draw_moveTo hPen
      (show cursor.position.row < s.rows from hRow) hCol with
    ⟨l, hMove⟩
  let moved : Screen :=
    { s with
      row := cursor.row
      col := cursor.col
      pendingWrap := false
      last := l }
  refine ⟨l, ?_⟩
  have hShaped (t : Screen) (hSame : t.shape = s.shape) :
      t.executeAll caps
          (if belief.shape = some cursor.shape then []
            else [.setCursorShape cursor.shape]) =
        { t with shape := cursor.shape } := by
    split
    · rename_i hKnown
      rw [← hShape _ hKnown, ← hSame]
      rfl
    · rfl
  have hShown (t : Screen) (hSame : t.visible = s.visible) :
      t.executeAll caps
          (if belief.visible = some cursor.visible then []
            else
              [if cursor.visible then .showCursor
                else .hideCursor]) =
        { t with visible := cursor.visible } := by
    split
    · rename_i hKnown
      rw [← hVisible _ hKnown, ← hSame]
      rfl
    · cases cursor.visible <;> rfl
  change
    s.executeAll caps ((pen.moveTo cursor.position).ops ++ _ ++ _) =
      _
  rw [Screen.executeAll_append, Screen.executeAll_append]
  change
    Screen.executeAll caps
      (Screen.executeAll caps (s.draw caps _) _) _ = _
  rw [hMove]
  change Screen.executeAll caps (moved.executeAll caps _) _ = _
  rw [hShaped moved rfl,
    hShown { moved with shape := cursor.shape } rfl]

end Pen

------------------------------------------------------------
-- Plans
------------------------------------------------------------

/- A cursor that is inside a screen with cells. -/
theorem Grid.cursor_lt
    {g : Grid}
    (hSome : g.isEmpty = false) :
    g.cursor.row < g.rows ∧ g.cursor.col < g.cols := by
  have hInside := g.cursor_inside
  have hRow : min g.cursor.row (g.rows - 1) = g.cursor.row :=
    congrArg Cursor.row hInside
  have hCol : min g.cursor.col (g.cols - 1) = g.cursor.col :=
    congrArg Cursor.col hInside
  simp only [isEmpty, Bool.or_eq_false_iff,
    decide_eq_false_iff_not] at hSome
  omega

namespace Plan

/-
  A plan between two screens of a size with cells: the lines,
  the default style, the cursor.
-/
theorem diffGrids_eq_ok
    {prev curr : Grid}
    {belief : Belief}
    {plan : Plan}
    (hSome : curr.isEmpty = false)
    (h : diffGrids prev curr belief = .ok plan) :
    prev.size = curr.size ∧
      ∃ lines equal,
        Pen.drawLines curr.cols 0 prev.lines curr.lines
            ⟨belief.position, .default⟩ = .ok (lines, equal) ∧
          plan.ops =
            ((lines.andThen (Pen.setStyle .default)).andThen
              (Pen.placeCursor curr.cursor belief)).ops ∧
          plan.origin = belief.position ∧
          plan.cols = curr.cols ∧
          plan.after = .ofCursor curr.cursor := by
  unfold diffGrids at h
  by_cases hSize : prev.size = curr.size
  · rw [if_neg (not_not.mpr hSize), hSome,
      if_neg Bool.false_ne_true] at h
    rcases exists_of_bind_eq_ok h with
      ⟨⟨lines, equal⟩, hLines, hPlan⟩
    cases hPlan
    exact ⟨hSize, lines, equal, hLines, rfl, rfl, rfl, rfl⟩
  · rw [if_pos hSize] at h
    cases h

/- A screen that shows one grid shows the next after their plan. -/
theorem shows_diffGrids
    {caps : Capabilities}
    {s : Screen}
    {prev curr : Grid}
    (hShows : s.ShowsCells caps prev)
    (hStyle : s.style = .default)
    {belief : Belief}
    (hBelief : belief.Describes s)
    (hSome : curr.isEmpty = false)
    (hSimple : curr.IsSimple)
    {plan : Plan}
    (h : diffGrids prev curr belief = .ok plan) :
    (s.executeAll caps plan.ops).Shows caps curr := by
  rcases diffGrids_eq_ok hSome h with
    ⟨hSize, lines, equal, hLines, hOps, _⟩
  rcases (s.showsCells_iff caps prev).mp hShows with
    ⟨hExtent, hOld⟩
  have hRows : s.rows = curr.rows :=
    congrArg Size.rows (hExtent.trans hSize)
  have hCols : s.cols = curr.cols :=
    congrArg Size.cols (hExtent.trans hSize)
  have hPrev := Grid.lines_of_size hSize
  have hPen :
      Pen.Describes caps ⟨belief.position, .default⟩ s :=
    ⟨by rw [hStyle, caps.adaptStyle_default], hBelief.position⟩
  have hDrawn :=
    Pen.shows_drawLines hPrev.2 curr.line_length hSimple hPrev.1
      hCols (by rw [curr.lines_length, hRows]; omega)
      hPen (fun i line hLine => by
        rw [Nat.zero_add]
        exact hOld i line hLine)
      hLines
  have hStyled :=
    Pen.draw_setStyle hDrawn.1.pen .default
  have hCursor := Grid.cursor_lt hSome
  have hRowsAfter : (s.draw caps lines).rows = curr.rows :=
    (congrArg Size.rows hDrawn.1.extent).trans hRows
  have hColsAfter : (s.draw caps lines).cols = curr.cols :=
    (congrArg Size.cols hDrawn.1.extent).trans hCols
  have hPenAfter :
      (lines.andThen (Pen.setStyle .default)).pen.Describes caps
        { s.draw caps lines with
          style := caps.adaptStyle .default } := by
    rw [Pen.pen_andThen, Pen.pen_setStyle]
    exact ⟨rfl, hDrawn.1.pen.cursor⟩
  rcases Pen.draw_placeCursor hPenAfter
      (fun v hv => hDrawn.1.visible.trans (hBelief.visible v hv))
      (fun k hk => hDrawn.1.shape.trans (hBelief.shape k hk))
      (show curr.cursor.row < (s.draw caps lines).rows by
        rw [hRowsAfter]; exact hCursor.1)
      (show curr.cursor.col < (s.draw caps lines).cols by
        rw [hColsAfter]; exact hCursor.2) with
    ⟨l, hPlaced⟩
  have hAll :
      s.executeAll caps plan.ops =
        { s.draw caps lines with
          style := caps.adaptStyle .default
          row := curr.cursor.row
          col := curr.cursor.col
          pendingWrap := false
          visible := curr.cursor.visible
          shape := curr.cursor.shape
          last := l } := by
    rw [hOps]
    change s.draw caps _ = _
    rw [Screen.draw_andThen, Screen.draw_andThen, hStyled, hPlaced]
  rw [hAll]
  refine ⟨?_, ⟨rfl, rfl, rfl⟩, caps.adaptStyle_default, rfl⟩
  rw [Screen.showsCells_iff]
  refine ⟨hDrawn.1.extent.trans (hExtent.trans hSize), ?_⟩
  intro row line hLine col cell hCell
  have hNew := hDrawn.2 row line hLine col cell hCell
  rw [Nat.zero_add] at hNew
  exact hNew

/- A cleared screen shows a blank grid. -/
theorem showsCells_clear
    (caps : Capabilities)
    (s : Screen) :
    (s.execute caps .clearScreen).ShowsCells caps
      (.blank s.rows s.cols) := by
  refine ⟨rfl, rfl, ?_⟩
  intro row _ col _ cell hCell
  have hEmpty : cell = .empty := by
    rcases Option.bind_eq_some_iff.mp hCell with
      ⟨line, hLine, hHere⟩
    have hBlank :=
      List.eq_of_mem_replicate (List.mem_of_getElem? hLine)
    rw [hBlank] at hHere
    exact List.eq_of_mem_replicate (List.mem_of_getElem? hHere)
  rw [hEmpty]
  refine ⟨rfl, fun _ => ⟨rfl, ?_⟩⟩
  change _ = caps.adaptStyle .default
  rw [caps.adaptStyle_default]
  rfl

/- A repaint clears the screen and draws over a blank one. -/
theorem repaint_eq_ok
    {curr : Snapshot}
    {plan : Plan}
    (h : repaint curr = .ok plan) :
    ∃ inner,
      diffGrids (.blank curr.grid.rows curr.grid.cols) curr.grid
          .unknown = .ok inner ∧
        plan = { inner with ops := .clearScreen :: inner.ops } := by
  rcases exists_of_bind_eq_ok h with ⟨inner, hInner, hPlan⟩
  cases hPlan
  exact ⟨inner, hInner, rfl⟩

/- Any screen of the size shows a snapshot after its repaint. -/
theorem shows_repaint
    {caps : Capabilities}
    {s : Screen}
    {curr : Snapshot}
    (hExtent : s.extent = curr.size)
    (hSome : curr.grid.isEmpty = false)
    (hSimple : curr.grid.IsSimple)
    {plan : Plan}
    (h : repaint curr = .ok plan) :
    (s.executeAll caps plan.ops).Shows caps curr.grid := by
  rcases repaint_eq_ok h with ⟨inner, hInner, rfl⟩
  have hRows : s.rows = curr.grid.rows := congrArg Size.rows hExtent
  have hCols : s.cols = curr.grid.cols := congrArg Size.cols hExtent
  have hBlank := showsCells_clear caps s
  rw [hRows, hCols] at hBlank
  exact
    shows_diffGrids hBlank rfl (Belief.unknown_describes _) hSome
      hSimple hInner

end Plan

end Redraw
