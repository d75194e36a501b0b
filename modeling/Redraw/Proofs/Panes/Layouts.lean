import Redraw.Proofs.Grid.Panes
import Redraw.Proofs.Panes.Drawing
import Redraw.Proofs.Panes.Logs
import Redraw.Proofs.Panes.Status

/-
  Layouts: what a composed screen shows where.

  The log is left of the border, the meter right of it, and the
  status line below both.  They meet where whole characters end,
  so none of them changes what another shows, whatever the extent
  is and however it changes from one screen to the next.

  Key definitions include:
    * `Grid.IsPane`: a composed grid of an extent
    * `Compositor.Act`, `Compositor.scenes?`: screens in turn
    * `Scene.Keeps`: a screen that keeps its layout

  Main declarations:
    * `Line.cell?_bordered`, `Compositor.cell?_drawPanes`
    * `Compositor.keeps_draw`
    * `Compositor.Follows.exists_scene`
    * `Compositor.scenes_keep_layout`
-/

namespace Redraw

------------------------------------------------------------
-- Lines
------------------------------------------------------------

namespace Line

variable {line line' part : Line}

/- A part changes nothing in front of it but half a character. -/
theorem Inlays.cell?_before
    {col j : Nat}
    (h : line.Inlays line' col part)
    (hBefore : j < col)
    (hWhole : j + 1 = col → line.wideAt j = false) :
    line'.cell? j = line.cell? j := by
  rw [h j, inlaid, if_neg (by omega), if_neg]
  rintro ⟨-, ⟨hNext, hWide⟩ | ⟨hBehind, -⟩⟩
  · rw [hWhole hNext] at hWide
    exact Bool.false_ne_true hWide
  · omega

/- A line that is laid over a longer empty one stays whole. -/
theorem cell?_overlay_of_lt
    {top : Line}
    (hTop : top.Matched)
    {cols : Nat}
    (hFits : top.length < cols)
    {j : Nat}
    (hj : j < top.length) :
    ((blank cols).overlay 0 top).cell? j = top.cell? j := by
  have hCell : top.cell? j = some top[j] := List.getElem?_eq_getElem hj
  rw [cell?_overlay_blank hTop (by omega), hCell, Option.elim_some,
    Cell.fitted, if_neg (by omega)]

/-
  A narrow cell where no character is cut, and others behind it:
  it stays, and so does all that is in front of it.
-/
theorem cell?_bordered
    {col : Nat}
    (hLine : line.Matched)
    (hInside : col < line.length)
    (hWhole : ∀ j, j + 1 = col → line.wideAt j = false)
    {border : Cell}
    (hNarrow : border.width = 1)
    {behind : Line}
    (hBehind : behind.Matched)
    {j : Nat}
    (hj : j ≤ col) :
    ((line.place col border).overlay (col + 1) behind).cell? j =
      if j = col then some border else line.cell? j := by
  have hUnit := (Cell.width_eq_one_iff border).mp hNarrow
  have hPlaced :
      line.Inlays (line.place col border) col border.unit :=
    hLine.paired.inlays_place hUnit.2 (by omega)
  rw [Cell.unit_of_narrow hUnit.1] at hPlaced
  have hBorder : (line.place col border).cell? col = some border := by
    rw [hPlaced.cell?_inside (Nat.le_refl col) (by simp),
      Nat.sub_self]
    rfl
  have hLaid :=
    (hLine.place col border).paired.inlays_overlay hBehind (col + 1)
  rw [hLaid.cell?_before (by omega)]
  · split
    case isTrue hHere => rw [hHere, hBorder]
    case isFalse hBefore =>
      exact hPlaced.cell?_before (by omega) (hWhole j)
  · intro hHere
    obtain rfl : j = col := by omega
    rw [wideAt, hBorder]
    exact hUnit.1

end Line

------------------------------------------------------------
-- Panes
------------------------------------------------------------

namespace Grid

/- A grid of an extent that was composed. -/
structure IsPane
    (g : Grid)
    (size : Size) : Prop where
  composed : g.Composed
  size : g.size = size

variable {g src : Grid}
variable {size other : Size}

theorem isPane_blank
    (rows cols : Nat) :
    (blank rows cols).IsPane ⟨rows, cols⟩ :=
  ⟨.blank rows cols, rfl⟩

theorem IsPane.set
    (h : g.IsPane size)
    (row col : Nat)
    (cell : Cell) :
    (g.set row col cell).IsPane size :=
  ⟨h.composed.set row col cell,
    (g.rewrites_set row col cell).size.trans h.size⟩

theorem IsPane.put
    (h : g.IsPane size)
    (row col : Nat)
    (text : List Char)
    (style : Style) :
    (g.put row col text style).IsPane size :=
  ⟨h.composed.put row col text style, h.size⟩

theorem IsPane.blit
    (h : g.IsPane size)
    (hSource : src.IsPane other)
    (row col : Nat) :
    (g.blit src row col).IsPane size :=
  ⟨h.composed.blit hSource.composed row col, h.size⟩

theorem IsPane.withCursor
    (h : g.IsPane size)
    (cursor : Cursor) :
    (g.withCursor cursor).IsPane size :=
  ⟨h.composed.withCursor cursor, h.size⟩

theorem IsPane.foldl
    {A : Type}
    {step : Grid → A → Grid}
    (hStep : ∀ {g} item, g.IsPane size → (step g item).IsPane size)
    (h : g.IsPane size)
    (items : List A) :
    (items.foldl step g).IsPane size :=
  List.foldlRecOn (motive := (·.IsPane size)) items step h
    fun _ hPane item _ => hStep item hPane

theorem IsPane.rows
    {rows cols : Nat}
    (h : g.IsPane ⟨rows, cols⟩) :
    g.rows = rows :=
  congrArg Size.rows h.size

theorem IsPane.cols
    {rows cols : Nat}
    (h : g.IsPane ⟨rows, cols⟩) :
    g.cols = cols :=
  congrArg Size.cols h.size

/- In each row there is a line of whole characters. -/
theorem IsPane.exists_line
    {rows cols row : Nat}
    (h : g.IsPane ⟨rows, cols⟩)
    (hRow : row < rows) :
    ∃ line : Line,
      g.lines[row]? = some line ∧ line.length = cols ∧
        line.Matched := by
  rw [← h.rows] at hRow
  rcases Grid.exists_line hRow with ⟨line, hLine⟩
  exact
    ⟨line, hLine, (length_of_line hLine).trans h.cols,
      h.composed.matched line (List.mem_of_getElem? hLine)⟩

end Grid

theorem Backlog.isPane_draw
    (b : Backlog)
    (rows cols : Nat) :
    (b.draw rows cols).IsPane ⟨rows, cols⟩ :=
  (Grid.isPane_blank rows cols).foldl
    (fun line hPane => hPane.put line.2 0 line.1.1 line.1.2) _

theorem Log.isPane_draw
    (log : Log)
    (rows cols : Nat) :
    (log.draw rows cols).IsPane ⟨rows, cols⟩ := by
  rw [draw_eq]
  exact log.backlog.isPane_draw rows cols

theorem Meter.isPane_drawRow
    (shares : Shares)
    (width row : Nat)
    {g : Grid}
    {size : Size}
    (h : g.IsPane size) :
    (drawRow shares width g row).IsPane size := by
  have hNamed := h.put row 0 (label row) labelStyle
  have hFilled :=
    hNamed.foldl
      (fun i hPane =>
        hPane.set row (6 + i) (.blank (barStyle (shares row 255))))
      (List.range (shares row width))
  exact hFilled.put row (7 + width) (percentage (shares row 100)) _

theorem Meter.isPane_draw
    (shares : Shares)
    (rows cols : Nat) :
    (draw shares rows cols).IsPane ⟨rows, cols⟩ :=
  (Grid.isPane_blank rows cols).foldl
    (fun row hPane => isPane_drawRow shares (cols - 8) row hPane) _

namespace Compositor

/- The cell that the border is made of. -/
def border : Cell :=
  .styled ['│'] borderStyle

theorem width_border :
    border.width = 1 := by
  decide +kernel

theorem isPane_drawBorder
    {g : Grid}
    {size : Size}
    (h : g.IsPane size)
    (rows col : Nat) :
    (drawBorder g rows col).IsPane size :=
  h.foldl (fun row hPane => hPane.set row col border) _

/- A border changes one column of the rows that it goes down. -/
theorem rewrites_drawBorder
    (g : Grid)
    (rows col : Nat) :
    g.Rewrites (drawBorder g rows col) fun r line =>
      if r < rows then line.place col border else line := by
  induction rows with
  | zero =>
      refine g.rewrites_self.congr fun r line _ _ => ?_
      rw [if_neg (Nat.not_lt_zero r)]
  | succ rows ih =>
      have hLast :=
        (drawBorder g rows col).rewrites_set rows col border
      have hStep :
          drawBorder g (rows + 1) col =
            (drawBorder g rows col).set rows col border := by
        rw [drawBorder, List.range_succ, List.foldl_append]
        rfl
      rw [hStep]
      refine (ih.trans hLast).congr fun r line _ _ => ?_
      rcases Nat.lt_trichotomy r rows with hAbove | rfl | hBelow
      · rw [if_neg (by omega), if_pos hAbove, if_pos (by omega)]
      · rw [if_pos rfl, if_neg (Nat.lt_irrefl r), if_pos (by omega)]
      · rw [if_neg (by omega), if_neg (by omega), if_neg (by omega)]

/- The panes with the border between them. -/
def drawPanes
    (l : Layout)
    (log : Log)
    (shares : Shares) : Grid :=
  (drawBorder
    ((Grid.blank l.rows l.cols).blit (log.draw l.body l.left) 0 0)
    l.body l.left).blit
      (Meter.draw shares l.body l.right) 0 (l.left + 1)

theorem isPane_drawPanes
    (l : Layout)
    (log : Log)
    (shares : Shares) :
    (drawPanes l log shares).IsPane ⟨l.rows, l.cols⟩ := by
  have hLog := log.isPane_draw l.body l.left
  have hMeter := Meter.isPane_draw shares l.body l.right
  have hLeft := (Grid.isPane_blank l.rows l.cols).blit hLog 0 0
  exact (isPane_drawBorder hLeft l.body l.left).blit hMeter 0 _

/- A row of the panes: one of the log, the border, the meter. -/
theorem exists_line_drawPanes
    (l : Layout)
    (log : Log)
    (shares : Shares)
    {row : Nat}
    (hRow : row < l.body) :
    ∃ first second : Line,
      (log.draw l.body l.left).lines[row]? = some first ∧
        first.length = l.left ∧ first.Matched ∧ second.Matched ∧
          (drawPanes l log shares).lines[row]? =
            some
              ((((Line.blank l.cols).overlay 0 first).place l.left
                border).overlay (l.left + 1) second) := by
  have hBody : l.body = l.rows - 1 := rfl
  rcases (log.isPane_draw l.body l.left).exists_line hRow with
    ⟨first, hFirst, hLength, hWholeFirst⟩
  rcases (Meter.isPane_draw shares l.body l.right).exists_line hRow
    with ⟨second, hSecond, -, hWholeSecond⟩
  refine
    ⟨first, second, hFirst, hLength, hWholeFirst, hWholeSecond, ?_⟩
  rw [drawPanes, (Grid.rewrites_blit _ _ _ _).lines,
    (rewrites_drawBorder _ _ _).lines,
    (Grid.rewrites_blit _ _ _ _).lines,
    Grid.getElem?_lines_blank (by omega)]
  simp [hRow, hFirst, hSecond]

/- Up to the border, it is the row of the log. -/
theorem cell?_drawPanes
    {l : Layout}
    (log : Log)
    (shares : Shares)
    {row col : Nat}
    (hRow : row < l.body)
    (hCols : 0 < l.cols)
    (hCol : col ≤ l.left) :
    (drawPanes l log shares).cell? row col =
      if col = l.left then some border
      else (log.draw l.body l.left).cell? row col := by
  have hHalf : l.left = l.cols / 2 := rfl
  rcases exists_line_drawPanes l log shares hRow with
    ⟨first, second, hFirst, hLength, hWholeFirst, hWholeSecond, hLine⟩
  have hLaid :
      ∀ j < l.left,
        ((Line.blank l.cols).overlay 0 first).cell? j =
          first.cell? j := by
    intro j hj
    exact Line.cell?_overlay_of_lt hWholeFirst (by omega) (by omega)
  have hWhole :
      ∀ j, j + 1 = l.left →
        ((Line.blank l.cols).overlay 0 first).wideAt j = false := by
    intro j hLast
    rw [Line.wideAt, hLaid j (by omega)]
    exact hWholeFirst.paired.wideAt_last (by omega)
  have hInside :
      l.left < ((Line.blank l.cols).overlay 0 first).length := by
    rw [Line.length_overlay, Line.length_blank]
    omega
  rw [Grid.cell?_of_line hLine, Grid.cell?_of_line hFirst,
    Line.cell?_bordered ((Line.matched_blank l.cols).overlay 0 first)
      hInside hWhole width_border hWholeSecond hCol]
  split
  case isTrue => rfl
  case isFalse hBefore => exact hLaid col (by omega)

section

variable (l : Layout)
variable (log : Log)
variable (shares : Shares)
variable (committed tenths : Nat)

/- The screen: the panes, the status line and the cursor. -/
theorem draw_eq :
    draw l log shares committed tenths =
      ((drawPanes l log shares).put l.body 0
        (statusLine l committed tenths) statusStyle).withCursor
          (cursor l log) :=
  rfl

theorem isPane_draw :
    (draw l log shares committed tenths).IsPane
      ⟨l.rows, l.cols⟩ := by
  rw [draw_eq]
  apply Grid.IsPane.withCursor
  exact (isPane_drawPanes l log shares).put l.body 0 _ statusStyle

/- Above the status line there are the panes. -/
theorem cell?_draw_of_lt
    {row : Nat}
    (hRow : row < l.body)
    (col : Nat) :
    (draw l log shares committed tenths).cell? row col =
      (drawPanes l log shares).cell? row col :=
  Grid.cell?_put_of_ne _ (Nat.ne_of_lt hRow) 0 col _ statusStyle

/- The status line fills its row. -/
theorem exists_cell?_draw_status
    {col : Nat}
    (hRows : 0 < l.rows)
    (hCol : col < l.cols) :
    ∃ c,
      (statusLine l committed tenths)[col]? = some c ∧
        (draw l log shares committed tenths).cell? l.body col =
          some (.styled [c] statusStyle) := by
  have hBody : l.body = l.rows - 1 := rfl
  have hPanes := isPane_drawPanes l log shares
  have hText :=
    Nat.lt_of_lt_of_le hCol (le_length_statusLine l committed tenths)
  have hRow : l.body < (drawPanes l log shares).rows := by
    rw [hPanes.rows]
    omega
  have hInside : col < (drawPanes l log shares).cols := by
    rwa [hPanes.cols]
  exact
    ⟨_, List.getElem?_eq_getElem hText,
      Grid.cell?_put_of_plain hPanes.composed.valid
        (plain_statusLine l committed tenths) statusStyle hRow hInside
        hText⟩

/- The cursor is where the log ends. -/
theorem cursor_draw
    (hKept : log.kept ≤ l.body) :
    (draw l log shares committed tenths).cursor =
      { row := log.kept - 1
        col := 0
        shape := .steadyBar } := by
  have hBody : l.body = l.rows - 1 := rfl
  have hRow :
      min (min log.kept l.body - 1)
          ((drawPanes l log shares).rows - 1) =
        log.kept - 1 := by
    rw [(isPane_drawPanes l log shares).rows]
    omega
  change (cursor l log).clamp (drawPanes l log shares).rows
    (drawPanes l log shares).cols = _
  simp only [cursor, Cursor.clamp, hRow, Nat.zero_min]

end

------------------------------------------------------------
-- Screens
------------------------------------------------------------

end Compositor

/- A layout of rows and columns counted in sixteen bits. -/
def Layout.ofCounts (rows cols : UInt16) : Layout :=
  ⟨rows.toNat, cols.toNat⟩

theorem Layout.cols_ofCounts_le
    (rows cols : UInt16) :
    (ofCounts rows cols).cols ≤ maxColumn :=
  Nat.le_of_lt_succ cols.toNat_lt

namespace Compositor

/- What the program does with its screen. -/
inductive Act
  | compose
      (rows cols : UInt16)
      (levels : Levels)
      (tenths : Nat)
  | take (reports : List Report)

/- The extent that a screen is asked for in. -/
def Act.size? : Act → Option Size
  | .compose rows cols _ _ => some ⟨rows.toNat, cols.toNat⟩
  | .take _ => none

end Compositor

/- A screen, and what it was composed from. -/
structure Scene where
  layout : Layout
  log : Backlog
  committed : Nat
  tenths : Nat
  grid : Grid

namespace Compositor

/-
  The screens that a program composes, beside a queue of lines
  that every screen adds to.
-/
def scenes?
    (b : Backlog)
    (c : Compositor) :
    List Act → Option (List Scene)
  | [] => some []
  | .compose rows cols levels tenths :: acts => do
      let l := Layout.ofCounts rows cols
      let (g, c) ← c.compose? l levels.shares tenths
      let b := b.tick l.body
      let rest ← scenes? b c acts
      return ⟨l, b, c.committed, tenths, g⟩ :: rest
  | .take reports :: acts => scenes? b (c.take reports).2.2 acts

end Compositor

/-
  A screen of the extent asked for, with whole characters only.
  Its log shows the latest lines, clipped to the left half; the
  border is next to it, and a full row of status is below.  The
  cursor stands on the last line of the log.
-/
structure Scene.Keeps (s : Scene) : Prop where
  size : s.grid.size = ⟨s.layout.rows, s.layout.cols⟩
  valid : s.grid.validate = .ok ()
  border :
    ∀ {row}, row < s.layout.body → 0 < s.layout.cols →
      s.grid.cell? row s.layout.left = some Compositor.border
  status :
    ∀ {col}, 0 < s.layout.rows → col < s.layout.cols →
      ∃ c,
        (Compositor.statusLine s.layout s.committed
          s.tenths)[col]? = some c ∧
        s.grid.cell? s.layout.body col =
          some (.styled [c] Compositor.statusStyle)
  recent : s.log.IsRecent s.layout.body
  shown :
    ∀ {row col}, row < s.layout.body → col < s.layout.left →
      s.grid.cell? row col =
        some
          ((s.log.lines[row]?).elim .empty
            (·.cellAt s.layout.left col))
  cursor :
    s.grid.cursor =
      { row := s.log.lines.length - 1
        col := 0
        shape := .steadyBar }

namespace Compositor

variable {b : Backlog}
variable {c : Compositor}

/- What is drawn for the latest lines keeps the layout. -/
theorem keeps_draw
    (l : Layout)
    (log : Log)
    (hRecent : log.backlog.IsRecent l.body)
    (shares : Shares)
    (committed tenths : Nat) :
    Scene.Keeps
      ⟨l, log.backlog, committed, tenths,
        draw l log shares committed tenths⟩ := by
  have hHalf : l.left = l.cols / 2 := rfl
  have hScreen := isPane_draw l log shares committed tenths
  exact
    { size := hScreen.size
      valid := hScreen.composed.valid
      border := by
        intro row (hRow : row < l.body) (hCols : 0 < l.cols)
        simp only
        rw [cell?_draw_of_lt l log shares committed tenths hRow,
          cell?_drawPanes log shares hRow hCols (Nat.le_refl _),
          if_pos rfl]
      status := exists_cell?_draw_status l log shares committed tenths
      recent := hRecent
      shown := by
        intro row col (hRow : row < l.body) (hCol : col < l.left)
        simp only
        rw [cell?_draw_of_lt l log shares committed tenths hRow,
          cell?_drawPanes log shares hRow (by omega) (by omega),
          if_neg (by omega), log.draw_eq,
          log.backlog.cell?_draw hRow hCol]
      cursor := by
        have hKept := hRecent.bounded
        simp only
        rw [log.length_backlog] at hKept ⊢
        exact cursor_draw l log shares committed tenths hKept }

------------------------------------------------------------
-- One Screen After Another
------------------------------------------------------------

/- The log of a program is the queue that is kept beside it. -/
structure Follows
    (c : Compositor)
    (b : Backlog) : Prop where
  queue : c.log.backlog = b
  kept_le : c.log.kept ≤ c.log.next
  recent : b.lines <:+ (List.range b.next).map Backlog.entry

theorem Follows.tick
    (h : c.Follows b)
    (l : Layout) :
    (c.tick l).Follows (b.tick l.body) where
  queue := by
    rw [← h.queue]
    exact Log.backlog_tick h.kept_le l.body
  kept_le := Log.kept_tick_le h.kept_le l.body
  recent := (Backlog.isRecent_tick h.recent l.body).recent

theorem log_take
    (c : Compositor)
    (reports : List Report) :
    (c.take reports).2.2.log = c.log := by
  induction reports generalizing c with
  | nil => rfl
  | cons report rest ih =>
      cases report with
      | committed => exact ih { c with committed := c.committed + 1 }
      | rejected => exact ih c
      | failed => rfl

/- Reports do not touch the log. -/
theorem Follows.take
    (h : c.Follows b)
    (reports : List Report) :
    (c.take reports).2.2.Follows b where
  queue := by rw [log_take, h.queue]
  kept_le := by
    rw [log_take]
    exact h.kept_le
  recent := h.recent

/- The next screen is composed, and keeps its layout. -/
theorem Follows.exists_scene
    (h : c.Follows b)
    {l : Layout}
    (hCols : l.cols ≤ maxColumn)
    (levels : Levels)
    (tenths : Nat) :
    ∃ g,
      c.compose? l levels.shares tenths = some (g, c.tick l) ∧
        Scene.Keeps
          ⟨l, b.tick l.body, c.committed, tenths, g⟩ := by
  have hRecent := Backlog.isRecent_tick h.recent l.body
  have hNext := (h.tick l).queue
  rw [← hNext] at hRecent ⊢
  exact
    ⟨_, c.compose?_eq levels hCols tenths,
      keeps_draw l (c.tick l).log hRecent levels.shares c.committed
        tenths⟩

/- So are all that follow. -/
theorem Follows.exists_scenes
    (h : c.Follows b)
    (acts : List Act) :
    ∃ scenes, scenes? b c acts = some scenes ∧
      scenes.map (·.grid.size) = acts.filterMap Act.size? ∧
        ∀ s ∈ scenes, s.Keeps := by
  induction acts generalizing b c with
  | nil => exact ⟨[], rfl, rfl, by simp⟩
  | cons act rest ih =>
      cases act with
      | compose rows cols levels tenths =>
          have hCols := Layout.cols_ofCounts_le rows cols
          rcases h.exists_scene hCols levels tenths with
            ⟨g, hScene, hKeeps⟩
          rcases ih (h.tick (.ofCounts rows cols)) with
            ⟨scenes, hRest, hSizes, hAll⟩
          refine
            ⟨_ :: scenes, ?_, ?_,
              List.forall_mem_cons.mpr ⟨hKeeps, hAll⟩⟩
          · simp only [scenes?, hScene, Option.bind_eq_bind,
              Option.bind_some, hRest]
            rfl
          · rw [List.map_cons, hKeeps.size, hSizes]
            rfl
      | take reports => exact ih (h.take reports)

/-
  Whatever a program does with its screen, every screen that it
  asks for is composed in the extent asked for and keeps its
  layout.  With the levels of its own meter it is the screen of
  `compose`.
-/
theorem scenes_keep_layout
    (meter : Meter)
    (committed : Nat)
    (acts : List Act) :
    (∃ scenes,
        scenes? {} { meter := meter, committed := committed } acts =
            some scenes ∧
          scenes.map (·.grid.size) = acts.filterMap Act.size? ∧
            ∀ s ∈ scenes, s.Keeps) ∧
      ∀ (c : Compositor) (l : Layout) (levels : Levels) (tenths : Nat),
        l.cols ≤ maxColumn →
          c.meter.tick.shares = levels.shares →
            c.compose? l levels.shares tenths =
              some (c.compose l tenths) := by
  constructor
  · have hStart :
        Follows { meter := meter, committed := committed } {} :=
      ⟨rfl, Nat.le_refl 0, List.nil_suffix⟩
    exact hStart.exists_scenes acts
  · intro c l levels tenths hCols hLevels
    rw [c.compose?_eq levels hCols, ← hLevels]
    rfl

/- A screen with bars of half the width, and then a small one. -/
theorem scenes_keep_layout_half :
    ∃ first second : Scene,
      scenes? {} {}
          [.compose 4 30 .half 5, .take [.committed 1 {}],
            .compose 2 6 .half 7] =
        some [first, second] ∧
      first.grid.size = ⟨4, 30⟩ ∧ first.Keeps ∧
        second.grid.size = ⟨2, 6⟩ ∧ second.Keeps := by
  rcases (scenes_keep_layout {} 0
      [.compose 4 30 .half 5, .take [.committed 1 {}],
        .compose 2 6 .half 7]).1 with
    ⟨scenes, hScenes, hSizes, hKeeps⟩
  obtain ⟨first, rest, rfl, hFirst, hRest⟩ :=
    List.map_eq_cons_iff.mp hSizes
  obtain ⟨second, none, rfl, hSecond, hNone⟩ :=
    List.map_eq_cons_iff.mp hRest
  obtain rfl := List.map_eq_nil_iff.mp hNone
  exact
    ⟨first, second, hScenes, hFirst, hKeeps first (by simp),
      hSecond, hKeeps second (by simp)⟩

end Compositor

end Redraw
