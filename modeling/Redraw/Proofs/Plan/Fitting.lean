import Redraw.Proofs.Plan.Screens

/-
  Fitting: every step of a plan is one that the screen can take.

  Moves stay inside, and every text starts with a visible
  character and takes the columns it is said to take.

  Key definitions include:
    * `Stroke.Fits`

  Main declarations:
    * `Pen.fits_drawRuns`, `Pen.fits_drawSpans`
    * `Plan.fits_diffGrids`
-/

namespace Redraw

namespace Stroke

/- A stroke of steps that a screen of a size can take. -/
def Fits
    (rows cols : Nat)
    (stroke : Stroke) : Prop :=
  ∀ op ∈ stroke.ops, op.Fits rows cols

theorem Fits.andThen
    {rows cols : Nat}
    {stroke : Stroke}
    {next : Pen → Stroke}
    (h : stroke.Fits rows cols)
    (hNext : (next stroke.pen).Fits rows cols) :
    (stroke.andThen next).Fits rows cols := by
  intro op hop
  rcases List.mem_append.mp hop with hNow | hLater
  · exact h op hNow
  · exact hNext op hLater

end Stroke

namespace Pen

variable {rows cols row : Nat}
variable {pen : Pen}
variable {prev curr : Line}

------------------------------------------------------------
-- Single Steps
------------------------------------------------------------

theorem fits_moveTo
    {target : Position}
    (hRow : target.row < rows)
    (hCol : target.col < cols) :
    (pen.moveTo target).Fits rows cols := by
  unfold moveTo
  split
  · simp [Stroke.Fits, rest]
  · intro op hop
    rw [List.mem_singleton.mp hop]
    exact ⟨hRow, hCol⟩

theorem fits_setStyle
    (style : Style) :
    (pen.setStyle style).Fits rows cols := by
  unfold setStyle
  split
  · simp [Stroke.Fits, rest]
  · intro op hop
    rw [List.mem_singleton.mp hop]
    trivial

theorem fits_erase
    {col : Nat}
    (hRow : row < rows)
    (hCol : col < cols) :
    (pen.erase cols ⟨row, col⟩).Fits rows cols := by
  apply ((fits_moveTo hRow hCol).andThen (fits_setStyle _)).andThen
  intro op hop
  rw [List.mem_singleton.mp hop]
  trivial

theorem fits_placeCursor
    {cursor : Cursor}
    (belief : Belief)
    (hRow : cursor.row < rows)
    (hCol : cursor.col < cols) :
    (pen.placeCursor cursor belief).Fits rows cols := by
  intro op hop
  simp only [placeCursor, List.mem_append] at hop
  rcases hop with (hMove | hShape) | hVisible
  · exact fits_moveTo hRow hCol op hMove
  · split at hShape
    · simp at hShape
    · rw [List.mem_singleton.mp hShape]
      trivial
  · split at hVisible
    · simp at hVisible
    · rw [List.mem_singleton.mp hVisible]
      cases cursor.visible <;> trivial

------------------------------------------------------------
-- Runs
------------------------------------------------------------

/- A run inside a line whose text takes its columns. -/
structure Run.Fits
    (cols : Nat)
    (run : Run) : Prop where
  text : IsText cols run.chars run.width
  some : 0 < run.width
  inside : run.col + run.width ≤ cols

theorem fits_drawRun
    (hRow : row < rows)
    {run : Run}
    (h : Run.Fits cols run) :
    (pen.drawRun cols row run).Fits rows cols := by
  have hSome := h.some
  have hInside := h.inside
  refine
    ((fits_moveTo hRow (show run.col < cols by omega)).andThen
      (fits_setStyle _)).andThen ?_
  intro op hop
  rw [List.mem_singleton.mp hop]
  exact h.text

theorem fits_drawRuns
    (hRow : row < rows)
    {runs : List Run}
    (h : ∀ run ∈ runs, Run.Fits cols run) :
    (pen.drawRuns cols row runs).Fits rows cols := by
  induction runs generalizing pen with
  | nil => simp [Stroke.Fits, drawRuns, rest]
  | cons run later ih =>
      exact
        (fits_drawRun hRow (h run (by simp))).andThen
          (ih fun r hr => h r (by simp [hr]))

/- The text of a simple cell. -/
theorem isText_of_isSimple
    {cell : Cell}
    (hSimple : cell.IsSimple)
    (hUnit : cell.isContinuation = false)
    (hFits : cell.width ≤ cols) :
    IsText cols cell.text cell.width := by
  rcases hSimple.exists_lead hUnit with
    ⟨lead, marks, hText, hWidth, hMarks⟩
  have hPositive := Cell.width_of_not_isContinuation hUnit
  refine ⟨cell.all_isPrintable_text, ?_, ?_, hSimple.sum_text hUnit⟩
  · rw [hText]
    simp only [List.head?_cons, Option.any_some, hWidth,
      decide_eq_true_eq]
    omega
  · intro hOne
    rw [hText, List.all_eq_true]
    intro c hc
    rcases List.mem_cons.mp hc with rfl | hMark
    · simp only [decide_eq_true_eq]
      omega
    · simp [hMarks c hMark]

/- Text that goes on with further text. -/
theorem IsText.append
    {chars more : List Char}
    {width added : Nat}
    (h : IsText cols chars width)
    (hMore : IsText cols more added) :
    IsText cols (chars ++ more) (width + added) := by
  refine ⟨?_, ?_, ?_, ?_⟩
  · rw [List.all_append, h.printable, hMore.printable]
    rfl
  · cases chars with
    | nil => exact absurd h.visible (by simp)
    | cons c chars => exact h.visible
  · intro hOne
    rw [List.all_append, h.narrow hOne, hMore.narrow hOne]
    rfl
  · rw [List.map_append, List.sum_append, h.columns, hMore.columns]

/- The runs of simple cells fit where the cells do. -/
theorem fits_runs
    {cells : List Cell}
    (hUnits : ∀ c ∈ cells, c.isContinuation = false)
    (hSimple : ∀ c ∈ cells, c.IsSimple)
    {col : Nat}
    (hFits : col + (cells.map Cell.width).sum ≤ cols) :
    ∀ run ∈ runs col cells, Run.Fits cols run := by
  induction cells generalizing col with
  | nil => simp [runs]
  | cons cell rest ih =>
      have hUnit := hUnits cell (by simp)
      have hWidth := Cell.width_of_not_isContinuation hUnit
      simp only [List.map_cons, List.sum_cons] at hFits
      have hHead : Run.Fits cols (runOf col cell) :=
        ⟨isText_of_isSimple (hSimple cell (by simp)) hUnit
            (by omega),
          show 0 < cell.width by omega,
          show col + cell.width ≤ cols by omega⟩
      have hRest :=
        ih (fun c hc => hUnits c (by simp [hc]))
          (fun c hc => hSimple c (by simp [hc]))
          (show col + cell.width + (rest.map Cell.width).sum ≤ cols
            by omega)
      rw [runs_cons]
      cases hRuns : runs (col + cell.width) rest with
      | nil =>
          intro run hRun
          rw [List.mem_singleton.mp hRun]
          exact hHead
      | cons next later =>
          rw [hRuns] at hRest
          have hNext := hRest next (by simp)
          have hCol := col_of_runs hRuns
          have hEnd := hNext.inside
          simp only
          intro run hRun
          split at hRun
          · rcases List.mem_cons.mp hRun with rfl | hLater
            · refine
                ⟨IsText.append hHead.text hNext.text, ?_, ?_⟩
              · simp only
                omega
              · simp only
                omega
            · exact hRest run (by simp [hLater])
          · rcases List.mem_cons.mp hRun with rfl | hLater
            · exact hHead
            · exact hRest run hLater

------------------------------------------------------------
-- Lines
------------------------------------------------------------

theorem fits_drawBetween
    (hLines : Drawable cols prev curr)
    (hRow : row < rows)
    {start stop : Nat}
    (hOrder : start ≤ stop)
    (hWithin : stop ≤ curr.length)
    (hStart : curr.continuationAt start = false)
    (hStop : curr.continuationAt stop = false) :
    (pen.drawBetween cols row curr start stop).Fits rows cols := by
  have hPart := hLines.currPaired.between hStart hStop
  refine fits_drawRuns hRow (fits_runs ?_ ?_ ?_)
  · intro c hc
    simpa using (List.mem_filter.mp hc).2
  · intro c hc
    have hPartOf := (List.mem_filter.mp hc).1
    exact
      hLines.simple c
        (List.mem_of_mem_take (List.mem_of_mem_drop hPartOf))
  · rw [hPart.sum_width, ← hLines.currLength]
    simp only [List.length_drop, List.length_take]
    omega

theorem fits_drawLastSpan
    (hLines : Drawable cols prev curr)
    (hRow : row < rows)
    {span : Span}
    (hOrder : span.start < span.stop)
    (hWithin : span.stop ≤ curr.length)
    (hStart : curr.continuationAt span.start = false)
    (hStop : curr.continuationAt span.stop = false) :
    (pen.drawLastSpan cols row curr span).Fits rows cols := by
  unfold drawLastSpan
  rcases textEnd_cases curr span with
    hEnd | ⟨hAfter, hBefore, hBlank⟩
  · simp only [hEnd, Nat.lt_irrefl, if_false]
    exact
      fits_drawBetween hLines hRow (Nat.le_of_lt hOrder) hWithin
        hStart hStop
  · simp only [hBefore, if_true]
    have hInside : textEnd curr span < cols := by
      rw [← hLines.currLength]
      omega
    exact
      (fits_drawBetween hLines hRow hAfter (by omega) hStart
        (continuationAt_of_blank hBlank)).andThen
        (fits_erase hRow hInside)

theorem fits_drawSpans
    (hLines : Drawable cols prev curr)
    (hRow : row < rows)
    {col : Nat}
    {spans : List Span}
    (hCovers : Covers prev curr col spans) :
    (pen.drawSpans cols row curr spans).Fits rows cols := by
  induction hCovers generalizing pen with
  | rest same => simp [Stroke.Fits, drawSpans, rest]
  | @span col span later after some within same starts stops more
      ih =>
      cases later with
      | nil =>
          exact
            fits_drawLastSpan hLines hRow some within starts stops
      | cons next later =>
          exact
            (fits_drawBetween hLines hRow (Nat.le_of_lt some) within
              starts stops).andThen ih

theorem fits_drawLine
    (hPrevLength : prev.length = cols)
    (hCurrLength : curr.length = cols)
    (hSimple : ∀ cell ∈ curr, cell.IsSimple)
    (hRow : row < rows)
    {stroke : Stroke}
    (h : pen.drawLine cols row prev curr = .ok stroke) :
    stroke.Fits rows cols := by
  rcases drawLine_eq_ok h with
    ⟨hPrevPaired, hCurrPaired, spans, hSpans, rfl⟩
  exact
    fits_drawSpans
      ⟨hPrevLength, hCurrLength, hPrevPaired, hCurrPaired, hSimple⟩
      hRow
      (covers_changedSpans (hPrevLength.trans hCurrLength.symm)
        hCurrPaired hSpans)

theorem fits_drawLines
    {prevs currs : List Line}
    (hPrevs : ∀ line ∈ prevs, line.length = cols)
    (hCurrs : ∀ line ∈ currs, line.length = cols)
    (hSimple : ∀ line ∈ currs, ∀ cell ∈ line, cell.IsSimple)
    (hRows : row + currs.length ≤ rows)
    {stroke : Stroke}
    {equal : Nat}
    (h :
      pen.drawLines cols row prevs currs = .ok (stroke, equal)) :
    stroke.Fits rows cols := by
  induction prevs generalizing row currs pen stroke equal with
  | nil =>
      cases h
      simp [Stroke.Fits, rest]
  | cons prev prevs ih =>
      cases currs with
      | nil =>
          cases h
          simp [Stroke.Fits, rest]
      | cons curr currs =>
          simp only [List.length_cons] at hRows
          have hLater {pen : Pen} {later : Stroke} {n : Nat}
              (hDrawn :
                drawLines cols (row + 1) prevs currs pen =
                  .ok (later, n)) :
              later.Fits rows cols :=
            ih (fun l hl => hPrevs l (by simp [hl]))
              (fun l hl => hCurrs l (by simp [hl]))
              (fun l hl => hSimple l (by simp [hl]))
              (by omega) hDrawn
          rcases drawLines_cons_eq_ok h with
            ⟨_, n, -, hRest⟩ | ⟨-, drawn, later, hDrawn, hRest, rfl⟩
          · exact hLater hRest
          · exact
              (fits_drawLine (hPrevs prev (by simp))
                (hCurrs curr (by simp)) (hSimple curr (by simp))
                (by omega) hDrawn).andThen (hLater hRest)

end Pen

------------------------------------------------------------
-- Plans
------------------------------------------------------------

namespace Plan

/- Every step of a plan between two screens fits. -/
theorem fits_diffGrids
    {prev curr : Grid}
    {belief : Belief}
    (hSome : curr.isEmpty = false)
    (hSimple : curr.IsSimple)
    {plan : Plan}
    (h : diffGrids prev curr belief = .ok plan) :
    ∀ op ∈ plan.ops, op.Fits curr.rows curr.cols := by
  rcases diffGrids_eq_ok hSome h with
    ⟨hSize, lines, equal, hLines, hOps, _⟩
  have hWidth : prev.cols = curr.cols := congrArg Size.cols hSize
  have hCursor := Grid.cursor_lt hSome
  rw [hOps]
  refine
    ((Pen.fits_drawLines
      (fun line hLine => (prev.line_length line hLine).trans hWidth)
      curr.line_length hSimple
      (by rw [curr.lines_length]; omega) hLines).andThen
      (Pen.fits_setStyle _)).andThen
      (Pen.fits_placeCursor _ hCursor.1 hCursor.2)

end Plan

end Redraw
