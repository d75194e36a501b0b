import Redraw.Proofs.Plan.Screens

/-
  Contents: the steps that a plan is made of.

  Every text in a plan is the text of some cells, written one
  after another, so it is not empty and has no control
  character in it.  Only a repaint clears the screen.

  Key definitions include:
    * `Op.IsDrawn`: the steps of drawing
    * `Stroke.Drawn`

  Main declarations:
    * `Pen.exists_cells_of_runs`: what a run is made of
    * `Plan.drawn_diffGrids`
    * `Plan.isRepaint_diffGrids`, `Plan.isRepaint_repaint`
-/

namespace Redraw

namespace Cell

theorem text_ne_nil
    {c : Cell}
    (h : c.isContinuation = false) :
    c.text ≠ [] := by
  rcases c with ⟨glyph, style⟩
  cases glyph with
  | narrow ink => exact ink.ne_nil
  | wide ink => exact ink.ne_nil
  | continuation => simp [isContinuation] at h

/- No cell has a control character in it. -/
theorem noControl_text
    (c : Cell) :
    c.text.any isControl = false := by
  rcases c with ⟨glyph, style⟩
  cases glyph with
  | narrow ink => exact ink.noControl
  | wide ink => exact ink.noControl
  | continuation => rfl

end Cell

------------------------------------------------------------
-- Steps of Drawing
------------------------------------------------------------

/-
  A step that drawing adds.  A text is that of cells which are
  not second halves.
-/
inductive Op.IsDrawn : Op → Prop
  | moveTo
      (target : Position) :
      IsDrawn (.moveTo target)
  | setStyle
      (style : Style) :
      IsDrawn (.setStyle style)
  | text
      {cells : List Cell}
      (nonempty : cells ≠ [])
      (units : ∀ c ∈ cells, c.isContinuation = false) :
      IsDrawn
        (.text (cells.flatMap Cell.text) (cells.map Cell.width).sum)
  | eraseToEndOfLine : IsDrawn .eraseToEndOfLine
  | showCursor : IsDrawn .showCursor
  | hideCursor : IsDrawn .hideCursor
  | setCursorShape
      (shape : CursorShape) :
      IsDrawn (.setCursorShape shape)

namespace Stroke

/- A stroke of such steps. -/
def Drawn (stroke : Stroke) : Prop :=
  ∀ op ∈ stroke.ops, op.IsDrawn

theorem drawn_rest
    (pen : Pen) :
    pen.rest.Drawn := by
  simp [Drawn, Pen.rest]

theorem drawn_single
    {op : Op}
    (h : op.IsDrawn)
    (cells : Nat)
    (pen : Pen) :
    Drawn ⟨[op], cells, pen⟩ := by
  intro op' hop
  rwa [List.mem_singleton.mp hop]

theorem Drawn.andThen
    {stroke : Stroke}
    {next : Pen → Stroke}
    (h : stroke.Drawn)
    (hNext : ∀ pen, (next pen).Drawn) :
    (stroke.andThen next).Drawn := by
  intro op hop
  rcases List.mem_append.mp hop with hNow | hLater
  · exact h op hNow
  · exact hNext _ op hLater

end Stroke

namespace Pen

theorem drawn_moveTo
    (target : Position)
    (pen : Pen) :
    (pen.moveTo target).Drawn := by
  unfold moveTo
  split
  · exact Stroke.drawn_rest pen
  · exact Stroke.drawn_single (.moveTo target) _ _

theorem drawn_setStyle
    (style : Style)
    (pen : Pen) :
    (pen.setStyle style).Drawn := by
  unfold setStyle
  split
  · exact Stroke.drawn_rest pen
  · exact Stroke.drawn_single (.setStyle style) _ _

theorem drawn_erase
    (cols : Nat)
    (start : Position)
    (pen : Pen) :
    (pen.erase cols start).Drawn := by
  refine ((drawn_moveTo start pen).andThen (drawn_setStyle _)).andThen ?_
  intro pen
  exact Stroke.drawn_single .eraseToEndOfLine _ _

theorem drawn_placeCursor
    (cursor : Cursor)
    (belief : Belief)
    (pen : Pen) :
    (pen.placeCursor cursor belief).Drawn := by
  intro op hop
  simp only [placeCursor, List.mem_append] at hop
  rcases hop with (hMove | hShape) | hVisible
  · exact drawn_moveTo cursor.position pen op hMove
  · split at hShape
    · simp at hShape
    · rw [List.mem_singleton.mp hShape]
      exact .setCursorShape cursor.shape
  · split at hVisible
    · simp at hVisible
    · rw [List.mem_singleton.mp hVisible]
      cases cursor.visible with
      | true => exact .showCursor
      | false => exact .hideCursor

------------------------------------------------------------
-- Runs
------------------------------------------------------------

/-
  A run holds the text of some of the cells.  By the cells: the
  first joins the run after it or makes one of its own.
-/
theorem exists_cells_of_runs
    {cells : List Cell}
    (hUnits : ∀ c ∈ cells, c.isContinuation = false)
    (col : Nat) :
    ∀ run ∈ runs col cells,
      ∃ part : List Cell,
        part ≠ [] ∧ (∀ c ∈ part, c.isContinuation = false) ∧
          run.chars = part.flatMap Cell.text ∧
          run.width = (part.map Cell.width).sum := by
  induction cells generalizing col with
  | nil => simp [runs]
  | cons cell rest ih =>
      rw [List.forall_mem_cons] at hUnits
      have hRest := ih hUnits.2 (col + cell.width)
      have hAlone :
          ∃ part : List Cell,
            part ≠ [] ∧ (∀ c ∈ part, c.isContinuation = false) ∧
              (runOf col cell).chars = part.flatMap Cell.text ∧
              (runOf col cell).width =
                (part.map Cell.width).sum :=
        ⟨[cell], by simp, by simp [hUnits.1], by simp [runOf],
          by simp [runOf]⟩
      rw [runs_cons]
      cases hRuns : runs (col + cell.width) rest with
      | nil =>
          intro run hRun
          rw [List.mem_singleton.mp hRun]
          exact hAlone
      | cons next later =>
          rw [hRuns, List.forall_mem_cons] at hRest
          simp only
          split
          · rw [List.forall_mem_cons]
            rcases hRest.1 with
              ⟨part, hSome, hPart, hChars, hWidth⟩
            refine ⟨⟨cell :: part, by simp, ?_, ?_, ?_⟩, hRest.2⟩
            · exact List.forall_mem_cons.mpr ⟨hUnits.1, hPart⟩
            · rw [hChars, List.flatMap_cons]
            · rw [hWidth, List.map_cons, List.sum_cons]
          · exact
              List.forall_mem_cons.mpr
                ⟨hAlone, List.forall_mem_cons.mpr hRest⟩

theorem drawn_drawRuns
    (cols row : Nat)
    {runs : List Run}
    (h : ∀ run ∈ runs, Op.IsDrawn (.text run.chars run.width))
    (pen : Pen) :
    (pen.drawRuns cols row runs).Drawn := by
  induction runs generalizing pen with
  | nil => exact Stroke.drawn_rest pen
  | cons run later ih =>
      rw [List.forall_mem_cons] at h
      refine Stroke.Drawn.andThen ?_ (ih h.2)
      refine
        ((drawn_moveTo _ pen).andThen
          (drawn_setStyle run.style)).andThen ?_
      intro pen
      exact Stroke.drawn_single h.1 _ _

theorem drawn_drawCells
    (cols row col : Nat)
    (cells : List Cell)
    (pen : Pen) :
    (pen.drawCells cols row col cells).Drawn := by
  apply drawn_drawRuns
  intro run hRun
  have hUnits :
      ∀ c ∈ cells.filter fun c => !c.isContinuation,
        c.isContinuation = false := by
    intro c hc
    simpa using (List.mem_filter.mp hc).2
  rcases exists_cells_of_runs hUnits col run hRun with
    ⟨part, hSome, hPart, hChars, hWidth⟩
  rw [hChars, hWidth]
  exact .text hSome hPart

------------------------------------------------------------
-- Lines
------------------------------------------------------------

theorem drawn_drawLastSpan
    (cols row : Nat)
    (line : Line)
    (span : Span)
    (pen : Pen) :
    (pen.drawLastSpan cols row line span).Drawn := by
  unfold drawLastSpan
  simp only
  split
  · exact
      (drawn_drawCells _ _ _ _ pen).andThen (drawn_erase cols _)
  · exact drawn_drawCells _ _ _ _ pen

theorem drawn_drawSpans
    (cols row : Nat)
    (line : Line)
    (spans : List Span)
    (pen : Pen) :
    (pen.drawSpans cols row line spans).Drawn := by
  induction spans generalizing pen with
  | nil => exact Stroke.drawn_rest pen
  | cons span later ih =>
      cases later with
      | nil => exact drawn_drawLastSpan cols row line span pen
      | cons next later =>
          exact (drawn_drawCells _ _ _ _ pen).andThen ih

theorem drawn_drawLines
    {cols row : Nat}
    {prevs currs : List Line}
    {pen : Pen}
    {stroke : Stroke}
    {equal : Nat}
    (h :
      pen.drawLines cols row prevs currs = .ok (stroke, equal)) :
    stroke.Drawn := by
  induction prevs generalizing row currs pen stroke equal with
  | nil =>
      cases h
      exact Stroke.drawn_rest pen
  | cons prev prevs ih =>
      cases currs with
      | nil =>
          cases h
          exact Stroke.drawn_rest pen
      | cons curr currs =>
          rcases drawLines_cons_eq_ok h with
            ⟨_, n, -, hRest⟩ | ⟨-, drawn, later, hDrawn, hRest, rfl⟩
          · exact ih hRest
          · rcases drawLine_eq_ok hDrawn with
              ⟨_, _, spans, _, rfl⟩
            exact
              (drawn_drawSpans cols row curr spans pen).andThen
                fun _ => ih hRest

end Pen

------------------------------------------------------------
-- Plans
------------------------------------------------------------

namespace Plan

/- There is nothing to draw on a screen without cells. -/
theorem diffGrids_of_isEmpty
    {prev curr : Grid}
    {belief : Belief}
    {plan : Plan}
    (hEmpty : curr.isEmpty = true)
    (h : diffGrids prev curr belief = .ok plan) :
    prev.size = curr.size ∧ plan = idle curr belief := by
  unfold diffGrids at h
  by_cases hSize : prev.size = curr.size
  · rw [if_neg (not_not.mpr hSize), if_pos hEmpty] at h
    cases h
    exact ⟨hSize, rfl⟩
  · rw [if_pos hSize] at h
    cases h

/- A plan between two screens is made of steps of drawing. -/
theorem drawn_diffGrids
    {prev curr : Grid}
    {belief : Belief}
    {plan : Plan}
    (h : diffGrids prev curr belief = .ok plan) :
    ∀ op ∈ plan.ops, op.IsDrawn := by
  cases hEmpty : curr.isEmpty with
  | true =>
      rw [(diffGrids_of_isEmpty hEmpty h).2]
      exact List.forall_mem_nil _
  | false =>
      rcases diffGrids_eq_ok hEmpty h with
        ⟨_, lines, equal, hLines, hOps, _⟩
      rw [hOps]
      exact
        ((Pen.drawn_drawLines hLines).andThen
          (Pen.drawn_setStyle _)).andThen
          (Pen.drawn_placeCursor _ _)

/- It does not clear the screen. -/
theorem isRepaint_diffGrids
    {prev curr : Grid}
    {belief : Belief}
    {plan : Plan}
    (h : diffGrids prev curr belief = .ok plan) :
    plan.isRepaint = false := by
  rw [isRepaint, decide_eq_false_iff_not]
  intro hHead
  have hClear :=
    drawn_diffGrids h .clearScreen (List.mem_of_mem_head? hHead)
  cases hClear

/- A repaint does. -/
theorem isRepaint_repaint
    {curr : Snapshot}
    {plan : Plan}
    (h : repaint curr = .ok plan) :
    plan.isRepaint = true := by
  rcases repaint_eq_ok h with ⟨inner, _, rfl⟩
  rfl

end Plan

end Redraw
