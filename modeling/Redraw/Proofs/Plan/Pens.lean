import Redraw.Plan.Stroke
import Redraw.Proofs.Frame.Encoding

/-
  Pens: drawing with a pen that knows where it is.

  What a pen believes is true of the screen while strokes are
  drawn.  A run of cells of one style is the same as its cells
  drawn one after another, since the pen is already where the
  next cell goes and has its style.

  Key definitions include:
    * `Screen.draw`: a stroke on a screen
    * `Screen.ChangesOnly`: one line and the cursor
    * `Pen.Describes`: what a pen believes is so
    * `Pen.drawUnits`: cells drawn one after another

  Main declarations:
    * `Pen.draw_moveTo`, `Pen.draw_setStyle`
    * `Pen.draw_runs`: runs change nothing
-/

namespace Redraw

namespace Screen

------------------------------------------------------------
-- Strokes on a Screen
------------------------------------------------------------

/- The screen after the steps of a stroke. -/
def draw
    (caps : Capabilities)
    (s : Screen)
    (stroke : Stroke) : Screen :=
  s.executeAll caps stroke.ops

theorem executeAll_append
    (caps : Capabilities)
    (s : Screen)
    (ops later : List Op) :
    s.executeAll caps (ops ++ later) =
      (s.executeAll caps ops).executeAll caps later := by
  simp [executeAll]

@[simp] theorem draw_rest
    (caps : Capabilities)
    (s : Screen)
    (pen : Pen) :
    s.draw caps pen.rest = s := rfl

@[simp] theorem draw_andThen
    (caps : Capabilities)
    (s : Screen)
    (stroke : Stroke)
    (next : Pen → Stroke) :
    s.draw caps (stroke.andThen next) =
      (s.draw caps stroke).draw caps (next stroke.pen) :=
  executeAll_append caps s stroke.ops (next stroke.pen).ops

/- Only one line differs, the cursor's place and style apart. -/
structure ChangesOnly
    (row : Nat)
    (s t : Screen) : Prop where
  extent : t.extent = s.extent
  others : ∀ r, r ≠ row → t.slots r = s.slots r
  visible : t.visible = s.visible
  shape : t.shape = s.shape

@[refl] theorem ChangesOnly.refl
    (row : Nat)
    (s : Screen) :
    ChangesOnly row s s :=
  ⟨rfl, fun _ _ => rfl, rfl, rfl⟩

theorem ChangesOnly.trans
    {row : Nat}
    {s t u : Screen}
    (h : ChangesOnly row s t)
    (hNext : ChangesOnly row t u) :
    ChangesOnly row s u where
  extent := hNext.extent.trans h.extent
  others := fun r hr => (hNext.others r hr).trans (h.others r hr)
  visible := hNext.visible.trans h.visible
  shape := hNext.shape.trans h.shape

theorem ChangesOnly.rows
    {row : Nat}
    {s t : Screen}
    (h : ChangesOnly row s t) :
    t.rows = s.rows :=
  congrArg Size.rows h.extent

theorem ChangesOnly.cols
    {row : Nat}
    {s t : Screen}
    (h : ChangesOnly row s t) :
    t.cols = s.cols :=
  congrArg Size.cols h.extent

end Screen

namespace Pen

------------------------------------------------------------
-- Pens on a Screen
------------------------------------------------------------

/-
  A screen is as a pen believes: the style is in force, and the
  cursor is where it is believed to be and not about to wrap.
-/
structure Describes
    (caps : Capabilities)
    (pen : Pen)
    (s : Screen) : Prop where
  style : s.style = caps.adaptStyle pen.style
  cursor :
    ∀ p, pen.position = some p →
      s.position = p ∧ s.pendingWrap = false

/- A move leaves the cursor at its target. -/
theorem draw_moveTo
    {caps : Capabilities}
    {pen : Pen}
    {s : Screen}
    (h : pen.Describes caps s)
    {target : Position}
    (hRow : target.row < s.rows)
    (hCol : target.col < s.cols) :
    ∃ l,
      s.draw caps (pen.moveTo target) =
        { s with
          row := target.row
          col := target.col
          pendingWrap := false
          last := l } := by
  unfold moveTo
  split
  · rename_i hThere
    rcases h.cursor target hThere with ⟨rfl, hPending⟩
    refine ⟨s.last, ?_⟩
    rw [Screen.draw_rest, ← hPending]
    rfl
  · have hMinRow : min target.row (s.rows - 1) = target.row := by
      omega
    have hMinCol : min target.col (s.cols - 1) = target.col := by
      omega
    refine ⟨none, ?_⟩
    change s.moveTo target.row target.col = _
    rw [Screen.moveTo, hMinRow, hMinCol]

/- A change of style puts the style in force. -/
theorem draw_setStyle
    {caps : Capabilities}
    {pen : Pen}
    {s : Screen}
    (h : pen.Describes caps s)
    (style : Style) :
    s.draw caps (pen.setStyle style) =
      { s with style := caps.adaptStyle style } := by
  unfold setStyle
  split
  · rename_i hSame
    rw [Screen.draw_rest, ← hSame, ← h.style]
  · rfl

@[simp] theorem pen_moveTo
    (pen : Pen)
    (target : Position) :
    (pen.moveTo target).pen =
      { pen with position := some target } := by
  unfold moveTo
  split
  · rename_i hThere
    rw [← hThere]
    rfl
  · rfl

@[simp] theorem pen_setStyle
    (pen : Pen)
    (style : Style) :
    (pen.setStyle style).pen = { pen with style := style } := by
  unfold setStyle
  split
  · rename_i hSame
    rw [← hSame]
    rfl
  · rfl

@[simp] theorem cells_moveTo
    (pen : Pen)
    (target : Position) :
    (pen.moveTo target).cells = 0 := by
  unfold moveTo
  split <;> rfl

@[simp] theorem cells_setStyle
    (pen : Pen)
    (style : Style) :
    (pen.setStyle style).cells = 0 := by
  unfold setStyle
  split <;> rfl

@[simp] theorem pen_andThen
    (stroke : Stroke)
    (next : Pen → Stroke) :
    (stroke.andThen next).pen = (next stroke.pen).pen := rfl

/- The pen is moved and its style is changed before it draws. -/
theorem draw_ready
    {caps : Capabilities}
    {pen : Pen}
    {s : Screen}
    (h : pen.Describes caps s)
    {target : Position}
    (hRow : target.row < s.rows)
    (hCol : target.col < s.cols)
    (style : Style) :
    ∃ l,
      s.draw caps ((pen.moveTo target).andThen (setStyle style)) =
        { s with
          row := target.row
          col := target.col
          pendingWrap := false
          style := caps.adaptStyle style
          last := l } := by
  rcases draw_moveTo h hRow hCol with ⟨l, hMove⟩
  refine ⟨l, ?_⟩
  rw [Screen.draw_andThen, hMove, pen_moveTo, draw_setStyle]
  refine ⟨h.style, ?_⟩
  intro p hp
  rw [← Option.some.inj hp]
  exact ⟨rfl, rfl⟩

------------------------------------------------------------
-- Runs
------------------------------------------------------------

/- A cell as a run of its own. -/
def runOf
    (col : Nat)
    (cell : Cell) : Run :=
  ⟨col, cell.style, cell.text, cell.width⟩

/- Draw cells one after another, each as a run of its own. -/
def drawUnits
    (cols row : Nat) :
    Nat → List Cell → Pen → Stroke
  | _, [], pen => pen.rest
  | col, cell :: rest, pen =>
      (pen.drawRun cols row (runOf col cell)).andThen
        (drawUnits cols row (col + cell.width) rest)

theorem runs_cons
    (col : Nat)
    (cell : Cell)
    (rest : List Cell) :
    runs col (cell :: rest) =
      match runs (col + cell.width) rest with
      | [] => [runOf col cell]
      | run :: later =>
          if run.style = cell.style then
            ⟨col, cell.style, cell.text ++ run.chars,
              cell.width + run.width⟩ :: later
          else runOf col cell :: run :: later := rfl

/- The first run starts where the cells start. -/
theorem col_of_runs
    {col : Nat}
    {cells : List Cell}
    {run : Run}
    {later : List Run}
    (h : runs col cells = run :: later) :
    run.col = col := by
  cases cells with
  | nil => simp [runs] at h
  | cons cell rest =>
      rw [runs_cons] at h
      cases hRest : runs (col + cell.width) rest with
      | nil =>
          rw [hRest] at h
          rw [← (List.cons.inj h).1]
          rfl
      | cons next more =>
          rw [hRest] at h
          simp only at h
          split at h
          · rw [← (List.cons.inj h).1]
          · rw [← (List.cons.inj h).1]
            rfl

/- The pen after a run. -/
theorem pen_drawRun
    (cols row : Nat)
    (run : Run)
    (pen : Pen) :
    (pen.drawRun cols row run).pen =
      ⟨if cols ≤ run.col + run.width then none
        else some ⟨row, run.col + run.width⟩, run.style⟩ := by
  simp [drawRun, write]

/- A run drawn by a pen that is there and has the style. -/
theorem draw_drawRun_ready
    (caps : Capabilities)
    (cols row : Nat)
    (run : Run)
    (s : Screen) :
    s.draw caps
        (drawRun cols row run ⟨some ⟨row, run.col⟩, run.style⟩) =
      s.printAll run.chars := by
  simp [drawRun, moveTo, setStyle, rest, write, Screen.draw,
    Stroke.andThen, Screen.executeAll, Screen.execute]

/- A run that goes on is the same as two runs. -/
theorem draw_drawRun_append
    (caps : Capabilities)
    (cols row col : Nat)
    (style : Style)
    (chars more : List Char)
    {width : Nat}
    (hFits : col + width < cols)
    (added : Nat)
    (pen : Pen)
    (s : Screen) :
    s.draw caps
        (pen.drawRun cols row
          ⟨col, style, chars ++ more, width + added⟩) =
      s.draw caps
        ((pen.drawRun cols row ⟨col, style, chars, width⟩).andThen
          (drawRun cols row ⟨col + width, style, more, added⟩)) := by
  have hNot : ¬ cols ≤ col + width := by omega
  rw [Screen.draw_andThen, pen_drawRun]
  simp only [if_neg hNot]
  rw [draw_drawRun_ready caps cols row
    ⟨col + width, style, more, added⟩]
  simp [drawRun, write, Screen.draw, Stroke.andThen,
    Screen.executeAll, Screen.execute, Screen.printAll]

/-
  Runs and the cells they are made of come to the same.  The
  induction is on the cells: a cell that joins the run after it
  leaves the pen where that run starts.
-/
theorem draw_runs
    (caps : Capabilities)
    (cols row : Nat)
    {cells : List Cell}
    (hUnits : ∀ c ∈ cells, 0 < c.width)
    {col : Nat}
    (hFits : col + (cells.map Cell.width).sum ≤ cols)
    (pen : Pen)
    (s : Screen) :
    s.draw caps (pen.drawRuns cols row (runs col cells)) =
        s.draw caps (pen.drawUnits cols row col cells) ∧
      (pen.drawRuns cols row (runs col cells)).pen =
        (pen.drawUnits cols row col cells).pen := by
  induction cells generalizing col pen s with
  | nil => exact ⟨rfl, rfl⟩
  | cons cell rest ih =>
      simp only [List.map_cons, List.sum_cons] at hFits
      have hRest (pen : Pen) (s : Screen) :=
        ih (fun c hc => hUnits c (by simp [hc]))
          (show col + cell.width + (rest.map Cell.width).sum ≤ cols
            by omega) pen s
      simp only [drawUnits, Screen.draw_andThen, pen_andThen]
      rw [runs_cons]
      cases hRuns : runs (col + cell.width) rest with
      | nil =>
          rw [hRuns] at hRest
          simp only [drawRuns, Screen.draw_andThen, pen_andThen]
          exact hRest _ _
      | cons run later =>
          rw [hRuns] at hRest
          simp only
          split
          · rename_i hStyle
            have hInside : col + cell.width < cols := by
              cases rest with
              | nil => simp [runs] at hRuns
              | cons next more =>
                  have hNext := hUnits next (by simp)
                  simp only [List.map_cons, List.sum_cons] at hFits
                  omega
            have hRun :
                run =
                  ⟨col + cell.width, cell.style, run.chars,
                    run.width⟩ := by
              rw [← col_of_runs hRuns, ← hStyle]
            have hJoined :=
              draw_drawRun_append caps cols row col cell.style
                cell.text run.chars hInside run.width pen s
            rw [← hRun, Screen.draw_andThen] at hJoined
            have hPen :
                (pen.drawRun cols row
                  ⟨col, cell.style, cell.text ++ run.chars,
                    cell.width + run.width⟩).pen =
                  ((pen.drawRun cols row (runOf col cell)).pen.drawRun
                    cols row run).pen := by
              rw [pen_drawRun, pen_drawRun, hRun, Nat.add_assoc]
            simp only [drawRuns, Screen.draw_andThen, pen_andThen]
              at hRest ⊢
            rw [hJoined, hPen]
            exact hRest _ _
          · simp only [drawRuns, Screen.draw_andThen, pen_andThen]
              at hRest ⊢
            exact hRest _ _

end Pen

end Redraw
