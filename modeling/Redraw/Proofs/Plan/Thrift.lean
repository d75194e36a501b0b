import Redraw.Proofs.Plan.Phrasing
import Redraw.Proofs.Plan.Replay

/-
  Thrift: a plan does nothing that need not be done.

  The lines are drawn in phrases.  After them the pen is put in
  place, if it is not, and the cursor is shown as wanted.  A
  repaint clears the screen first, which is not done again.

  Key definitions include:
    * `Plan.Thrifty`

  Main declarations:
    * `Plan.thrifty_diffGrids`
    * `Plan.MadeFor.thrifty`
-/

namespace Redraw

variable {prev curr : Grid}

------------------------------------------------------------
-- Plans
------------------------------------------------------------

/- How the cursor is shown is not set for the brush. -/
theorem Op.not_redoes_of_dressesCursor
    {op : Op}
    (h : op.dressesCursor = true)
    (other : Op) :
    ¬ op.Redoes other ∧ ¬ other.Redoes op := by
  constructor <;> intro hRedoes <;> cases hRedoes <;> cases h

theorem needed_of_dressing
    {ops : List Op}
    (h : ∀ op ∈ ops, op.dressesCursor = true)
    (b : Brush) :
    ∀ step ∈ b.follow curr.cols ops, Needed prev curr step := by
  induction ops generalizing b with
  | nil => exact List.forall_mem_nil _
  | cons op later ih =>
      rw [List.forall_mem_cons] at h
      refine List.forall_mem_cons.mpr ⟨?_, ih h.2 _⟩
      have hDresses := h.1
      cases op <;> first | exact trivial | cases hDresses

namespace Plan

/-
  A plan does nothing that need not be done: each of its steps
  is needed where it is done, and before the brush is moved or
  its style is changed anew, something is drawn.
-/
structure Thrifty
    (prev curr : Grid)
    (plan : Plan) : Prop where
  needed : ∀ step ∈ plan.strokes, Needed prev curr step
  spaced : Spaced plan.ops

variable {belief : Belief}
variable {plan : Plan}

/- The steps after the lines: the style, the move, the cursor. -/
theorem spaced_closing
    (pen pen' : Pen)
    (belief : Belief)
    (cursor : Cursor) :
    Spaced
      (((pen.setStyle .default).ops
          ++ (pen'.moveTo cursor.position).ops)
        ++ belief.dressing cursor) := by
  have hDressing := belief.dressesCursor_dressing cursor
  apply spaced_of_pairwise
  rw [List.pairwise_append]
  refine
    ⟨(pen'.pairwise_moveTo_setStyle pen _ _).2, ?_, ?_⟩
  · refine List.pairwise_of_forall_mem_list fun op hop other _ => ?_
    exact (Op.not_redoes_of_dressesCursor (hDressing op hop) other).1
  · intro other _ op hop
    exact (Op.not_redoes_of_dressesCursor (hDressing op hop) other).2

/- Phrases, and what puts the pen in place after them. -/
theorem thrifty_diffGrids
    (hSome : curr.isEmpty = false)
    (h : diffGrids prev curr belief = .ok plan) :
    plan.Thrifty prev curr := by
  rcases diffGrids_eq_ok hSome h with
    ⟨hSize, lines, equal, hLines, hOps, hOrigin, hCols, -⟩
  have hPhrased :
      Phrased prev curr ⟨belief.position, .default⟩ lines.ops
        lines.pen :=
    Pen.phrased_drawLines (congrArg Size.cols hSize)
      (fun i => congrArg prev.line? (Nat.zero_add i))
      (fun i => congrArg curr.line? (Nat.zero_add i)) hLines
  let styled := lines.pen.setStyle .default
  let closing := styled.andThen (Pen.moveTo curr.cursor.position)
  have hParts :
      plan.ops =
        lines.ops
          ++ (closing.ops ++ belief.dressing curr.cursor) := by
    rw [hOps]
    simp [closing, styled, Stroke.andThen, Pen.placeCursor,
      Belief.dressing]
  constructor
  case needed =>
    have hStyled : styled.Readies prev curr lines.pen :=
      lines.pen.sweeps_setStyle .default
    have hClosing :
        ∀ step ∈ closing.steps curr.cols lines.pen,
          Needed prev curr step :=
      Pen.needed_andThen hStyled (lines.pen.needed_setStyle .default)
        (Pen.needed_moveTo _ curr.cursor.position)
    have hBrush :
        plan.brush = Pen.brush ⟨belief.position, .default⟩ := by
      rw [brush, hOrigin]
      rfl
    rw [strokes, hBrush, hCols, hParts, Brush.follow_append,
      hPhrased.afterAll, Brush.follow_append]
    intro step hStep
    rcases List.mem_append.mp hStep with hDrawn | hLater
    · exact hPhrased.needed step hDrawn
    · rcases List.mem_append.mp hLater with hReady | hDressing
      · exact hClosing step hReady
      · exact
          needed_of_dressing
            (belief.dressesCursor_dressing curr.cursor) _ step
            hDressing
  case spaced =>
    rw [hParts]
    exact
      hPhrased.spaced
        (spaced_closing lines.pen styled.pen belief curr.cursor)

/- Clearing the screen leaves the brush as a plan starts. -/
theorem strokes_cleared
    (plan : Plan) :
    strokes { plan with ops := .clearScreen :: plan.ops } =
      (plan.brush, .clearScreen) :: plan.strokes := rfl

theorem Thrifty.cleared
    (h : plan.Thrifty prev curr) :
    Thrifty prev curr
      { plan with ops := .clearScreen :: plan.ops } := by
  constructor
  case needed =>
    rw [strokes_cleared]
    exact List.forall_mem_cons.mpr ⟨trivial, h.needed⟩
  case spaced =>
    have hOnce (op : Op) : ¬ Op.clearScreen.Redoes op := nofun
    exact h.spaced.cons hOnce

/- Every plan is thrifty. -/
theorem MadeFor.thrifty
    (h : plan.MadeFor prev curr belief)
    (hSome : curr.isEmpty = false) :
    plan.Thrifty prev curr := by
  cases h with
  | diff plans => exact thrifty_diffGrids hSome plans
  | repaint plans =>
      rcases repaint_eq_ok plans with ⟨inner, hInner, rfl⟩
      exact (thrifty_diffGrids hSome hInner).cleared

/- A letter, and the same letter between two others. -/
def letterAlone : Grid :=
  (Grid.blank 1 5).set 0 2 (.styled ['b'] .default)

def letterAmid : Grid :=
  (letterAlone.set 0 1 (.styled ['a'] .default)).set 0 3
    (.styled ['c'] .default)

/- The letter is written again with those around it. -/
theorem thrifty_letterAmid :
    ∃ plan, diffGrids letterAlone letterAmid .unknown = .ok plan ∧
      letterAmid.isEmpty = false ∧
      letterAlone.cell? 0 2 = letterAmid.cell? 0 2 ∧
      plan.areas = [⟨0, 1, 4⟩] ∧
      plan.Thrifty letterAlone letterAmid := by
  have hAreas :
      (diffGrids letterAlone letterAmid .unknown).toOption.map areas =
        some [⟨0, 1, 4⟩] := by
    decide +kernel
  have hSome : letterAmid.isEmpty = false := by decide +kernel
  cases hPlan : diffGrids letterAlone letterAmid .unknown with
  | error e =>
      rw [hPlan] at hAreas
      cases hAreas
  | ok plan =>
      rw [hPlan] at hAreas
      exact
        ⟨plan, rfl, hSome, by decide +kernel,
          Option.some.inj hAreas, MadeFor.thrifty (.diff hPlan) hSome⟩

end Plan

end Redraw
