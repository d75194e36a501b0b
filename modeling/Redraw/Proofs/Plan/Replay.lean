import Redraw.Proofs.Plan.Sweeps

/-
  Replays: a plan that is followed step by step from the grid
  it starts from leads to the grid it was made for.

  Steps are followed with a brush, and what is known of the
  cursor is followed beside it.  Whatever was left open at the
  start is settled by the steps, so that a plan always tells
  truly how it leaves the cursor.

  Key definitions include:
    * `Belief.after`, `Belief.afterAll`: what is known after
      steps
    * `Belief.IsTrueOf`: nothing that is believed is wrong
    * `Plan.MadeFor`: the plans of a diff and of a repaint
    * `Plan.Parts`: what plans are made of
    * `Plan.Replays`: a plan that leads from grid to grid

  Main declarations:
    * `Plan.MadeFor.exists_parts`
    * `Plan.MadeFor.replays`
-/

namespace Redraw

------------------------------------------------------------
-- Steps Without Drawing
------------------------------------------------------------

namespace Op

theorem draws_of_dressesCursor
    {op : Op}
    (h : op.dressesCursor = true) :
    op.draws = false := by
  cases op <;> first | rfl | cases h

/- How the cursor is shown does not concern the brush. -/
theorem after_of_dressesCursor
    {op : Op}
    (h : op.dressesCursor = true)
    (cols : Nat)
    (b : Brush) :
    b.after cols op = b := by
  cases op <;> first | rfl | cases h

end Op

namespace Brush

theorem afterAll_of_dressing
    (cols : Nat)
    (b : Brush)
    {ops : List Op}
    (h : ∀ op ∈ ops, op.dressesCursor = true) :
    b.afterAll cols ops = b := by
  induction ops with
  | nil => rfl
  | cons op later ih =>
      rw [List.forall_mem_cons] at h
      change (b.after cols op).afterAll cols later = b
      rw [Op.after_of_dressesCursor h.1]
      exact ih h.2

/- Steps that draw nothing are followed without an area. -/
theorem follow_of_idle
    (g : Grid)
    (b : Brush)
    {ops : List Op}
    (h : ∀ op ∈ ops, op.draws = false) :
    (∀ step ∈ b.follow g.cols ops, Depicts g step) ∧
      (b.follow g.cols ops).filterMap (Area.ofStep? g.cols) = [] := by
  induction ops generalizing b with
  | nil => exact ⟨List.forall_mem_nil _, rfl⟩
  | cons op later ih =>
      rw [List.forall_mem_cons] at h
      rcases ih (b.after g.cols op) h.2 with ⟨hDepicts, hAreas⟩
      refine ⟨List.forall_mem_cons.mpr ⟨.other h.1, hDepicts⟩, ?_⟩
      rw [follow, List.filterMap_cons_none
        (Area.ofStep?_of_idle h.1 _ _)]
      exact hAreas

end Brush

------------------------------------------------------------
-- Following the Cursor
------------------------------------------------------------

namespace Belief

/- What is known of a cursor after a step. -/
def after
    (cols : Nat)
    (b : Belief)
    (op : Op) : Belief where
  position := (Brush.after cols ⟨b.position, .default⟩ op).position
  visible :=
    match op with
    | .showCursor => some true
    | .hideCursor => some false
    | _ => b.visible
  shape :=
    match op with
    | .setCursorShape shape => some shape
    | _ => b.shape

/- What is known of a cursor after some steps. -/
def afterAll
    (cols : Nat)
    (b : Belief)
    (ops : List Op) : Belief :=
  ops.foldl (after cols) b

/- A cursor of which as much or more is known. -/
structure IsTrueOf (b actual : Belief) : Prop where
  position :
    ∀ p, b.position = some p → actual.position = some p
  visible : ∀ v, b.visible = some v → actual.visible = some v
  shape : ∀ k, b.shape = some k → actual.shape = some k

/- No step makes a belief wrong. -/
theorem IsTrueOf.after
    {b actual : Belief}
    (h : b.IsTrueOf actual)
    (cols : Nat)
    (op : Op) :
    (b.after cols op).IsTrueOf (actual.after cols op) := by
  constructor
  · cases op with
    | moveTo target => exact fun _ => id
    | text chars width =>
        intro p hp
        simp only [Belief.after, Brush.after] at hp ⊢
        cases hPosition : b.position with
        | none => simp [hPosition] at hp
        | some q =>
            rw [h.position q hPosition]
            rw [hPosition] at hp
            exact hp
    | _ => exact h.position
  · cases op with
    | showCursor => exact fun _ => id
    | hideCursor => exact fun _ => id
    | _ => exact h.visible
  · cases op with
    | setCursorShape shape => exact fun _ => id
    | _ => exact h.shape

theorem IsTrueOf.afterAll
    {b actual : Belief}
    (h : b.IsTrueOf actual)
    (cols : Nat)
    (ops : List Op) :
    (b.afterAll cols ops).IsTrueOf (actual.afterAll cols ops) := by
  induction ops generalizing b actual with
  | nil => exact h
  | cons op later ih => exact ih (h.after cols op)

/- Nothing more can be known of a cursor that is known. -/
theorem IsTrueOf.eq_ofCursor
    {c : Cursor}
    {actual : Belief}
    (h : (ofCursor c).IsTrueOf actual) :
    actual = ofCursor c := by
  rcases actual with ⟨position, visible, shape⟩
  rw [ofCursor, Belief.mk.injEq]
  exact ⟨h.position _ rfl, h.visible _ rfl, h.shape _ rfl⟩

theorem afterAll_append
    (cols : Nat)
    (b : Belief)
    (ops later : List Op) :
    b.afterAll cols (ops ++ later) =
      (b.afterAll cols ops).afterAll cols later := by
  simp [Belief.afterAll]

/- The cursor is where the brush is, whatever its style. -/
theorem position_afterAll
    (cols : Nat)
    (b : Belief)
    (style : Style)
    (ops : List Op) :
    (b.afterAll cols ops).position =
      (Brush.afterAll cols ⟨b.position, style⟩ ops).position := by
  induction ops generalizing b style with
  | nil => rfl
  | cons op later ih =>
      have hStep :
          (b.after cols op).position =
            (Brush.after cols ⟨b.position, style⟩ op).position := by
        cases op <;> rfl
      change ((b.after cols op).afterAll cols later).position = _
      rw [ih (b.after cols op) (Brush.after cols ⟨b.position, style⟩
        op).style, hStep]
      rfl

/- Steps of drawing do not change how the cursor is shown. -/
theorem afterAll_of_bare
    (cols : Nat)
    {ops : List Op}
    (h : ∀ op ∈ ops, op.dressesCursor = false)
    (b : Belief) :
    (b.afterAll cols ops).visible = b.visible ∧
      (b.afterAll cols ops).shape = b.shape := by
  induction ops generalizing b with
  | nil => exact ⟨rfl, rfl⟩
  | cons op later ih =>
      rw [List.forall_mem_cons] at h
      have hStep :
          (b.after cols op).visible = b.visible ∧
            (b.after cols op).shape = b.shape := by
        have hBare := h.1
        cases op <;> first | exact ⟨rfl, rfl⟩ | cases hBare
      rcases ih h.2 (b.after cols op) with ⟨hVisible, hShape⟩
      exact ⟨hVisible.trans hStep.1, hShape.trans hStep.2⟩

/- Steps that show a cursor as wanted, if it is not known to be. -/
def dressing
    (b : Belief)
    (c : Cursor) : List Op :=
  (if b.shape = some c.shape then []
    else [Op.setCursorShape c.shape])
    ++ (if b.visible = some c.visible then []
      else [if c.visible then Op.showCursor else Op.hideCursor])

theorem dressesCursor_dressing
    (b : Belief)
    (c : Cursor) :
    ∀ op ∈ b.dressing c, op.dressesCursor = true := by
  intro op hop
  rcases List.mem_append.mp hop with hShape | hVisible
  · split at hShape
    · cases hShape
    · rw [List.mem_singleton.mp hShape]
      rfl
  · split at hVisible
    · cases hVisible
    · rw [List.mem_singleton.mp hVisible]
      cases c.visible <;> rfl

theorem draws_dressing
    (b : Belief)
    (c : Cursor) :
    ∀ op ∈ b.dressing c, op.draws = false := by
  intro op hop
  exact Op.draws_of_dressesCursor (b.dressesCursor_dressing c op hop)

/- After them the cursor is shown as wanted. -/
theorem afterAll_dressing
    (cols : Nat)
    {b t : Belief}
    {c : Cursor}
    (hPosition : t.position = some c.position)
    (hVisible : t.visible = b.visible)
    (hShape : t.shape = b.shape) :
    t.afterAll cols (b.dressing c) = ofCursor c := by
  rcases t with ⟨position, visible, shape⟩
  simp only at hPosition hVisible hShape
  subst hPosition hVisible hShape
  unfold dressing
  by_cases hShape : b.shape = some c.shape <;>
    by_cases hVisible : b.visible = some c.visible <;>
      cases hShown : c.visible <;>
        simp_all [Belief.afterAll, Belief.after, Brush.after,
          ofCursor]

end Belief

------------------------------------------------------------
-- Plans
------------------------------------------------------------

namespace Plan

/-
  A plan that was made to lead from one grid to another on a
  terminal of which so much is known.  A repaint starts from a
  blank grid and from nothing known.
-/
inductive MadeFor : Grid → Grid → Belief → Plan → Prop
  | diff
      {prev curr : Grid}
      {belief : Belief}
      {plan : Plan}
      (plans : diffGrids prev curr belief = .ok plan) :
      MadeFor prev curr belief plan
  | repaint
      {curr : Snapshot}
      {plan : Plan}
      (plans : Plan.repaint curr = .ok plan) :
      MadeFor (.blank curr.grid.rows curr.grid.cols) curr.grid
        .unknown plan

/-
  A plan that leads from one grid to another.  It is followed
  from what is known, in the default style, and ends at the
  cursor in the default style.  Each step draws what the new
  grid holds, nothing is covered twice, and what is not covered
  is equal in both grids.  What it says of the cursor is so for
  every cursor that is as was believed.
-/
structure Replays
    (prev curr : Grid)
    (belief : Belief)
    (plan : Plan) : Prop where
  starts : plan.brush = ⟨belief.position, .default⟩
  extent : plan.cols = curr.cols ∧ prev.size = curr.size
  drawn : ∀ step ∈ plan.strokes, Depicts curr step
  once : plan.areas.Pairwise Area.Apart
  left :
    ∀ p : Position, p.row < curr.rows → p.col < curr.cols →
      ¬ plan.Covers p →
        curr.cell? p.row p.col = prev.cell? p.row p.col
  ends :
    plan.brush.afterAll plan.cols plan.ops =
      ⟨some curr.cursor.position, .default⟩
  known : plan.after = .ofCursor curr.cursor
  after :
    ∀ actual, belief.IsTrueOf actual →
      actual.afterAll plan.cols plan.ops = plan.after

/-
  The parts of a plan: a repaint clears the screen first, the
  lines are redrawn and the pen is put in place, and then the
  cursor is shown as wanted.
-/
structure Parts
    (prev curr : Grid)
    (belief : Belief)
    (plan : Plan)
    (cleared : List Op)
    (drawn : Stroke) : Prop where
  size : prev.size = curr.size
  origin : plan.origin = belief.position
  cols : plan.cols = curr.cols
  after : plan.after = .ofCursor curr.cursor
  ops :
    plan.ops = (cleared ++ drawn.ops) ++ belief.dressing curr.cursor
  cleared : cleared = [] ∨ cleared = [.clearScreen]
  sweeps :
    drawn.Sweeps prev curr
      (Pen.InChangedRows prev curr 0 curr.rows)
      ⟨belief.position, .default⟩
  pen : drawn.pen = ⟨some curr.cursor.position, .default⟩
  rows : plan.rows = curr.rows
  stats :
    plan.stats =
      { rendered := drawn.cells
        skipped := curr.size.area - drawn.cells
        rowsSkipped :=
          (prev.lines.zip curr.lines).countP fun lines =>
            lines.1 = lines.2 }

variable {prev curr : Grid}
variable {belief : Belief}
variable {plan : Plan}
variable {cleared : List Op}
variable {drawn : Stroke}

/- What a plan counts is what its lines come to. -/
theorem stats_of_diffGrids
    (hSome : curr.isEmpty = false)
    (h : diffGrids prev curr belief = .ok plan)
    {lines : Stroke}
    {equal : Nat}
    (hLines :
      Pen.drawLines curr.cols 0 prev.lines curr.lines
        ⟨belief.position, .default⟩ = .ok (lines, equal)) :
    plan.rows = curr.rows ∧
      plan.stats =
        ⟨lines.cells, curr.size.area - lines.cells, equal⟩ := by
  rcases diffGrids_eq_ok hSome h with ⟨hSize, -⟩
  rw [diffGrids, if_neg (not_not.mpr hSize), hSome,
    if_neg Bool.false_ne_true] at h
  rcases exists_of_bind_eq_ok h with ⟨drawn, hDrawn, hPlan⟩
  obtain rfl : drawn = (lines, equal) :=
    Except.ok.inj (hDrawn.symm.trans hLines)
  cases hPlan
  exact ⟨rfl, by simp [Stroke.andThen, Pen.placeCursor]⟩

theorem exists_parts_of_diffGrids
    (hSome : curr.isEmpty = false)
    (h : diffGrids prev curr belief = .ok plan) :
    ∃ drawn, Parts prev curr belief plan [] drawn := by
  rcases diffGrids_eq_ok hSome h with
    ⟨hSize, lines, equal, hLines, hOps, hOrigin, hCols, hAfter⟩
  have hSweeps :=
    Pen.sweeps_drawLines (congrArg Size.cols hSize)
      (Grid.lines_of_size hSize).1
      (fun i => congrArg prev.line? (Nat.zero_add i))
      (fun i => congrArg curr.line? (Nat.zero_add i)) hLines
  rw [curr.lines_length, Nat.zero_add] at hSweeps
  rcases stats_of_diffGrids hSome h hLines with ⟨hRows, hStats⟩
  refine
    ⟨(lines.andThen (Pen.setStyle .default)).andThen
        (Pen.moveTo curr.cursor.position),
      hSize, hOrigin, hCols, hAfter, ?_, Or.inl rfl, ?_, by simp,
      hRows, ?_⟩
  · rw [hOps]
    simp [Stroke.andThen, Pen.placeCursor, Belief.dressing]
  · exact
      (hSweeps.andThen_readies
        (Pen.sweeps_setStyle _ .default)).andThen_readies
        (Pen.sweeps_moveTo _ _)
  · rw [hStats, Pen.equal_of_drawLines hLines]
    simp [Stroke.andThen]

theorem MadeFor.exists_parts
    (h : plan.MadeFor prev curr belief)
    (hSome : curr.isEmpty = false) :
    ∃ cleared drawn, Parts prev curr belief plan cleared drawn := by
  cases h with
  | diff plans =>
      rcases exists_parts_of_diffGrids hSome plans with
        ⟨drawn, hParts⟩
      exact ⟨[], drawn, hParts⟩
  | repaint plans =>
      rcases repaint_eq_ok plans with ⟨inner, hInner, rfl⟩
      rcases exists_parts_of_diffGrids hSome hInner with
        ⟨drawn, hParts⟩
      exact
        ⟨[.clearScreen], drawn,
          { hParts with
            ops := congrArg (Op.clearScreen :: ·) hParts.ops
            cleared := Or.inr rfl }⟩

namespace Parts

theorem brush_eq
    (h : Parts prev curr belief plan cleared drawn) :
    plan.brush = ⟨belief.position, .default⟩ := by
  rw [brush, h.origin]

/- Clearing leaves the brush as it starts. -/
theorem afterAll_cleared
    (h : Parts prev curr belief plan cleared drawn) :
    plan.brush.afterAll plan.cols cleared = plan.brush := by
  rw [h.brush_eq]
  rcases h.cleared with rfl | rfl <;> rfl

/- The brush is at the cursor when all is drawn. -/
theorem afterAll_drawn
    (h : Parts prev curr belief plan cleared drawn) :
    plan.brush.afterAll plan.cols (cleared ++ drawn.ops) =
      ⟨some curr.cursor.position, .default⟩ := by
  rw [Brush.afterAll_append, h.afterAll_cleared, h.brush_eq, h.cols]
  exact h.sweeps.ends.trans (congrArg Pen.brush h.pen)

/- Only what is drawn covers anything. -/
theorem strokes_eq
    (h : Parts prev curr belief plan cleared drawn) :
    plan.strokes =
      plan.brush.follow curr.cols cleared
        ++ drawn.steps curr.cols ⟨belief.position, .default⟩
        ++ Brush.follow curr.cols
          ⟨some curr.cursor.position, .default⟩
          (belief.dressing curr.cursor) := by
  have hDrawn := h.afterAll_drawn
  have hCleared := h.afterAll_cleared
  rw [h.cols] at hDrawn hCleared
  rw [strokes, h.ops, h.cols, Brush.follow_append, hDrawn,
    Brush.follow_append, hCleared, h.brush_eq]
  rfl

theorem idle_cleared
    (h : Parts prev curr belief plan cleared drawn) :
    ∀ op ∈ cleared, op.draws = false := by
  rcases h.cleared with rfl | rfl <;> decide

theorem depicts
    (h : Parts prev curr belief plan cleared drawn) :
    ∀ step ∈ plan.strokes, Depicts curr step := by
  rw [h.strokes_eq]
  simp only [List.mem_append]
  rintro step ((hFirst | hDrawn) | hLast)
  · exact (Brush.follow_of_idle curr _ h.idle_cleared).1 step hFirst
  · exact h.sweeps.drawn step hDrawn
  · exact
      (Brush.follow_of_idle curr _
        (belief.draws_dressing curr.cursor)).1 step hLast

theorem areas_eq
    (h : Parts prev curr belief plan cleared drawn) :
    plan.areas =
      drawn.areas curr.cols ⟨belief.position, .default⟩ := by
  rw [areas, h.strokes_eq, h.cols, List.filterMap_append,
    List.filterMap_append,
    (Brush.follow_of_idle curr _ h.idle_cleared).2,
    (Brush.follow_of_idle curr _
      (belief.draws_dressing curr.cursor)).2,
    List.nil_append, List.append_nil]
  rfl

/- What is not covered is equal in both grids. -/
theorem left
    (h : Parts prev curr belief plan cleared drawn)
    {p : Position}
    (hRow : p.row < curr.rows)
    (hCol : p.col < curr.cols)
    (hFree : ¬ plan.Covers p) :
    curr.cell? p.row p.col = prev.cell? p.row p.col := by
  by_cases hSame : prev.line? p.row = curr.line? p.row
  · exact congrArg (·.bind (·.cell? p.col)) hSame.symm
  · refine h.sweeps.left p ⟨Nat.zero_le _, hRow, hCol, hSame⟩ ?_
    intro a ha hp
    exact hFree ⟨a, h.areas_eq ▸ ha, hp⟩

/- All is known of the cursor in the end. -/
theorem afterAll_belief
    (h : Parts prev curr belief plan cleared drawn) :
    belief.afterAll plan.cols plan.ops = .ofCursor curr.cursor := by
  have hBare : ∀ op ∈ cleared ++ drawn.ops,
      op.dressesCursor = false := by
    intro op hop
    rcases List.mem_append.mp hop with hCleared | hDrawn
    · rcases h.cleared with rfl | rfl
      · cases hCleared
      · rw [List.mem_singleton.mp hCleared]
        rfl
    · exact h.sweeps.bare op hDrawn
  have hPosition :
      (belief.afterAll plan.cols (cleared ++ drawn.ops)).position =
        some curr.cursor.position := by
    have hDrawn := h.afterAll_drawn
    rw [h.brush_eq] at hDrawn
    rw [Belief.position_afterAll _ _ .default, hDrawn]
  have hShown := Belief.afterAll_of_bare plan.cols hBare belief
  rw [h.ops, Belief.afterAll_append]
  exact Belief.afterAll_dressing _ hPosition hShown.1 hShown.2

end Parts

/- Every plan leads to the grid that it was made for. -/
theorem MadeFor.replays
    (h : plan.MadeFor prev curr belief)
    (hSome : curr.isEmpty = false) :
    plan.Replays prev curr belief := by
  rcases h.exists_parts hSome with ⟨cleared, drawn, hParts⟩
  constructor
  case starts => exact hParts.brush_eq
  case extent => exact ⟨hParts.cols, hParts.size⟩
  case drawn => exact hParts.depicts
  case once =>
    rw [hParts.areas_eq]
    exact hParts.sweeps.apart
  case left =>
    intro p hRow hCol hFree
    exact hParts.left hRow hCol hFree
  case ends =>
    rw [hParts.ops, Brush.afterAll_append, hParts.afterAll_drawn]
    exact
      Brush.afterAll_of_dressing _ _
        (belief.dressesCursor_dressing curr.cursor)
  case known => exact hParts.after
  case after =>
    intro actual hActual
    have hTrue := hActual.afterAll plan.cols plan.ops
    rw [hParts.afterAll_belief] at hTrue
    rw [hParts.after]
    exact hTrue.eq_ofCursor

/- A wide character at the start of a line and a letter. -/
def unshifted : Grid :=
  ((Grid.blank 1 10).set 0 0 (.styled ['世'] .default)).set 0 6
    (.styled ['x'] .default)

/- The wide character one column further, without the letter. -/
def shifted : Grid :=
  ((Grid.blank 1 10).set 0 0 (.styled ['a'] .default)).set 0 1
    (.styled ['世'] .default)

/- The rest of the line is erased from where the text ends. -/
theorem replays_shifted :
    ∃ plan, diffGrids unshifted shifted .unknown = .ok plan ∧
      shifted.isEmpty = false ∧
      plan.areas = [⟨0, 0, 3⟩, ⟨0, 3, 10⟩] ∧
      plan.Replays unshifted shifted .unknown := by
  have hAreas :
      (diffGrids unshifted shifted .unknown).toOption.map areas =
        some [⟨0, 0, 3⟩, ⟨0, 3, 10⟩] := by
    decide +kernel
  have hSome : shifted.isEmpty = false := by decide +kernel
  cases hPlan : diffGrids unshifted shifted .unknown with
  | error e =>
      rw [hPlan] at hAreas
      cases hAreas
  | ok plan =>
      rw [hPlan] at hAreas
      exact
        ⟨plan, rfl, hSome, Option.some.inj hAreas,
          MadeFor.replays (.diff hPlan) hSome⟩

end Plan

end Redraw
