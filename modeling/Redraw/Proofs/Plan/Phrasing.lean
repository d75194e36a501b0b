import Redraw.Proofs.Plan.Bridges
import Redraw.Proofs.Plan.Sweeps

/-
  Phrasing: how drawing goes about its steps.

  Steps come in phrases: the pen is moved and its style is
  changed, each only if it has to be, and then a step draws.
  What is written is what changed, and short gaps that are
  cheaper to write than to move over.

  Key definitions include:
    * `Op.Redoes`, `Spaced`
    * `Needed`: a step that is not done for nothing
    * `Phrased`: steps that come in phrases

  Main declarations:
    * `Phrased.needed`, `Phrased.spaced`
    * `Pen.phrased_drawRuns`, `Pen.phrased_drawSpans`
    * `Pen.phrased_drawLines`
-/

namespace Redraw

------------------------------------------------------------
-- Spacing
------------------------------------------------------------

/- A step that does anew what an earlier one did. -/
inductive Op.Redoes : Op → Op → Prop
  | move
      {p q : Position} :
      Redoes (.moveTo p) (.moveTo q)
  | style
      {s t : Style} :
      Redoes (.setStyle s) (.setStyle t)

theorem Op.Redoes.idle
    {earlier op : Op}
    (h : earlier.Redoes op) :
    earlier.draws = false ∧ op.draws = false := by
  cases h <;> exact ⟨rfl, rfl⟩

/- Before a step is done anew, something is drawn. -/
def Spaced (ops : List Op) : Prop :=
  ∀ (i j : Nat) (earlier op : Op),
    i < j → ops[i]? = some earlier → ops[j]? = some op →
      earlier.Redoes op →
        ∃ (k : Nat) (drawn : Op),
          i < k ∧ k < j ∧ ops[k]? = some drawn ∧
            drawn.draws = true

/- Steps of which none is done anew. -/
theorem spaced_of_pairwise
    {ops : List Op}
    (h : ops.Pairwise fun earlier op => ¬ earlier.Redoes op) :
    Spaced ops := by
  intro i j earlier op hOrder hEarlier hOp hRedoes
  rcases List.getElem?_eq_some_iff.mp hEarlier with ⟨hi, rfl⟩
  rcases List.getElem?_eq_some_iff.mp hOp with ⟨hj, rfl⟩
  exact
    absurd hRedoes (List.pairwise_iff_getElem.mp h i j hi hj hOrder)

/- A step that draws lets all be done anew. -/
theorem Spaced.append_draw
    {ops later : List Op}
    {drawn : Op}
    (h : Spaced ops)
    (hDraws : drawn.draws = true)
    (hLater : Spaced later) :
    Spaced (ops ++ drawn :: later) := by
  intro i j earlier op hOrder hEarlier hOp hRedoes
  have hHere : (ops ++ drawn :: later)[ops.length]? = some drawn := by
    simp
  have hAfter (n : Nat) :
      (ops ++ drawn :: later)[ops.length + 1 + n]? = later[n]? := by
    rw [List.getElem?_append_right (by omega),
      show ops.length + 1 + n - ops.length = n + 1 by omega,
      List.getElem?_cons_succ]
  rcases Nat.lt_trichotomy j ops.length with hj | rfl | hj
  · rw [List.getElem?_append_left (by omega)] at hEarlier
    rw [List.getElem?_append_left hj] at hOp
    rcases h i j earlier op hOrder hEarlier hOp hRedoes with
      ⟨k, step, hFrom, hTo, hStep, hStepDraws⟩
    refine ⟨k, step, hFrom, hTo, ?_, hStepDraws⟩
    rw [List.getElem?_append_left (by omega)]
    exact hStep
  · obtain rfl : drawn = op := Option.some.inj (hHere.symm.trans hOp)
    simp [hRedoes.idle.2] at hDraws
  · rcases Nat.lt_trichotomy i ops.length with hi | rfl | hi
    · exact ⟨ops.length, drawn, hi, hj, hHere, hDraws⟩
    · obtain rfl : drawn = earlier :=
        Option.some.inj (hHere.symm.trans hEarlier)
      simp [hRedoes.idle.1] at hDraws
    · obtain ⟨m, rfl⟩ : ∃ m, i = ops.length + 1 + m :=
        ⟨i - (ops.length + 1), by omega⟩
      obtain ⟨n, rfl⟩ : ∃ n, j = ops.length + 1 + n :=
        ⟨j - (ops.length + 1), by omega⟩
      rw [hAfter] at hEarlier hOp
      rcases hLater m n earlier op (by omega) hEarlier hOp hRedoes
        with ⟨k, step, hFrom, hTo, hStep, hStepDraws⟩
      exact
        ⟨ops.length + 1 + k, step, by omega, by omega,
          (hAfter k).trans hStep, hStepDraws⟩

/- A step that is never done anew may come first. -/
theorem Spaced.cons
    {op : Op}
    {later : List Op}
    (h : Spaced later)
    (hOnce : ∀ other, ¬ op.Redoes other) :
    Spaced (op :: later) := by
  intro i j earlier other hOrder hEarlier hOther hRedoes
  cases j with
  | zero => cases hOrder
  | succ j =>
      cases i with
      | zero =>
          obtain rfl : op = earlier := Option.some.inj hEarlier
          exact absurd hRedoes (hOnce other)
      | succ i =>
          rcases h i j earlier other (by omega) hEarlier hOther
            hRedoes with ⟨k, drawn, hFrom, hTo, hDrawn, hDraws⟩
          exact
            ⟨k + 1, drawn, by omega, by omega, hDrawn, hDraws⟩

------------------------------------------------------------
-- Needed Steps
------------------------------------------------------------

/- A position that is drawn for a reason. -/
def Grid.Redraws
    (prev curr : Grid)
    (p : Position) : Prop :=
  ∃ old new,
    prev.line? p.row = some old ∧ curr.line? p.row = some new ∧
      old.Redraws new p.col

/-
  A step that is not done for nothing: the brush is elsewhere,
  or in another style, or some columns are written that are
  drawn for a reason.
-/
def Needed (prev curr : Grid) : Brush × Op → Prop
  | (b, .moveTo target) => b.position ≠ some target
  | (b, .setStyle style) => b.style ≠ style
  | (b, .text _ width) =>
      0 < width ∧ ∃ p, b.position = some p ∧
        ∀ c, p.col ≤ c → c < p.col + width →
          prev.Redraws curr ⟨p.row, c⟩
  | _ => True

variable {prev curr : Grid}

------------------------------------------------------------
-- Getting Ready
------------------------------------------------------------

namespace Pen

variable {pen : Pen}
variable {stroke : Stroke}

theorem ops_moveTo
    (pen : Pen)
    (target : Position) :
    (pen.moveTo target).ops = [] ∨
      (pen.moveTo target).ops = [.moveTo target] ∧
        pen.position ≠ some target := by
  unfold moveTo
  split
  · exact Or.inl rfl
  · rename_i hElsewhere
    exact Or.inr ⟨rfl, hElsewhere⟩

theorem ops_setStyle
    (pen : Pen)
    (style : Style) :
    (pen.setStyle style).ops = [] ∨
      (pen.setStyle style).ops = [.setStyle style] ∧
        pen.style ≠ style := by
  unfold setStyle
  split
  · exact Or.inl rfl
  · rename_i hOther
    exact Or.inr ⟨rfl, hOther⟩

theorem needed_moveTo
    (pen : Pen)
    (target : Position) :
    ∀ step ∈ (pen.moveTo target).steps curr.cols pen,
      Needed prev curr step := by
  unfold Stroke.steps
  rcases pen.ops_moveTo target with hNone | ⟨hMove, hElsewhere⟩
  · rw [hNone]
    exact List.forall_mem_nil _
  · rw [hMove]
    exact List.forall_mem_singleton.mpr hElsewhere

theorem needed_setStyle
    (pen : Pen)
    (style : Style) :
    ∀ step ∈ (pen.setStyle style).steps curr.cols pen,
      Needed prev curr step := by
  unfold Stroke.steps
  rcases pen.ops_setStyle style with hNone | ⟨hStyle, hOther⟩
  · rw [hNone]
    exact List.forall_mem_nil _
  · rw [hStyle]
    exact List.forall_mem_singleton.mpr hOther

/- Steps that draw nothing are needed if each of them is. -/
theorem needed_andThen
    {next : Pen → Stroke}
    (hReadies : stroke.Readies prev curr pen)
    (h :
      ∀ step ∈ stroke.steps curr.cols pen, Needed prev curr step)
    (hNext :
      ∀ step ∈ (next stroke.pen).steps curr.cols stroke.pen,
        Needed prev curr step) :
    ∀ step ∈ (stroke.andThen next).steps curr.cols pen,
      Needed prev curr step := by
  rw [Stroke.steps_andThen hReadies.ends]
  intro step hStep
  rcases List.mem_append.mp hStep with hNow | hLater
  · exact h step hNow
  · exact hNext step hLater

/- A move and a change of style are no repetition. -/
theorem pairwise_moveTo_setStyle
    (pen pen' : Pen)
    (target : Position)
    (style : Style) :
    ((pen.moveTo target).ops ++ (pen'.setStyle style).ops).Pairwise
        (fun earlier op => ¬ earlier.Redoes op) ∧
      ((pen'.setStyle style).ops ++ (pen.moveTo target).ops).Pairwise
        (fun earlier op => ¬ earlier.Redoes op) := by
  rcases pen.ops_moveTo target with hMove | ⟨hMove, -⟩ <;>
    rcases pen'.ops_setStyle style with hStyle | ⟨hStyle, -⟩ <;>
      rw [hMove, hStyle] <;>
        constructor <;>
          simp only [List.nil_append, List.append_nil,
            List.singleton_append, List.Pairwise.nil,
            List.pairwise_singleton, List.pairwise_pair] <;>
            exact nofun

/- The steps that put a pen in place. -/
def ready
    (target : Position)
    (style : Style)
    (pen : Pen) : Stroke :=
  (pen.moveTo target).andThen (setStyle style)

theorem pen_ready
    (target : Position)
    (style : Style)
    (pen : Pen) :
    (pen.ready target style).pen = ⟨some target, style⟩ := by
  rw [ready, pen_andThen, pen_moveTo, pen_setStyle]

/- A brush that follows them is where the pen is. -/
theorem afterAll_ready
    (target : Position)
    (style : Style)
    (pen : Pen) :
    pen.brush.afterAll curr.cols (pen.ready target style).ops =
      ⟨some target, style⟩ := by
  have hReadies : (pen.ready target style).Readies curr curr pen :=
    pen.readies_at target style
  rw [hReadies.ends, pen_ready]
  rfl

theorem needed_ready
    (target : Position)
    (style : Style)
    (pen : Pen) :
    ∀ step ∈ (pen.ready target style).steps curr.cols pen,
      Needed prev curr step :=
  needed_andThen (pen.sweeps_moveTo target)
    (pen.needed_moveTo target) (needed_setStyle _ style)

end Pen

------------------------------------------------------------
-- Phrases
------------------------------------------------------------

/-
  Steps that come in phrases, from one pen to another.  In each
  of them the pen is put in place and then draws.
-/
inductive Phrased
    (prev curr : Grid) :
    Pen → List Op → Pen → Prop
  | rest
      {pen : Pen} :
      Phrased prev curr pen [] pen
  | phrase
      {pen drawn last : Pen}
      {target : Position}
      {style : Style}
      {op : Op}
      {later : List Op}
      (draws : op.draws = true)
      (needed : Needed prev curr (⟨some target, style⟩, op))
      (after :
        Brush.after curr.cols ⟨some target, style⟩ op =
          drawn.brush)
      (more : Phrased prev curr drawn later last) :
      Phrased prev curr pen
        ((pen.ready target style).ops ++ op :: later) last

namespace Phrased

variable {pen mid last : Pen}
variable {ops later : List Op}

/- Phrases after phrases. -/
theorem append
    (h : Phrased prev curr pen ops mid)
    (hLater : Phrased prev curr mid later last) :
    Phrased prev curr pen (ops ++ later) last := by
  induction h with
  | rest => exact hLater
  | phrase draws needed after more ih =>
      rw [List.append_assoc, List.cons_append]
      exact .phrase draws needed after (ih hLater)

/- A brush that follows them ends as the pen does. -/
theorem afterAll
    (h : Phrased prev curr pen ops last) :
    pen.brush.afterAll curr.cols ops = last.brush := by
  induction h with
  | rest => rfl
  | @phrase pen drawn last target style op later draws needed after
      more ih =>
      rw [Brush.afterAll_append, pen.afterAll_ready]
      change
        (Brush.after curr.cols ⟨some target, style⟩ op).afterAll
          curr.cols later = _
      rw [after, ih]

/- Each of their steps is needed. -/
theorem needed
    (h : Phrased prev curr pen ops last) :
    ∀ step ∈ pen.brush.follow curr.cols ops,
      Needed prev curr step := by
  induction h with
  | rest => exact List.forall_mem_nil _
  | @phrase pen drawn last target style op later draws needed after
      more ih =>
      rw [Brush.follow_append, pen.afterAll_ready, Brush.follow, after]
      intro step hStep
      rcases List.mem_append.mp hStep with hReady | hLater
      · exact pen.needed_ready target style step hReady
      · exact List.forall_mem_cons.mpr ⟨needed, ih⟩ step hLater

/- Between their steps something is drawn. -/
theorem spaced
    (h : Phrased prev curr pen ops last)
    {beyond : List Op}
    (hBeyond : Spaced beyond) :
    Spaced (ops ++ beyond) := by
  induction h with
  | rest => exact hBeyond
  | @phrase pen drawn last target style op later draws needed after
      more ih =>
      rw [List.append_assoc, List.cons_append]
      exact
        (spaced_of_pairwise
          (pen.pairwise_moveTo_setStyle _ target style).1).append_draw
          draws ih

end Phrased

------------------------------------------------------------
-- Drawing in Phrases
------------------------------------------------------------

namespace Pen

variable {row col : Nat}
variable {line old new : Line}

/- One phrase. -/
theorem phrased_single
    {pen drawn : Pen}
    {target : Position}
    {style : Style}
    {op : Op}
    (hDraws : op.draws = true)
    (hNeeded : Needed prev curr (⟨some target, style⟩, op))
    (hAfter :
      Brush.after curr.cols ⟨some target, style⟩ op = drawn.brush) :
    Phrased prev curr pen ((pen.ready target style).ops ++ [op])
      drawn :=
  .phrase hDraws hNeeded hAfter .rest

/- A run is written in one phrase. -/
theorem phrased_drawRun
    {run : Run}
    (hPositive : 0 < run.width)
    (hRedraws :
      ∀ c, run.col ≤ c → c < run.col + run.width →
        prev.Redraws curr ⟨row, c⟩)
    (pen : Pen) :
    Phrased prev curr pen (pen.drawRun curr.cols row run).ops
      (pen.drawRun curr.cols row run).pen := by
  have hNeeded :
      Needed prev curr
        (⟨some ⟨row, run.col⟩, run.style⟩,
          .text run.chars run.width) :=
    ⟨hPositive, ⟨row, run.col⟩, rfl, hRedraws⟩
  rw [pen_drawRun]
  refine phrased_single rfl hNeeded ?_
  simp only [Brush.after, brush, Brush.mk.injEq, and_true]
  by_cases hEnd : curr.cols ≤ run.col + run.width
  · rw [if_pos hEnd, if_neg (by omega)]
  · rw [if_neg hEnd, if_pos (by omega)]

/- The end of a line is erased in one phrase. -/
theorem phrased_erase
    (pen : Pen)
    (start : Position) :
    Phrased prev curr pen (pen.erase curr.cols start).ops
      (pen.erase curr.cols start).pen := by
  have hPen :
      (pen.erase curr.cols start).pen = ⟨some start, .default⟩ :=
    pen.pen_ready start .default
  rw [hPen]
  exact phrased_single rfl trivial rfl

/- Runs are written one after another. -/
theorem phrased_drawRuns
    {runs : List Run}
    {stop : Nat}
    (hTiles : Tiles line col runs stop)
    (hRedraws :
      ∀ c, col ≤ c → c < stop → prev.Redraws curr ⟨row, c⟩)
    (pen : Pen) :
    Phrased prev curr pen (pen.drawRuns curr.cols row runs).ops
      (pen.drawRuns curr.cols row runs).pen := by
  induction runs generalizing col pen with
  | nil => exact .rest
  | cons run later ih =>
      rcases hTiles with ⟨rfl, hPositive, -, hLater⟩
      have hEnd := hLater.le
      have hRun :=
        phrased_drawRun hPositive
          (fun c hFrom hTo => hRedraws c hFrom (by omega)) pen
      exact
        hRun.append
          (ih hLater (fun c hFrom hTo => hRedraws c (by omega) hTo) _)

/- Cells between two cuts are written as far as they have to be. -/
theorem phrased_drawBetween
    (hLines : Grid.ChangesAt prev curr row old new)
    {start stop : Nat}
    (hOrder : start ≤ stop)
    (hWithin : stop ≤ new.length)
    (hStart : new.continuationAt start = false)
    (hStop : new.continuationAt stop = false)
    (hRedraws :
      ∀ c, start ≤ c → c < stop → old.Redraws new c)
    (pen : Pen) :
    Phrased prev curr pen
      (pen.drawBetween curr.cols row new start stop).ops
      (pen.drawBetween curr.cols row new start stop).pen :=
  phrased_drawRuns
    (tiles_between hLines.paired hOrder hWithin hStart hStop)
    (fun c hFrom hTo =>
      ⟨old, new, hLines.before, hLines.now, hRedraws c hFrom hTo⟩)
    pen

/- The end of the last span is erased or written. -/
theorem phrased_drawLastSpan
    (hLines : Grid.ChangesAt prev curr row old new)
    {span : Span}
    (hOrder : span.start < span.stop)
    (hWithin : span.stop ≤ new.length)
    (hStart : new.continuationAt span.start = false)
    (hStop : new.continuationAt span.stop = false)
    (hRedraws : span.Redraws old new)
    (pen : Pen) :
    Phrased prev curr pen
      (pen.drawLastSpan curr.cols row new span).ops
      (pen.drawLastSpan curr.cols row new span).pen := by
  unfold drawLastSpan
  rcases textEnd_cases new span with
    hEnd | ⟨hAfter, hBefore, hBlank⟩
  · simp only [hEnd, Nat.lt_irrefl, if_false]
    exact
      phrased_drawBetween hLines (Nat.le_of_lt hOrder) hWithin hStart
        hStop hRedraws pen
  · simp only [hBefore, if_true]
    have hText :=
      phrased_drawBetween hLines hAfter (by omega) hStart
        (continuationAt_of_blank hBlank)
        (fun c hFrom hTo => hRedraws c hFrom (by omega)) pen
    exact hText.append (phrased_erase _ _)

/- Spans are written as far as they have to be. -/
theorem phrased_drawSpans
    (hLines : Grid.ChangesAt prev curr row old new)
    {spans : List Span}
    (hCovers : Covers old new col spans)
    (hRedraws : ∀ s ∈ spans, s.Redraws old new)
    (pen : Pen) :
    Phrased prev curr pen (pen.drawSpans curr.cols row new spans).ops
      (pen.drawSpans curr.cols row new spans).pen := by
  induction hCovers generalizing pen with
  | rest same => exact .rest
  | @span col span later after some within same starts stops more
      ih =>
      rw [List.forall_mem_cons] at hRedraws
      cases later with
      | nil =>
          exact
            phrased_drawLastSpan hLines some within starts stops
              hRedraws.1 pen
      | cons next later =>
          have hSpan :=
            phrased_drawBetween hLines (Nat.le_of_lt some) within
              starts stops hRedraws.1 pen
          exact hSpan.append (ih hRedraws.2 _)

theorem phrased_drawLine
    (hBefore : prev.line? row = some old)
    (hNow : curr.line? row = some new)
    (hLength : old.length = new.length)
    {pen : Pen}
    {stroke : Stroke}
    (h : pen.drawLine curr.cols row old new = .ok stroke) :
    Phrased prev curr pen stroke.ops stroke.pen := by
  rcases drawLine_eq_ok h with ⟨_, hPaired, spans, hSpans, rfl⟩
  exact
    phrased_drawSpans ⟨hBefore, hNow, hLength, hPaired⟩
      (covers_changedSpans hLength hPaired hSpans)
      (redraws_changedSpans hLength hPaired hSpans) pen

/- Lines are drawn one after another. -/
theorem phrased_drawLines
    (hWidth : prev.cols = curr.cols)
    {olds news : List Line}
    (hBefore : ∀ i, prev.line? (row + i) = olds[i]?)
    (hNow : ∀ i, curr.line? (row + i) = news[i]?)
    {pen : Pen}
    {stroke : Stroke}
    {equal : Nat}
    (h :
      pen.drawLines curr.cols row olds news = .ok (stroke, equal)) :
    Phrased prev curr pen stroke.ops stroke.pen := by
  induction olds generalizing row news pen stroke equal with
  | nil =>
      cases h
      exact .rest
  | cons old olds ih =>
      cases news with
      | nil =>
          cases h
          exact .rest
      | cons new news =>
          have hOld : prev.line? row = some old := hBefore 0
          have hNew : curr.line? row = some new := hNow 0
          have hLength : old.length = new.length := by
            rw [Grid.length_of_line hOld, Grid.length_of_line hNew,
              hWidth]
          have hBelow (i : Nat) : row + 1 + i = row + (i + 1) := by
            omega
          have hLater {pen : Pen} {stroke : Stroke} {n : Nat}
              (hDrawn :
                drawLines curr.cols (row + 1) olds news pen =
                  .ok (stroke, n)) :
              Phrased prev curr pen stroke.ops stroke.pen :=
            ih (fun i => hBelow i ▸ hBefore (i + 1))
              (fun i => hBelow i ▸ hNow (i + 1)) hDrawn
          rcases drawLines_cons_eq_ok h with
            ⟨rfl, n, -, hRest⟩ | ⟨-, drawn, later, hDrawn, hRest, rfl⟩
          · exact hLater hRest
          · exact
              (phrased_drawLine hOld hNew hLength hDrawn).append
                (hLater hRest)

end Pen

end Redraw
