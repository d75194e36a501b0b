import Redraw.Proofs.Plan.Screens
import Redraw.Proofs.Plan.Steps

/-
  Sweeps: how runs, spans, lines and screens are redrawn.

  Runs tile the columns of the cells they are made of.  Spans
  cover all that differs in a line, and what is between them is
  left alone; the end of the last one is written or erased.
  Lines that are equal are left alone as a whole.

  Key definitions include:
    * `Pen.Tiles`: runs that take the columns of a line
    * `Grid.ChangesAt`: an old and a new line of two grids

  Main declarations:
    * `Pen.tiles_runs`
    * `Pen.sweeps_drawRuns`, `Pen.sweeps_drawBetween`
    * `Pen.sweeps_drawSpans`, `Pen.sweeps_drawLine`
    * `Pen.sweeps_drawLines`, `Pen.equal_of_drawLines`
-/

namespace Redraw

/- An old and a new line in one row, the new one of whole units. -/
structure Grid.ChangesAt
    (prev curr : Grid)
    (row : Nat)
    (old new : Line) : Prop where
  before : prev.line? row = some old
  now : curr.line? row = some new
  length : old.length = new.length
  paired : new.Paired

/- Columns that do not differ are left alone. -/
theorem Grid.ChangesAt.same
    {prev curr : Grid}
    {row : Nat}
    {old new : Line}
    (hLines : Grid.ChangesAt prev curr row old new)
    {start stop : Nat}
    (hSame :
      ∀ c, start ≤ c → c < stop → new.cell? c = old.cell? c)
    {p : Position}
    (hp : Area.Holds ⟨row, start, stop⟩ p) :
    curr.cell? p.row p.col = prev.cell? p.row p.col := by
  rcases hp with ⟨rfl, hFrom, hTo⟩
  rw [Grid.cell?_of_line hLines.now, Grid.cell?_of_line hLines.before]
  exact hSame p.col hFrom hTo

namespace Pen

------------------------------------------------------------
-- Runs
------------------------------------------------------------

/-
  Runs take the columns of a line from one column to another,
  and each of them spells the units in its columns.
-/
def Tiles
    (line : Line) :
    Nat → List Run → Nat → Prop
  | col, [], stop => col = stop
  | col, run :: later, stop =>
      run.col = col ∧ 0 < run.width ∧
        Line.Spells ((line.drop col).take run.width) run.chars
          run.style ∧
        Tiles line (col + run.width) later stop

theorem Tiles.le
    {line : Line}
    {runs : List Run}
    {col stop : Nat}
    (h : Tiles line col runs stop) :
    col ≤ stop := by
  induction runs generalizing col with
  | nil => exact Nat.le_of_eq h
  | cons run later ih =>
      rcases h with ⟨_, _, _, hLater⟩
      have := ih hLater
      omega

/- A unit joins the run after it, or is a run of its own. -/
theorem tiles_runs_cons
    {line : Line}
    {col stop : Nat}
    {cell : Cell}
    {rest : List Cell}
    (hPositive : 0 < cell.width)
    (hUnit :
      Line.Spells ((line.drop col).take cell.width) cell.text
        cell.style)
    (hRest :
      Tiles line (col + cell.width)
        (runs (col + cell.width) rest) stop) :
    Tiles line col (runs col (cell :: rest)) stop := by
  rw [runs_cons]
  cases hRuns : runs (col + cell.width) rest with
  | nil =>
      rw [hRuns] at hRest
      exact ⟨rfl, hPositive, hUnit, hRest⟩
  | cons run later =>
      rw [hRuns] at hRest
      simp only
      split
      · rename_i hStyle
        rcases hRest with ⟨_, _, hSpelled, hLater⟩
        refine ⟨rfl, by simp only; omega, ?_, ?_⟩
        · rw [List.take_add, List.drop_drop]
          rw [hStyle] at hSpelled
          exact hUnit.append hSpelled
        · rw [← Nat.add_assoc]
          exact hLater
      · exact ⟨rfl, hPositive, hUnit, hRest⟩

/-
  The runs of whole units take their columns.  The induction is
  on the units; the second half of a pair is passed over with
  the first.
-/
theorem tiles_runs
    {line cells beyond : Line}
    (hPaired : cells.Paired)
    {col : Nat}
    (hAt : line.drop col = cells ++ beyond) :
    Tiles line col
      (runs col (cells.filter fun c => !c.isContinuation))
      (col + cells.length) := by
  induction hPaired generalizing col with
  | nil => rfl
  | @narrow cell rest one more ih =>
      have hUnit := ((Cell.width_eq_one_iff _).mp one).2
      have hRest := ih (Line.drop_succ hAt).2
      rw [List.filter_cons_of_pos (by simp [hUnit])]
      refine tiles_runs_cons (by omega) ?_ ?_
      · rw [hAt, one]
        exact Line.spells_narrow one
      · rw [one, List.length_cons, Nat.add_comm rest.length,
          ← Nat.add_assoc]
        exact hRest
  | @pair first second rest wide continued more ih =>
      have hTwo := Cell.width_of_isWide wide
      have hUnit := Cell.isContinuation_of_isWide wide
      have hRest :=
        ih (Line.drop_succ (Line.drop_succ hAt).2).2
      rw [List.filter_cons_of_pos (by simp [hUnit]),
        List.filter_cons_of_neg (by simp [continued])]
      refine tiles_runs_cons (by omega) ?_ ?_
      · rw [hAt, hTwo]
        exact Line.spells_pair wide continued
      · rw [hTwo]
        simp only [List.length_cons]
        rw [show col + (rest.length + 1 + 1) =
          col + 1 + 1 + rest.length by omega]
        exact hRest

variable {prev curr : Grid}
variable {row col : Nat}
variable {line : Line}

theorem sweeps_drawRun
    (hLine : curr.line? row = some line)
    (hPaired : line.Paired)
    {run : Run}
    (hPositive : 0 < run.width)
    (hWithin : run.col + run.width ≤ curr.cols)
    (hSpelled :
      Line.Spells ((line.drop run.col).take run.width) run.chars
        run.style)
    (pen : Pen) :
    (pen.drawRun curr.cols row run).Sweeps prev curr
      (Area.Holds ⟨row, run.col, run.col + run.width⟩) pen := by
  refine (pen.readies_at ⟨row, run.col⟩ run.style).andThen ?_
  have hPen :
      ((pen.moveTo ⟨row, run.col⟩).andThen
          (setStyle run.style)).pen =
        ⟨some ⟨row, run.col⟩, run.style⟩ := by
    simp
  rw [hPen]
  exact sweeps_write hLine hPaired hPositive hWithin hSpelled

/- Runs that take some columns redraw them. -/
theorem sweeps_drawRuns
    (hLine : curr.line? row = some line)
    (hPaired : line.Paired)
    {runs : List Run}
    {stop : Nat}
    (hTiles : Tiles line col runs stop)
    (hWithin : stop ≤ curr.cols)
    (pen : Pen) :
    (pen.drawRuns curr.cols row runs).Sweeps prev curr
      (Area.Holds ⟨row, col, stop⟩) pen := by
  induction runs generalizing col pen with
  | nil =>
      refine pen.sweeps_rest fun p hp => ?_
      simp only [Tiles] at hTiles
      simp only [Area.Holds] at hp
      omega
  | cons run later ih =>
      rcases hTiles with ⟨rfl, hPositive, hSpelled, hLater⟩
      have hEnd := hLater.le
      exact
        (sweeps_drawRun hLine hPaired hPositive (by omega)
          hSpelled pen).andThen
          (ih hLater _) Area.apart_split
          (Area.holds_split row (by omega) hEnd)

------------------------------------------------------------
-- Parts of a Line
------------------------------------------------------------

variable {old new : Line}

/- The runs of the cells between two cuts take their columns. -/
theorem tiles_between
    (hPaired : line.Paired)
    {start stop : Nat}
    (hOrder : start ≤ stop)
    (hWithin : stop ≤ line.length)
    (hStart : line.continuationAt start = false)
    (hStop : line.continuationAt stop = false) :
    Tiles line start
      (runs start
        (((line.take stop).drop start).filter fun c =>
          !c.isContinuation))
      stop := by
  have hLength :
      start + ((line.take stop).drop start).length = stop := by
    simp only [List.length_drop, List.length_take]
    omega
  have hAt :
      line.drop start =
        (line.take stop).drop start ++ line.drop stop := by
    rw [← List.drop_append_of_le_length
      (by rw [List.length_take]; omega), List.take_append_drop]
  have hTiles := tiles_runs (hPaired.between hStart hStop) hAt
  rwa [hLength] at hTiles

/- Cells between two cuts are redrawn. -/
theorem sweeps_drawBetween
    (hLines : Grid.ChangesAt prev curr row old new)
    {start stop : Nat}
    (hOrder : start ≤ stop)
    (hWithin : stop ≤ new.length)
    (hStart : new.continuationAt start = false)
    (hStop : new.continuationAt stop = false)
    (pen : Pen) :
    (pen.drawBetween curr.cols row new start stop).Sweeps prev curr
      (Area.Holds ⟨row, start, stop⟩) pen := by
  have hCols := Grid.length_of_line hLines.now
  exact
    sweeps_drawRuns hLines.now hLines.paired
      (tiles_between hLines.paired hOrder hWithin hStart hStop)
      (by omega) pen

/-
  The last span is redrawn up to the end of the line: what comes
  after it is equal, or it is erased with the end of the span.
-/
theorem sweeps_drawLastSpan
    (hLines : Grid.ChangesAt prev curr row old new)
    {span : Span}
    (hOrder : span.start < span.stop)
    (hWithin : span.stop ≤ new.length)
    (hStart : new.continuationAt span.start = false)
    (hStop : new.continuationAt span.stop = false)
    (hSame :
      ∀ c, span.stop ≤ c → new.cell? c = old.cell? c)
    (pen : Pen) :
    (pen.drawLastSpan curr.cols row new span).Sweeps prev curr
      (Area.Holds ⟨row, span.start, curr.cols⟩) pen := by
  have hCols := Grid.length_of_line hLines.now
  unfold drawLastSpan
  rcases textEnd_cases new span with
    hEnd | ⟨hAfter, hBefore, hBlank⟩
  · simp only [hEnd, Nat.lt_irrefl, if_false]
    have hDrawn :=
      sweeps_drawBetween hLines (Nat.le_of_lt hOrder) hWithin hStart
        hStop pen
    have hSplit (p : Position) :=
      Area.holds_split row (Nat.le_of_lt hOrder)
        (hCols ▸ hWithin) p
    refine hDrawn.widen (fun p hp => (hSplit p).mpr (Or.inl hp)) ?_
    intro p hp hFree
    refine hLines.same (fun c hc _ => hSame c hc)
      (((hSplit p).mp hp).resolve_left hFree)
  · simp only [hBefore, if_true]
    have hCut := continuationAt_of_blank hBlank
    refine
      (sweeps_drawBetween hLines hAfter (by omega) hStart hCut
        pen).andThen ?_ Area.apart_split
        (Area.holds_split row hAfter (by omega))
    refine sweeps_erase _ hLines.now hLines.paired (by omega) ?_
    intro cell hCell
    rcases List.mem_iff_getElem?.mp hCell with ⟨i, hi⟩
    rw [List.getElem?_drop] at hi
    exact hBlank _ (Nat.le_add_right _ i) cell hi

/-
  Spans that cover all that differs from a column on redraw the
  line from there.
-/
theorem sweeps_drawSpans
    (hLines : Grid.ChangesAt prev curr row old new)
    {spans : List Span}
    (hCovers : Covers old new col spans)
    (pen : Pen) :
    (pen.drawSpans curr.cols row new spans).Sweeps prev curr
      (Area.Holds ⟨row, col, curr.cols⟩) pen := by
  have hCols := Grid.length_of_line hLines.now
  induction hCovers generalizing pen with
  | rest same =>
      exact
        pen.sweeps_rest fun p hp =>
          hLines.same (fun c hc _ => same c hc) hp
  | @span col span later after some within same starts stops more
      ih =>
      -- The columns before the span are equal.
      have hSplit (p : Position) :=
        Area.holds_split row after
          (show span.start ≤ curr.cols by omega) p
      have hSkip {stroke : Stroke}
          (h :
            stroke.Sweeps prev curr
              (Area.Holds ⟨row, span.start, curr.cols⟩) pen) :
          stroke.Sweeps prev curr
            (Area.Holds ⟨row, col, curr.cols⟩) pen :=
        h.widen (fun p hp => (hSplit p).mpr (Or.inr hp))
          fun p hp hFree =>
            hLines.same same
              (((hSplit p).mp hp).resolve_right hFree)
      apply hSkip
      cases later with
      | nil =>
          cases more with
          | rest hSame =>
              exact
                sweeps_drawLastSpan hLines some within starts stops
                  hSame pen
      | cons next later =>
          exact
            (sweeps_drawBetween hLines (Nat.le_of_lt some) within
              starts stops pen).andThen (ih _) Area.apart_split
              (Area.holds_split row (Nat.le_of_lt some) (by omega))

------------------------------------------------------------
-- Lines
------------------------------------------------------------

/- A line that can be drawn is redrawn as a whole. -/
theorem sweeps_drawLine
    (hBefore : prev.line? row = some old)
    (hNow : curr.line? row = some new)
    (hLength : old.length = new.length)
    {pen : Pen}
    {stroke : Stroke}
    (h : pen.drawLine curr.cols row old new = .ok stroke) :
    stroke.Sweeps prev curr (Area.Holds ⟨row, 0, curr.cols⟩) pen := by
  rcases drawLine_eq_ok h with ⟨_, hPaired, spans, hSpans, rfl⟩
  exact
    sweeps_drawSpans ⟨hBefore, hNow, hLength, hPaired⟩
      (covers_changedSpans hLength hPaired hSpans) pen

/- The rows from one row up to another that two grids differ in. -/
def InChangedRows
    (prev curr : Grid)
    (start stop : Nat)
    (p : Position) : Prop :=
  start ≤ p.row ∧ p.row < stop ∧ p.col < curr.cols ∧
    prev.line? p.row ≠ curr.line? p.row

/-
  Lines are redrawn one after another.  By the lines: each takes
  one row, and equal ones are passed over.
-/
theorem sweeps_drawLines
    (hWidth : prev.cols = curr.cols)
    {olds news : List Line}
    (hCount : olds.length = news.length)
    (hBefore : ∀ i, prev.line? (row + i) = olds[i]?)
    (hNow : ∀ i, curr.line? (row + i) = news[i]?)
    {pen : Pen}
    {stroke : Stroke}
    {equal : Nat}
    (h :
      pen.drawLines curr.cols row olds news = .ok (stroke, equal)) :
    stroke.Sweeps prev curr
      (InChangedRows prev curr row (row + news.length)) pen := by
  induction olds generalizing row news pen stroke equal with
  | nil =>
      cases news with
      | cons new news => simp at hCount
      | nil =>
          cases h
          refine pen.sweeps_rest fun p hp => ?_
          simp only [InChangedRows, List.length_nil] at hp
          omega
  | cons old olds ih =>
      cases news with
      | nil => simp at hCount
      | cons new news =>
          have hOld : prev.line? row = some old := hBefore 0
          have hNew : curr.line? row = some new := hNow 0
          have hLength : old.length = new.length := by
            rw [Grid.length_of_line hOld, Grid.length_of_line hNew,
              hWidth]
          have hLater {pen : Pen} {stroke : Stroke} {n : Nat}
              (hDrawn :
                drawLines curr.cols (row + 1) olds news pen =
                  .ok (stroke, n)) :
              stroke.Sweeps prev curr
                (InChangedRows prev curr (row + 1)
                  (row + (new :: news).length)) pen := by
            rw [List.length_cons, Nat.add_comm news.length,
              ← Nat.add_assoc]
            refine ih (by simpa using hCount) (fun i => ?_)
              (fun i => ?_) hDrawn
            · rw [Nat.add_assoc, Nat.add_comm 1]
              exact hBefore (i + 1)
            · rw [Nat.add_assoc, Nat.add_comm 1]
              exact hNow (i + 1)
          have hSplit (p : Position) :
              InChangedRows prev curr row
                  (row + (new :: news).length) p ↔
                (old ≠ new ∧ Area.Holds ⟨row, 0, curr.cols⟩ p) ∨
                  InChangedRows prev curr (row + 1)
                    (row + (new :: news).length) p := by
            simp only [InChangedRows, Area.Holds, List.length_cons]
            by_cases hHere : p.row = row
            · rw [hHere, hOld, hNew, ne_eq, Option.some.injEq]
              grind
            · grind
          rcases drawLines_cons_eq_ok h with
            ⟨hSame, n, -, hRest⟩ |
              ⟨hOther, drawn, later, hDrawn, hRest, rfl⟩
          · refine
              (hLater hRest).widen
                (fun p hp => (hSplit p).mpr (Or.inr hp)) ?_
            intro p hp hFree
            exact
              absurd hSame (((hSplit p).mp hp).resolve_right hFree).1
          · refine
              (sweeps_drawLine hOld hNew hLength hDrawn).andThen
                (hLater hRest) (fun p hp => ?_) fun p => ?_
            · simp only [InChangedRows, Area.Holds] at hp ⊢
              omega
            · rw [hSplit p, and_iff_right hOther]

/- As many lines are passed over as are equal. -/
theorem equal_of_drawLines
    {cols : Nat}
    {olds news : List Line}
    {pen : Pen}
    {stroke : Stroke}
    {equal : Nat}
    (h : pen.drawLines cols row olds news = .ok (stroke, equal)) :
    equal =
      (olds.zip news).countP fun lines => lines.1 = lines.2 := by
  induction olds generalizing row news pen stroke equal with
  | nil =>
      cases h
      rfl
  | cons old olds ih =>
      cases news with
      | nil =>
          cases h
          rfl
      | cons new news =>
          rw [List.zip_cons_cons, List.countP_cons]
          rcases drawLines_cons_eq_ok h with
            ⟨hSame, n, rfl, hRest⟩ | ⟨hOther, _, _, -, hRest, -⟩
          · rw [ih hRest, if_pos (decide_eq_true hSame)]
          · rw [ih hRest, if_neg (by simpa using hOther), Nat.add_zero]

end Pen

end Redraw
