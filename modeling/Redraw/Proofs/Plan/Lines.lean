import Redraw.Plan.Diff
import Redraw.Proofs.Plan.Pens
import Redraw.Proofs.Plan.Spans
import Redraw.Proofs.Screen.Units
import Redraw.Screen.Shows

/-
  Lines: a screen that shows a line shows the next one after
  what changed has been drawn.

  While a line is drawn it is halfway: the columns before some
  column show the new line, those after it the old one.  The
  column itself is not a second half, since drawing up to it
  destroyed the pair if it was one.

  Key definitions include:
    * `Screen.ShowsCell`, `Screen.Halfway`
    * `Drawable`: lines that a screen can show
    * `Stroke.StaysOn`, `Stroke.DrawsTo`: what a stroke leaves
      behind

  Main declarations:
    * `Screen.Halfway.overwritten`, `Screen.Halfway.skip`
    * `Pen.drawsTo_drawUnits`, `Pen.drawsTo_drawBetween`
    * `Pen.shows_drawLine`
-/

namespace Redraw

/-
  Two lines of a width, of whole units, the new one of simple
  cells.
-/
structure Drawable
    (cols : Nat)
    (prev curr : Line) : Prop where
  prevLength : prev.length = cols
  currLength : curr.length = cols
  prevPaired : prev.Paired
  currPaired : curr.Paired
  simple : ∀ cell ∈ curr, cell.IsSimple

namespace Screen

------------------------------------------------------------
-- Halfway
------------------------------------------------------------

/- A slot shows the cell of a line in its column, if any. -/
def ShowsCell
    (caps : Capabilities)
    (s : Screen)
    (row : Nat)
    (line : Line)
    (col : Nat) : Prop :=
  ∀ cell ∈ line.cell? col, (s.slots row col).Shows caps cell

/- A line of a screen is drawn up to a column. -/
structure Halfway
    (caps : Capabilities)
    (s : Screen)
    (row : Nat)
    (prev curr : Line)
    (col : Nat) : Prop where
  drawn : ∀ c, c < col → s.ShowsCell caps row curr c
  left : ∀ c, col < c → s.ShowsCell caps row prev c
  here :
    prev.continuationAt col = false → s.ShowsCell caps row prev col
  free :
    col < curr.length → (s.slots row col).continuation = false

variable {caps : Capabilities}
variable {s : Screen}
variable {row col : Nat}
variable {prev curr : Line}

/- Only the slots of the line matter. -/
theorem Halfway.congr
    (h : s.Halfway caps row prev curr col)
    {t : Screen}
    (hSlots : t.slots row = s.slots row) :
    t.Halfway caps row prev curr col := by
  constructor
  · intro c hc
    simpa only [ShowsCell, hSlots] using h.drawn c hc
  · intro c hc
    simpa only [ShowsCell, hSlots] using h.left c hc
  · intro hCut
    simpa only [ShowsCell, hSlots] using h.here hCut
  · intro hCol
    rw [hSlots]
    exact h.free hCol

/- A line that is shown is not drawn at all yet. -/
theorem halfway_zero
    {cols : Nat}
    (hLines : Drawable cols prev curr)
    (h : ∀ c, s.ShowsCell caps row prev c) :
    s.Halfway caps row prev curr 0 where
  drawn := fun c hc => absurd hc (Nat.not_lt_zero c)
  left := fun c _ => h c
  here := fun _ => h 0
  free := by
    intro hSome
    have hLength : 0 < prev.length := by
      rw [hLines.prevLength, ← hLines.currLength]
      exact hSome
    have hFirst : prev.cell? 0 = some prev[0] :=
      List.getElem?_eq_getElem hLength
    have hCut := hLines.prevPaired.continuationAt_zero
    rw [Line.continuationAt, hFirst] at hCut
    rw [(h 0 prev[0] hFirst).1]
    exact hCut

/- A line that is drawn up to its end is shown. -/
theorem Halfway.shows
    (h : s.Halfway caps row prev curr curr.length)
    (c : Nat) :
    s.ShowsCell caps row curr c := by
  by_cases hc : c < curr.length
  · exact h.drawn c hc
  · intro cell hCell
    rw [Line.cell?, List.getElem?_eq_none (by omega)] at hCell
    cases hCell

/-
  Columns that are equal need not be drawn.  Between units the
  old line is cut as well, since a first half before the cut
  would be one of the new line.
-/
theorem Halfway.skip
    {cols : Nat}
    (hLines : Drawable cols prev curr)
    (h : s.Halfway caps row prev curr col)
    {next : Nat}
    (hNext : col ≤ next)
    (hSame :
      ∀ c, col ≤ c → c < next → curr.cell? c = prev.cell? c)
    (hCut : curr.continuationAt col = false)
    (hNextCut : curr.continuationAt next = false) :
    s.Halfway caps row prev curr next := by
  rcases Nat.eq_or_lt_of_le hNext with rfl | hLater
  · exact h
  have hDrawn (c : Nat) (hc : col ≤ c) (hBefore : c < next) :
      s.ShowsCell caps row curr c := by
    have hCell := hSame c hc hBefore
    rcases Nat.eq_or_lt_of_le hc with rfl | hAfter
    · rw [Line.continuationAt, hCell] at hCut
      intro cell hMem
      rw [hCell] at hMem
      exact h.here hCut cell hMem
    · intro cell hMem
      rw [hCell] at hMem
      exact h.left c hAfter cell hMem
  have hPrevCut : prev.continuationAt next = false := by
    cases hContinued : prev.continuationAt next with
    | false => rfl
    | true =>
        rcases hLines.prevPaired.wideAt_of_continuationAt
            hContinued with
          ⟨before, rfl, hWide⟩
        have hCurrWide : curr.wideAt before = true := by
          rw [Line.wideAt, hSame before (by omega) (by omega)]
          exact hWide
        rw [hLines.currPaired.continuationAt_succ hCurrWide]
          at hNextCut
        cases hNextCut
  refine ⟨?_, ?_, fun _ => h.left next hLater, ?_⟩
  · intro c hc
    by_cases hBefore : c < col
    · exact h.drawn c hBefore
    · exact hDrawn c (by omega) hc
  · exact fun c hc => h.left c (by omega)
  · intro hInside
    have hLength : next < prev.length := by
      rw [hLines.prevLength, ← hLines.currLength]
      exact hInside
    have hCell : prev.cell? next = some prev[next] :=
      List.getElem?_eq_getElem hLength
    rw [Line.continuationAt, hCell] at hPrevCut
    rw [(h.left next hLater _ hCell).1]
    exact hPrevCut

/- A unit that is written takes its columns. -/
theorem Halfway.overwritten
    (hLines : Drawable s.cols prev curr)
    (h : s.Halfway caps s.row prev curr s.col)
    {cell : Cell}
    (hCell : curr.cell? s.col = some cell)
    (hUnit : cell.isContinuation = false)
    (hStyle : s.style = caps.adaptStyle cell.style) :
    (s.overwritten cell.text cell.width).Halfway caps s.row prev
      curr (s.col + cell.width) := by
  have hWidth := Cell.width_of_not_isContinuation hUnit
  have hSecond :
      cell.width = 2 →
        curr.continuationAt (s.col + 1) = true := by
    intro hTwo
    apply hLines.currPaired.continuationAt_succ
    rw [Line.wideAt, hCell]
    rcases cell with ⟨glyph, style⟩
    cases glyph <;> simp_all [Cell.width, Cell.isWide]
  have hKept (c : Nat)
      (hc : c < s.col ∨ s.col + cell.width < c) :
      (s.overwritten cell.text cell.width).slots s.row c =
        s.slots s.row c := by
    simp only [Screen.overwritten, true_and]
    rw [if_neg (by omega), if_neg (by omega), if_neg (by omega)]
  have hNext :
      (s.overwritten cell.text cell.width).slots s.row
          (s.col + cell.width) =
        if s.col + cell.width < s.cols
            ∧ (s.slots s.row (s.col + cell.width)).continuation =
              true then
          .blank .default
        else s.slots s.row (s.col + cell.width) := by
    simp only [Screen.overwritten, true_and]
    rw [if_neg (by omega), if_neg (by omega)]
  constructor
  · intro c hc
    by_cases hBefore : c < s.col
    · intro cell' hMem
      rw [hKept c (Or.inl hBefore)]
      exact h.drawn c hBefore cell' hMem
    by_cases hHere : c = s.col
    · rw [hHere]
      intro cell' hMem
      rw [hCell] at hMem
      rw [← Option.some.inj hMem]
      simp only [Screen.overwritten, and_self, if_true]
      exact ⟨hUnit.symm, fun _ => ⟨rfl, hStyle⟩⟩
    · have hTail : c = s.col + 1 := by omega
      have hTwo : cell.width = 2 := by omega
      have hContinued := hSecond hTwo
      rw [hTail]
      intro cell' hMem
      rw [Line.continuationAt, hMem] at hContinued
      change cell'.isContinuation = true at hContinued
      simp only [Screen.overwritten, true_and]
      rw [if_neg (by omega), if_pos (by omega)]
      refine ⟨hContinued.symm, fun hNot => ?_⟩
      rw [hContinued] at hNot
      cases hNot
  · intro c hc cell' hMem
    rw [hKept c (Or.inr hc)]
    exact h.left c (by omega) cell' hMem
  · intro hCut cell' hMem
    have hShows := h.left _ (by omega) cell' hMem
    rw [Line.continuationAt, hMem] at hCut
    change cell'.isContinuation = false at hCut
    rw [hNext, if_neg]
    · exact hShows
    · rw [hShows.1, hCut]
      simp
  · intro hInside
    rw [hLines.currLength] at hInside
    rw [hNext]
    split
    · rfl
    · rename_i hNot
      simpa [hInside] using hNot

/- A line whose rest is blank is shown after erasing the rest. -/
theorem Halfway.eraseLine
    (h : s.Halfway caps s.row prev curr s.col)
    (hInside : s.col < curr.length)
    (hStyle : s.style = .default)
    (hBlank :
      ∀ c, s.col ≤ c → ∀ cell ∈ curr.cell? c, cell.isBlank = true)
    (c : Nat) :
    s.eraseLine.ShowsCell caps s.row curr c := by
  intro cell hCell
  by_cases hBefore : c < s.col
  · have hKept :
        s.eraseLine.slots s.row c = s.slots s.row c := by
      simp only [Screen.eraseLine, splitPair_eq, true_and,
        h.free hInside, Bool.false_eq_true, and_false, if_false]
      rw [if_neg (by omega), if_neg (by omega)]
    rw [hKept]
    exact h.drawn c hBefore cell hCell
  · have hErased :
        s.eraseLine.slots s.row c = .blank .default := by
      simp only [Screen.eraseLine, true_and]
      rw [if_pos (by omega), erased, hStyle]
      rfl
    have hIs := hBlank c (by omega) cell hCell
    have hUnit := Cell.isContinuation_of_isBlank hIs
    simp only [Cell.isBlank, Cell.isSpace, Bool.and_eq_true,
      decide_eq_true_eq, Style.isDefault] at hIs
    rw [hErased]
    refine ⟨hUnit.symm, fun _ => ⟨hIs.1.symm, ?_⟩⟩
    rw [hIs.2, caps.adaptStyle_default]
    rfl

end Screen

------------------------------------------------------------
-- Strokes on One Line
------------------------------------------------------------

/- A stroke changes one line only, and its pen is right after it. -/
structure Stroke.StaysOn
    (caps : Capabilities)
    (row : Nat)
    (s : Screen)
    (stroke : Stroke) : Prop where
  changes : s.ChangesOnly row (s.draw caps stroke)
  pen : stroke.pen.Describes caps (s.draw caps stroke)

/- And the line is drawn up to a column. -/
structure Stroke.DrawsTo
    (caps : Capabilities)
    (row : Nat)
    (prev curr : Line)
    (col : Nat)
    (s : Screen)
    (stroke : Stroke) : Prop extends stroke.StaysOn caps row s where
  halfway : (s.draw caps stroke).Halfway caps row prev curr col

namespace Stroke

variable {caps : Capabilities}
variable {row col : Nat}
variable {prev curr : Line}
variable {s : Screen}

theorem staysOn_rest
    {pen : Pen}
    (h : pen.Describes caps s) :
    pen.rest.StaysOn caps row s :=
  ⟨.refl row s, h⟩

theorem StaysOn.andThen
    {stroke : Stroke}
    {next : Pen → Stroke}
    (h : stroke.StaysOn caps row s)
    (hNext :
      (next stroke.pen).StaysOn caps row (s.draw caps stroke)) :
    (stroke.andThen next).StaysOn caps row s := by
  constructor
  · rw [Screen.draw_andThen]
    exact h.changes.trans hNext.changes
  · rw [Screen.draw_andThen]
    exact hNext.pen

theorem StaysOn.andThen_drawsTo
    {stroke : Stroke}
    {next : Pen → Stroke}
    (h : stroke.StaysOn caps row s)
    (hNext :
      (next stroke.pen).DrawsTo caps row prev curr col
        (s.draw caps stroke)) :
    (stroke.andThen next).DrawsTo caps row prev curr col s := by
  refine ⟨h.andThen hNext.toStaysOn, ?_⟩
  rw [Screen.draw_andThen]
  exact hNext.halfway

end Stroke

namespace Pen

variable {caps : Capabilities}
variable {cols row col : Nat}
variable {s : Screen}
variable {pen : Pen}
variable {prev curr : Line}

/- One cell is drawn. -/
theorem drawsTo_drawRun
    (hLines : Drawable cols prev curr)
    (hCols : s.cols = cols)
    (hRow : row < s.rows)
    (hPen : pen.Describes caps s)
    (h : s.Halfway caps row prev curr col)
    {cell : Cell}
    (hCell : curr.cell? col = some cell)
    (hUnit : cell.isContinuation = false)
    (hFits : col + cell.width ≤ cols) :
    (pen.drawRun cols row (runOf col cell)).DrawsTo caps row prev
      curr (col + cell.width) s := by
  subst hCols
  have hWidth := Cell.width_of_not_isContinuation hUnit
  have hSimple : cell.IsSimple :=
    hLines.simple cell (List.mem_of_getElem? hCell)
  rcases draw_ready hPen
      (show (⟨row, col⟩ : Position).row < s.rows from hRow)
      (show col < s.cols by omega) cell.style with
    ⟨l, hReady⟩
  let ready : Screen :=
    { s with
      row := row
      col := col
      pendingWrap := false
      style := caps.adaptStyle cell.style
      last := l }
  have hFree : (s.slots row col).continuation = false :=
    h.free (by rw [hLines.currLength]; omega)
  have hDraw :
      s.draw caps (pen.drawRun s.cols row (runOf col cell)) =
        ready.overwritten cell.text cell.width := by
    simp only [drawRun, runOf, Screen.draw_andThen] at hReady ⊢
    rw [hReady]
    exact
      Screen.printAll_cell (s := ready) hSimple hUnit rfl hFree
        hFits
  refine ⟨⟨?_, ?_⟩, ?_⟩
  · rw [hDraw]
    refine ⟨rfl, ?_, rfl, rfl⟩
    intro r hr
    funext c
    simp [Screen.overwritten, ready, hr]
  · rw [hDraw, pen_drawRun]
    refine ⟨rfl, ?_⟩
    intro p hp
    by_cases hEnd : s.cols ≤ col + cell.width
    · simp [runOf, hEnd] at hp
    · simp only [runOf, hEnd, if_false] at hp
      rw [← Option.some.inj hp]
      simp [Screen.overwritten, Screen.position, ready, hEnd]
  · rw [hDraw]
    exact
      Screen.Halfway.overwritten (s := ready) hLines
        (h.congr rfl) hCell hUnit rfl

/-
  The units of a part of a line are drawn one after another.
  The induction is on the units; the halfway column moves with
  the pen.
-/
theorem drawsTo_drawUnits
    {part : Line}
    (hPart : part.Paired)
    {rest : Line}
    (hHere : curr.drop col = part ++ rest)
    (hLines : Drawable cols prev curr)
    (hCols : s.cols = cols)
    (hRow : row < s.rows)
    (hPen : pen.Describes caps s)
    (h : s.Halfway caps row prev curr col) :
    (pen.drawUnits cols row col
        (part.filter fun c => !c.isContinuation)).DrawsTo caps row
      prev curr (col + part.length) s := by
  induction hPart generalizing col pen s with
  | nil => exact ⟨Stroke.staysOn_rest hPen, h⟩
  | @narrow cell part one more ih =>
      have hUnit := ((Cell.width_eq_one_iff cell).mp one).2
      have hNext := Line.drop_succ hHere
      have hInside := Line.lt_length_of_drop hHere
      have hDrawn :=
        drawsTo_drawRun hLines hCols hRow hPen h hNext.1 hUnit
          (by rw [one, ← hLines.currLength]; exact hInside)
      have hLater :=
        ih (by rw [one]; exact hNext.2)
          (hDrawn.changes.cols.trans hCols)
          (by rw [hDrawn.changes.rows]; exact hRow)
          hDrawn.pen hDrawn.halfway
      have hStop :
          col + (cell :: part).length =
            col + cell.width + part.length := by
        rw [one, List.length_cons]
        omega
      simp only [hUnit, Bool.not_false, List.filter_cons_of_pos]
      rw [hStop]
      exact hDrawn.toStaysOn.andThen_drawsTo hLater
  | @pair first second part wide continued more ih =>
      have hTwo := Cell.width_of_isWide wide
      have hUnit := Cell.isContinuation_of_isWide wide
      have hNext := Line.drop_succ hHere
      have hInside := Line.lt_length_of_drop hNext.2
      have hDrawn :=
        drawsTo_drawRun hLines hCols hRow hPen h hNext.1 hUnit
          (by rw [hTwo, ← hLines.currLength]; exact hInside)
      have hLater :=
        ih (by rw [hTwo]; exact (Line.drop_succ hNext.2).2)
          (hDrawn.changes.cols.trans hCols)
          (by rw [hDrawn.changes.rows]; exact hRow)
          hDrawn.pen hDrawn.halfway
      have hStop :
          col + (first :: second :: part).length =
            col + first.width + part.length := by
        rw [hTwo, List.length_cons, List.length_cons]
        omega
      simp only [hUnit, continued, Bool.not_false, Bool.not_true,
        List.filter_cons_of_pos, Bool.false_eq_true,
        not_false_eq_true, List.filter_cons_of_neg]
      rw [hStop]
      exact hDrawn.toStaysOn.andThen_drawsTo hLater

/- The cells between two cuts are drawn as runs. -/
theorem drawsTo_drawBetween
    (hLines : Drawable cols prev curr)
    (hCols : s.cols = cols)
    (hRow : row < s.rows)
    (hPen : pen.Describes caps s)
    {start stop : Nat}
    (hOrder : start ≤ stop)
    (hWithin : stop ≤ curr.length)
    (hStart : curr.continuationAt start = false)
    (hStop : curr.continuationAt stop = false)
    (h : s.Halfway caps row prev curr start) :
    (pen.drawBetween cols row curr start stop).DrawsTo caps row
      prev curr stop s := by
  have hPart := hLines.currPaired.between hStart hStop
  have hLength :
      ((curr.take stop).drop start).length = stop - start := by
    simp only [List.length_drop, List.length_take]
    omega
  have hHere :
      curr.drop start =
        (curr.take stop).drop start ++ curr.drop stop := by
    conv_lhs => rw [← List.take_append_drop stop curr]
    rw [List.drop_append_of_le_length]
    rw [List.length_take]
    omega
  have hUnits :
      ∀ c ∈ ((curr.take stop).drop start).filter
          (fun c => !c.isContinuation),
        0 < c.width := by
    intro c hc
    have hUnit := (List.mem_filter.mp hc).2
    rcases Cell.width_of_not_isContinuation
        (show c.isContinuation = false by simpa using hUnit) with
      hOne | hTwo <;> omega
  have hSame :=
    draw_runs caps cols row hUnits
      (show start + _ ≤ cols by
        rw [hPart.sum_width, hLength, ← hLines.currLength]
        omega)
      pen s
  have hDrawn :=
    drawsTo_drawUnits hPart hHere hLines hCols hRow hPen h
  rw [hLength, Nat.add_sub_cancel' hOrder] at hDrawn
  change (pen.drawRuns cols row _).DrawsTo caps row prev curr stop s
  refine ⟨⟨?_, ?_⟩, ?_⟩
  · rw [hSame.1]
    exact hDrawn.changes
  · rw [hSame.1, hSame.2]
    exact hDrawn.pen
  · rw [hSame.1]
    exact hDrawn.halfway

------------------------------------------------------------
-- Blank Ends
------------------------------------------------------------

/- What is at the end of a list and accepted by a test. -/
theorem getElem?_of_takeWhile_reverse
    {α : Type}
    {test : α → Bool}
    {l : List α}
    {i : Nat}
    (h : l.length - (l.reverse.takeWhile test).length ≤ i)
    {a : α}
    (ha : l[i]? = some a) :
    test a = true := by
  rcases List.getElem?_eq_some_iff.mp ha with ⟨hInside, rfl⟩
  have hFromEnd :
      l.length - 1 - i < (l.reverse.takeWhile test).length := by
    omega
  have hSame :
      (l.reverse.takeWhile test)[l.length - 1 - i] = l[i] := by
    rw [(List.takeWhile_prefix test).getElem hFromEnd,
      List.getElem_reverse]
    congr 1
    omega
  rw [← hSame]
  exact
    List.all_eq_true.mp List.all_takeWhile _
      (List.getElem_mem hFromEnd)

/-
  Where the text of the last span ends: with the span, or
  before blanks that go on to the end of the line.
-/
theorem textEnd_cases
    (line : Line)
    (s : Span) :
    textEnd line s = s.stop ∨
      (s.start ≤ textEnd line s ∧ textEnd line s < s.stop ∧
        ∀ c, textEnd line s ≤ c →
          ∀ cell ∈ line.cell? c, cell.isBlank = true) := by
  have hLength :
      ((line.take s.stop).drop s.start).length ≤
        s.stop - s.start := by
    simp only [List.length_drop, List.length_take]
    omega
  have hBlanks :
      (((line.take s.stop).drop s.start).reverse.takeWhile
          Cell.isBlank).length ≤
        ((line.take s.stop).drop s.start).length := by
    have hReversed :
        ((line.take s.stop).drop s.start).reverse.length =
          ((line.take s.stop).drop s.start).length :=
      List.length_reverse
    rw [← hReversed]
    exact (List.takeWhile_prefix _).length_le
  simp only [textEnd]
  split
  · rename_i hErase
    simp only [Bool.and_eq_true, decide_eq_true_eq] at hErase
    unfold minErase at hErase
    refine Or.inr ⟨by omega, by omega, ?_⟩
    intro c hc cell hCell
    by_cases hAfter : s.stop ≤ c
    · apply List.all_eq_true.mp hErase.1 cell
      apply List.mem_of_getElem? (i := c - s.stop)
      rw [List.getElem?_drop, Nat.add_sub_cancel' hAfter]
      exact hCell
    · refine
        getElem?_of_takeWhile_reverse (i := c - s.start)
          (l := (line.take s.stop).drop s.start) (by omega) ?_
      rw [List.getElem?_drop, List.getElem?_take,
        if_pos (by omega), Nat.add_sub_cancel' (by omega)]
      exact hCell
  · exact Or.inl rfl

/- Blanks are units of their own. -/
theorem continuationAt_of_blank
    {line : Line}
    {col : Nat}
    (h :
      ∀ c, col ≤ c → ∀ cell ∈ line.cell? c, cell.isBlank = true) :
    line.continuationAt col = false := by
  rw [Line.continuationAt, Option.any_eq_false]
  intro cell hCell
  simpa using
    Cell.isContinuation_of_isBlank (h col (Nat.le_refl _) cell hCell)

/- The end of a line is erased when nothing but blanks is left. -/
theorem drawsTo_erase
    (hLines : Drawable cols prev curr)
    (hCols : s.cols = cols)
    (hRow : row < s.rows)
    (hPen : pen.Describes caps s)
    (hInside : col < curr.length)
    (hBlank :
      ∀ c, col ≤ c → ∀ cell ∈ curr.cell? c, cell.isBlank = true)
    (h : s.Halfway caps row prev curr col) :
    (pen.erase cols ⟨row, col⟩).DrawsTo caps row prev curr
      curr.length s := by
  rcases draw_ready hPen
      (show (⟨row, col⟩ : Position).row < s.rows from hRow)
      (show col < s.cols by rw [hCols, ← hLines.currLength]
                            exact hInside)
      .default with
    ⟨l, hReady⟩
  let ready : Screen :=
    { s with
      row := row
      col := col
      pendingWrap := false
      style := caps.adaptStyle .default
      last := l }
  have hDraw :
      s.draw caps (pen.erase cols ⟨row, col⟩) =
        ready.eraseLine := by
    rw [erase, Screen.draw_andThen, hReady]
    rfl
  have hShows :=
    Screen.Halfway.eraseLine (s := ready) (h.congr rfl) hInside
      caps.adaptStyle_default hBlank
  have hPrev : prev.length = curr.length :=
    hLines.prevLength.trans hLines.currLength.symm
  refine ⟨⟨?_, ?_⟩, ?_⟩
  · rw [hDraw]
    refine ⟨Screen.extent_eraseLine ready, ?_, ?_, ?_⟩
    · intro r hr
      funext c
      simp [Screen.eraseLine, Screen.splitPair_eq, ready, hr]
    · simp [Screen.eraseLine, Screen.splitPair_eq, ready]
    · simp [Screen.eraseLine, Screen.splitPair_eq, ready]
  · rw [hDraw]
    simp only [Screen.eraseLine, Screen.splitPair_eq]
    have hAfter :
        (pen.erase cols ⟨row, col⟩).pen =
          ⟨some ⟨row, col⟩, .default⟩ := by
      simp [erase]
    rw [hAfter]
    refine ⟨rfl, ?_⟩
    intro p hp
    rw [← Option.some.inj hp]
    exact ⟨rfl, rfl⟩
  · rw [hDraw]
    refine ⟨fun c _ => hShows c, ?_, ?_, ?_⟩
    · intro c hc cell hCell
      rw [Line.cell?, List.getElem?_eq_none (by omega)] at hCell
      cases hCell
    · intro _ cell hCell
      rw [Line.cell?, List.getElem?_eq_none (by omega)] at hCell
      cases hCell
    · exact fun hEnd => absurd hEnd (Nat.lt_irrefl _)

------------------------------------------------------------
-- Whole Lines
------------------------------------------------------------

/- Past the end of a line there is no second half. -/
theorem continuationAt_length
    (line : Line) :
    line.continuationAt line.length = false := by
  simp [Line.continuationAt, Line.cell?]

/- What is left when the last span has been drawn is equal. -/
theorem drawsTo_drawLastSpan
    (hLines : Drawable cols prev curr)
    (hCols : s.cols = cols)
    (hRow : row < s.rows)
    (hPen : pen.Describes caps s)
    {span : Span}
    (hOrder : span.start < span.stop)
    (hWithin : span.stop ≤ curr.length)
    (hStart : curr.continuationAt span.start = false)
    (hStop : curr.continuationAt span.stop = false)
    (hSame :
      ∀ c, span.stop ≤ c → curr.cell? c = prev.cell? c)
    (h : s.Halfway caps row prev curr span.start) :
    (pen.drawLastSpan cols row curr span).DrawsTo caps row prev
      curr curr.length s := by
  unfold drawLastSpan
  rcases textEnd_cases curr span with
    hEnd | ⟨hAfter, hBefore, hBlank⟩
  · have hDrawn :=
      drawsTo_drawBetween hLines hCols hRow hPen
        (Nat.le_of_lt hOrder) hWithin hStart hStop h
    simp only [hEnd, Nat.lt_irrefl, if_false]
    refine ⟨hDrawn.toStaysOn, ?_⟩
    exact
      hDrawn.halfway.skip hLines hWithin
        (fun c hc _ => hSame c hc) hStop
        (continuationAt_length curr)
  · have hInside : textEnd curr span < curr.length := by omega
    have hCut := continuationAt_of_blank hBlank
    have hDrawn :=
      drawsTo_drawBetween hLines hCols hRow hPen hAfter
        (Nat.le_of_lt hInside) hStart hCut h
    simp only [hBefore, if_true]
    exact
      hDrawn.toStaysOn.andThen_drawsTo
        (drawsTo_erase hLines (hDrawn.changes.cols.trans hCols)
          (by rw [hDrawn.changes.rows]; exact hRow)
          hDrawn.pen hInside hBlank hDrawn.halfway)

/-
  Spans that cover all that differs are drawn in order.  Between
  them the line is passed over.
-/
theorem drawsTo_drawSpans
    (hLines : Drawable cols prev curr)
    {spans : List Span}
    (hCovers : Covers prev curr col spans)
    (hCols : s.cols = cols)
    (hRow : row < s.rows)
    (hPen : pen.Describes caps s)
    (hInside : col ≤ curr.length)
    (hCut : curr.continuationAt col = false)
    (h : s.Halfway caps row prev curr col) :
    (pen.drawSpans cols row curr spans).DrawsTo caps row prev curr
      curr.length s := by
  induction hCovers generalizing pen s with
  | rest same =>
      refine ⟨Stroke.staysOn_rest hPen, ?_⟩
      exact
        h.skip hLines hInside (fun c hc _ => same c hc) hCut
          (continuationAt_length curr)
  | @span col span later after some within same starts stops more
      ih =>
      have hStart := h.skip hLines after same hCut starts
      cases later with
      | nil =>
          cases more with
          | rest hSame =>
              exact
                drawsTo_drawLastSpan hLines hCols hRow hPen some
                  within starts stops hSame hStart
      | cons next later =>
          have hDrawn :=
            drawsTo_drawBetween hLines hCols hRow hPen
              (Nat.le_of_lt some) within starts stops hStart
          exact
            hDrawn.toStaysOn.andThen_drawsTo
              (ih (hDrawn.changes.cols.trans hCols)
                (by rw [hDrawn.changes.rows]; exact hRow)
                hDrawn.pen within stops hDrawn.halfway)

/- A line is drawn only if it and the one before pass. -/
theorem drawLine_eq_ok
    {stroke : Stroke}
    (h : pen.drawLine cols row prev curr = .ok stroke) :
    prev.Paired ∧ curr.Paired ∧
      ∃ spans, changedSpans row prev curr = .ok spans ∧
        stroke = pen.drawSpans cols row curr spans := by
  rcases exists_of_bind_eq_ok h with ⟨_, hPrev, hChecked⟩
  rcases exists_of_bind_eq_ok hChecked with ⟨_, hCurr, hDrawn⟩
  rcases exists_of_bind_eq_ok hDrawn with ⟨spans, hSpans, hStroke⟩
  cases hStroke
  exact
    ⟨(prev.check_eq_ok_iff row).mp hPrev,
      (curr.check_eq_ok_iff row).mp hCurr, spans, hSpans, rfl⟩

/- A screen that shows the old line shows the new one then. -/
theorem shows_drawLine
    (hPrevLength : prev.length = cols)
    (hCurrLength : curr.length = cols)
    (hSimple : ∀ cell ∈ curr, cell.IsSimple)
    (hCols : s.cols = cols)
    (hRow : row < s.rows)
    (hPen : pen.Describes caps s)
    (hShows : ∀ c, s.ShowsCell caps row prev c)
    {stroke : Stroke}
    (h : pen.drawLine cols row prev curr = .ok stroke) :
    stroke.StaysOn caps row s ∧
      ∀ c, (s.draw caps stroke).ShowsCell caps row curr c := by
  rcases drawLine_eq_ok h with
    ⟨hPrevPaired, hCurrPaired, spans, hSpans, rfl⟩
  have hLines : Drawable cols prev curr :=
    ⟨hPrevLength, hCurrLength, hPrevPaired, hCurrPaired, hSimple⟩
  have hCovers :=
    covers_changedSpans (hPrevLength.trans hCurrLength.symm)
      hCurrPaired hSpans
  have hZero := Screen.halfway_zero hLines hShows
  have hDrawn :=
    drawsTo_drawSpans hLines hCovers hCols hRow hPen
      (Nat.zero_le _) hCurrPaired.continuationAt_zero hZero
  exact ⟨hDrawn.toStaysOn, hDrawn.halfway.shows⟩

end Pen

end Redraw
