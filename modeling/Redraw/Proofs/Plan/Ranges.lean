import Redraw.Proofs.Plan.Acceptance
import Redraw.Proofs.Plan.Lookups

/-
  Ranges: planning never leaves a line.

  A plan whose cells are looked up by their columns has a result
  whatever the grids hold, and it is the plan that is made
  without looking up.  Spans start and stop between the units of
  a checked line, so drawing one goes from unit to unit.

  Key definitions include:
    * `Pen.Goes`: how long cells go on in one style
    * `Line.KeepsWhole`: a span that cuts no unit

  Main declarations:
    * `Pen.textEnd?_eq`, `Pen.drawFrom?_eq`, `Pen.drawSpans?_eq`
    * `Pen.gives_drawLines?`, `Plan.gives_diffGrids?`
    * `Plan.never_leaves_lines`
-/

namespace Redraw

open Checked

------------------------------------------------------------
-- Blank Ends
------------------------------------------------------------

namespace Pen

/- By the end of the part: the last cell is looked at first. -/
theorem blanksFrom?_eq
    {line : Line}
    {start tail : Nat}
    (hOrder : start ≤ tail)
    (hWithin : tail ≤ line.length) :
    blanksFrom? line start tail =
      some
        (tail -
          (((line.take tail).drop start).reverse.takeWhile
            Cell.isBlank).length) := by
  induction tail with
  | zero =>
      rw [Nat.zero_sub]
      rfl
  | succ tail ih =>
      by_cases hMore : start < tail + 1
      · obtain ⟨cell, hCell⟩ : ∃ cell, line.cell? tail = some cell :=
          ⟨_, List.getElem?_eq_getElem (by omega)⟩
        have hLast :
            (line.take (tail + 1)).drop start =
              (line.take tail).drop start ++ [cell] := by
          rw [List.take_add_one, ← Line.cell?, hCell,
            List.drop_append_of_le_length]
          · rfl
          · rw [List.length_take]
            omega
        rw [blanksFrom?, if_pos hMore, hCell, hLast]
        simp only [Option.bind_eq_bind, Option.bind_some,
          List.reverse_append, List.reverse_singleton,
          List.singleton_append, List.takeWhile_cons]
        split
        · rw [ih (by omega) (by omega), List.length_cons]
          congr 1
          omega
        · rfl
      · have hNone : (line.take (tail + 1)).drop start = [] :=
          List.drop_eq_nil_iff.mpr (by rw [List.length_take]; omega)
        rw [blanksFrom?, if_neg hMore, hNone]
        rfl

theorem textEnd?_eq
    {line : Line}
    {s : Span}
    (hOrder : s.start ≤ s.stop)
    (hWithin : s.stop ≤ line.length) :
    textEnd? line s = some (textEnd line s) := by
  have hBlanks :
      (((line.take s.stop).drop s.start).reverse.takeWhile
          Cell.isBlank).length ≤ s.stop := by
    apply (List.takeWhile_prefix _).length_le.trans
    simp only [List.length_reverse, List.length_drop,
      List.length_take]
    omega
  unfold textEnd?
  rw [Line.part?_of_le hWithin (Nat.le_refl _), List.take_length]
  simp only [Option.bind_eq_bind, Option.bind_some,
    blanksFrom?_eq hOrder hWithin,
    difference?_of_le (Nat.sub_le s.stop _), textEnd,
    Nat.sub_sub_self hBlanks]
  split <;> simp_all

------------------------------------------------------------
-- Runs
------------------------------------------------------------

/- The units of some cells. -/
def units (cells : List Cell) : List Cell :=
  cells.filter fun c => !c.isContinuation

section

variable {style : Style}
variable {left : List Cell}

/- The first run has the style of the first cell. -/
theorem style_of_runs
    {col : Nat}
    {run : Run}
    {later : List Run}
    (h : runs col left = run :: later) :
    ∃ cell rest, left = cell :: rest ∧ run.style = cell.style := by
  cases left with
  | nil => cases h
  | cons cell rest =>
      refine ⟨cell, rest, rfl, ?_⟩
      rw [runs_cons] at h
      split at h
      · cases h
        rfl
      · split at h <;> cases h <;> rfl

/- Cells of one style before one of another are one run. -/
theorem runs_append
    {taken : List Cell}
    (hSome : taken ≠ [])
    (hStyle : ∀ c ∈ taken, c.style = style)
    (hOther : ∀ c ∈ left.head?, c.style ≠ style)
    (col : Nat) :
    runs col (taken ++ left) =
      ⟨col, style, taken.flatMap Cell.text,
          (taken.map Cell.width).sum⟩ ::
        runs (col + (taken.map Cell.width).sum) left := by
  induction taken generalizing col with
  | nil => exact absurd rfl hSome
  | cons cell taken ih =>
      rw [List.forall_mem_cons] at hStyle
      rw [List.cons_append, runs_cons]
      cases taken with
      | nil =>
          simp only [List.nil_append, List.map_cons, List.map_nil,
            List.sum_cons, List.sum_nil, Nat.add_zero,
            List.flatMap_cons, List.flatMap_nil, List.append_nil]
          cases hRuns : runs (col + cell.width) left with
          | nil => simp [runOf, hStyle.1]
          | cons run later =>
              rcases style_of_runs hRuns with ⟨c, rest, rfl, hRun⟩
              have hNe := hOther c rfl
              rw [← hRun] at hNe
              simp [runOf, hStyle.1, hNe]
      | cons next taken =>
          rw [ih (List.cons_ne_nil _ _) hStyle.2]
          simp [hStyle.1, Nat.add_assoc]

/- A narrow cell is looked up with the column it takes. -/
theorem units_cons_narrow
    {cell : Cell}
    {rest : Line}
    (hOne : cell.width = 1) :
    units (cell :: rest) = cell :: units rest := by
  have hUnit := ((Cell.width_eq_one_iff _).mp hOne).2
  exact List.filter_cons_of_pos (by simp [hUnit])

/- A pair is looked up by its first half. -/
theorem units_cons_pair
    {first second : Cell}
    {rest : Line}
    (hWide : first.isWide = true)
    (hContinued : second.isContinuation = true) :
    units (first :: second :: rest) = first :: units rest := by
  have hUnit := Cell.isContinuation_of_isWide hWide
  rw [units, List.filter_cons_of_pos (by simp [hUnit]),
    List.filter_cons_of_neg (by simp [hContinued])]
  rfl

/-
  How the cells of a part of a line go on in one style: those
  that do, and the units after them.
-/
structure Goes
    (style : Style)
    (part taken left : Line) : Prop where
  append : part = taken ++ left
  paired : taken.Paired
  rest : left.Paired
  styled : ∀ c ∈ units taken, c.style = style
  other : ∀ c ∈ left.head?, c.style ≠ style

/- No cell goes on before one of another style. -/
theorem goes_nil
    {part : Line}
    (hPart : part.Paired)
    (hOther : ∀ c ∈ part.head?, c.style ≠ style) :
    Goes style part [] part where
  append := rfl
  paired := .nil
  rest := hPart
  styled := by simp [units]
  other := hOther

/- A cell by itself, or with the second half that follows it. -/
structure Begins
    (cell : Cell)
    (unit : Line) : Prop where
  head : unit.head? = some cell
  columns : unit.length = cell.columns
  paired : unit.Paired
  units : units unit = [cell]

theorem begins_narrow
    {cell : Cell}
    (hOne : cell.width = 1) :
    Begins cell [cell] where
  head := rfl
  columns := by
    have hNarrow := ((Cell.width_eq_one_iff _).mp hOne).1
    exact (Cell.columns_of_narrow (by simp [hNarrow])).symm
  paired := .narrow hOne .nil
  units := units_cons_narrow hOne

theorem begins_pair
    {first second : Cell}
    (hWide : first.isWide = true)
    (hContinued : second.isContinuation = true) :
    Begins first [first, second] where
  head := rfl
  columns := (Cell.columns_of_wide hWide).symm
  paired := .pair hWide hContinued .nil
  units := units_cons_pair hWide hContinued

theorem units_append
    (cells more : List Cell) :
    units (cells ++ more) = units cells ++ units more :=
  List.filter_append ..

/- One more unit of the style goes before those that go on. -/
theorem Goes.cons
    {cell : Cell}
    {unit part taken left : Line}
    (hUnit : Begins cell unit)
    (hStyle : cell.style = style)
    (h : Goes style part taken left) :
    Goes style (unit ++ part) (unit ++ taken) left where
  append := by rw [h.append, List.append_assoc]
  paired := hUnit.paired.append h.paired
  rest := h.rest
  styled := by
    rw [units_append, hUnit.units, List.singleton_append,
      List.forall_mem_cons]
    exact ⟨hStyle, h.styled⟩
  other := h.other

/- A run from a column: how far it goes, and its text. -/
def RunsFrom
    (line part : Line)
    (style : Style)
    (stop col : Nat)
    (chars : List Char) : Prop :=
  ∃ taken left,
    Goes style part taken left ∧
      runFrom? line style stop col chars =
        some
          (col + taken.length,
            chars ++ (units taken).flatMap Cell.text)

/- A unit is the first of its run, or another run begins. -/
theorem runsFrom_unit
    {cell : Cell}
    {line unit part beyond : Line}
    (hUnit : Begins cell unit)
    (hPart : part.Paired)
    {col stop : Nat}
    (hAt : line.drop col = unit ++ part ++ beyond)
    (hStop : col < stop)
    {chars : List Char}
    (hMore :
      RunsFrom line part style stop (col + unit.length)
        (chars ++ cell.text)) :
    RunsFrom line (unit ++ part) style stop col chars := by
  have hCell : line.cell? col = some cell := by
    rw [Line.cell?, ← List.head?_drop, hAt, List.append_assoc,
      List.head?_append, hUnit.head]
    rfl
  unfold RunsFrom
  rw [runFrom?, if_pos hStop, hCell]
  simp only [Option.bind_eq_bind, Option.bind_some,
    ← hUnit.columns]
  by_cases hStyle : cell.style = style
  · rcases hMore with ⟨taken, left, hGoes, hRun⟩
    refine ⟨unit ++ taken, left, hGoes.cons hUnit hStyle, ?_⟩
    rw [if_pos hStyle, hRun, units_append, hUnit.units]
    simp [Nat.add_assoc]
  · rw [if_neg hStyle]
    refine ⟨[], unit ++ part, goes_nil ?_ ?_, by simp [units]⟩
    · exact hUnit.paired.append hPart
    · rw [List.head?_append, hUnit.head]
      simpa using hStyle

/- By the units of the part: a run ends before another style. -/
theorem runsFrom_of_paired
    {line part beyond : Line}
    (hPart : part.Paired)
    {col stop : Nat}
    (hAt : line.drop col = part ++ beyond)
    (hStop : stop = col + part.length)
    (style : Style)
    (chars : List Char) :
    RunsFrom line part style stop col chars := by
  induction hPart generalizing col chars with
  | nil =>
      refine ⟨[], [], goes_nil .nil (by simp), ?_⟩
      rw [runFrom?, if_neg (by simp at hStop; omega)]
      simp [units]
  | @narrow cell rest one more ih =>
      rw [List.length_cons] at hStop
      refine
        runsFrom_unit (begins_narrow one) more hAt (by omega) ?_
      have hLeft : stop = col + [cell].length + rest.length := by
        rw [List.length_singleton]
        omega
      exact ih (Line.drop_succ hAt).2 hLeft _
  | @pair first second rest wide continued more ih =>
      rw [List.length_cons, List.length_cons] at hStop
      refine
        runsFrom_unit (begins_pair wide continued) more hAt
          (by omega) ?_
      have hLeft :
          stop = col + [first, second].length + rest.length := by
        simp only [List.length_cons, List.length_nil]
        omega
      exact ih (Line.drop_succ (Line.drop_succ hAt).2).2 hLeft _

/- They are the first run of the part. -/
theorem Goes.runs_units
    {part taken left : Line}
    (h : Goes style part taken left)
    (hSome : taken ≠ [])
    (col : Nat) :
    runs col (units part) =
      ⟨col, style, (units taken).flatMap Cell.text, taken.length⟩ ::
        runs (col + taken.length) (units left) := by
  have hUnits : units taken ≠ [] := by
    cases h.paired with
    | nil => exact absurd rfl hSome
    | narrow one more => simp [units_cons_narrow one]
    | pair wide continued more =>
        simp [units_cons_pair wide continued]
  have hOther : ∀ c ∈ (units left).head?, c.style ≠ style := by
    have hLeft := h.other
    cases h.rest with
    | nil => simp [units]
    | narrow one more =>
        rw [units_cons_narrow one]
        exact hLeft
    | pair wide continued more =>
        rw [units_cons_pair wide continued]
        exact hLeft
  have hAll := runs_append hUnits h.styled hOther col
  have hWidth : ((units taken).map Cell.width).sum = taken.length :=
    h.paired.sum_width
  rw [hWidth] at hAll
  rw [h.append, units_append]
  exact hAll

/-
  By the length of the part: what is left after a run is
  shorter, since a run takes the cell that gives its style.
-/
theorem drawFrom?_eq
    (cols row : Nat)
    {line part beyond : Line}
    (hPart : part.Paired)
    {col stop : Nat}
    (hAt : line.drop col = part ++ beyond)
    (hStop : stop = col + part.length)
    (hFits : stop ≤ maxColumn)
    (pen : Pen) :
    drawFrom? cols row line stop col pen =
      some (pen.drawCells cols row col part) := by
  induction hLength : part.length using Nat.strong_induction_on
    generalizing part col pen with
  | _ n ih =>
      cases part with
      | nil =>
          rw [drawFrom?, if_neg (by simp at hStop; omega)]
          rfl
      | cons cell rest =>
          rcases runsFrom_of_paired hPart hAt hStop cell.style [] with
            ⟨taken, left, hGoes, hRun⟩
          have hSome : taken ≠ [] := by
            rintro rfl
            have hLeft : left = cell :: rest := hGoes.append.symm
            exact hGoes.other cell (by rw [hLeft]; rfl) rfl
          have hTaken : 0 < taken.length :=
            List.length_pos_iff.mpr hSome
          have hCount :
              (cell :: rest).length = taken.length + left.length := by
            rw [hGoes.append, List.length_append]
          have hBeyond :
              line.drop (col + taken.length) = left ++ beyond := by
            rw [← List.drop_drop, hAt, hGoes.append,
              List.append_assoc, List.drop_left]
          have hEnd : stop = col + taken.length + left.length := by
            omega
          have hLater :=
            fun pen =>
              ih left.length (by omega) hGoes.rest hBeyond hEnd pen rfl
          have hColumn :
              ∀ n ≤ col + taken.length, column? n = some n :=
            fun n hn => column?_of_le (by omega)
          have hTakes :
              difference? (col + taken.length) col =
                some taken.length := by
            rw [difference?_of_le (Nat.le_add_right _ _),
              Nat.add_sub_cancel_left]
          have hMore : col < col + taken.length := by omega
          have hInside : col < stop := by omega
          rw [drawFrom?, if_pos hInside, (Line.drop_succ hAt).1]
          simp only [Option.bind_eq_bind, Option.bind_some, hRun,
            write?, hTakes, hColumn col (by omega),
            hColumn taken.length (by omega),
            hColumn (col + taken.length) (by omega), hMore, hLater,
            if_true, List.nil_append, Option.pure_def]
          have hDrawn :=
            congrArg (fun runs => pen.drawRuns cols row runs)
              (hGoes.runs_units hSome col)
          exact congrArg some hDrawn.symm

end

------------------------------------------------------------
-- Lines
------------------------------------------------------------

variable {cols row : Nat}
variable {prev curr : Line}

/- What is between two boundaries is drawn by its units. -/
theorem drawFrom?_between
    (hPaired : curr.Paired)
    {start stop : Nat}
    (hOrder : start ≤ stop)
    (hWithin : stop ≤ curr.length)
    (hWidth : curr.length ≤ maxColumn)
    (hStart : curr.continuationAt start = false)
    (hStop : curr.continuationAt stop = false)
    (pen : Pen) :
    drawFrom? cols row curr stop start pen =
      some (pen.drawBetween cols row curr start stop) := by
  have hAt :
      curr.drop start =
        (curr.take stop).drop start ++ curr.drop stop := by
    rw [← List.drop_append_of_le_length, List.take_append_drop]
    rw [List.length_take]
    omega
  refine
    drawFrom?_eq cols row (hPaired.between hStart hStop) hAt ?_
      (hWithin.trans hWidth) pen
  rw [List.length_drop, List.length_take]
  omega

theorem andThen_rest
    (stroke : Stroke) :
    (stroke.andThen fun _ => stroke.pen.rest) = stroke := by
  simp [Stroke.andThen, rest]

/- The end of a span that is erased starts in the line. -/
theorem textEnd_bounds
    {line : Line}
    {s : Span}
    (hOrder : s.start ≤ s.stop)
    (hStop : line.continuationAt s.stop = false) :
    s.start ≤ textEnd line s ∧ textEnd line s ≤ s.stop ∧
      line.continuationAt (textEnd line s) = false := by
  rcases textEnd_cases line s with
    hEnd | ⟨hAfter, hBefore, hBlank⟩
  · rw [hEnd]
    exact ⟨hOrder, Nat.le_refl _, hStop⟩
  · exact
      ⟨hAfter, Nat.le_of_lt hBefore, continuationAt_of_blank hBlank⟩

/- By the spans, which start and stop between units. -/
theorem drawSpans?_eq
    (hPaired : curr.Paired)
    (hWidth : curr.length ≤ maxColumn)
    {col : Nat}
    {spans : List Span}
    (hCovers : Covers prev curr col spans)
    (pen : Pen) :
    drawSpans? cols row curr spans pen =
      some (pen.drawSpans cols row curr spans) := by
  induction hCovers generalizing pen with
  | rest same => rfl
  | @span col s later after some within same starts stops more ih =>
      cases later with
      | nil =>
          rcases textEnd_bounds (Nat.le_of_lt some) stops with
            ⟨hAfter, hBefore, hCut⟩
          have hColumn : column? (textEnd curr s) = .some _ :=
            column?_of_le (by omega)
          simp only [drawSpans?, List.isEmpty_nil, if_true,
            textEnd?_eq (Nat.le_of_lt some) within,
            drawFrom?_between hPaired hAfter (hBefore.trans within)
              hWidth starts hCut,
            Option.bind_eq_bind, Option.bind_some, hColumn,
            Option.pure_def, drawSpans, drawLastSpan]
          split <;> simp [andThen_rest]
      | cons next later =>
          rw [drawSpans?]
          simp only [List.isEmpty_cons, Bool.false_eq_true, if_false,
            drawFrom?_between hPaired (Nat.le_of_lt some) within
              hWidth starts stops,
            Option.bind_eq_bind, Option.bind_some, Nat.lt_irrefl, ih]
          rfl

/- A line is checked before it is drawn. -/
theorem gives_drawLine?
    (hLength : prev.length = curr.length)
    (hWidth : curr.length ≤ maxColumn)
    (pen : Pen) :
    (pen.drawLine? cols row prev curr).Gives
      (pen.drawLine cols row prev curr) := by
  refine (Line.gives_check? (hLength.trans_le hWidth)).bind ?_
  intro _ _
  refine (Line.gives_check? hWidth).bind ?_
  intro _ hChecked
  have hPaired := (curr.check_eq_ok_iff row).mp hChecked
  refine (gives_changedSpans? hLength hPaired hWidth).bind ?_
  intro spans hSpans
  have hCovers := covers_changedSpans hLength hPaired hSpans
  rw [drawSpans?_eq hPaired hWidth hCovers pen]
  exact gives_pure _

/- By the lines: one that differs is drawn before the later ones. -/
theorem gives_drawLines?
    {prevs currs : List Line}
    (hPrevs : ∀ line ∈ prevs, line.length = cols)
    (hCurrs : ∀ line ∈ currs, line.length = cols)
    (hWidth : cols ≤ maxColumn)
    (pen : Pen) :
    (drawLines? cols row prevs currs pen).Gives
      (drawLines cols row prevs currs pen) := by
  fun_induction drawLines cols row prevs currs pen with
  | case1 row prevs curr currs pen ih =>
      rw [List.forall_mem_cons] at hPrevs hCurrs
      rw [drawLines?, if_pos rfl]
      refine (ih hPrevs.2 hCurrs.2).bind ?_
      intro later _
      exact gives_pure _
  | case2 row prev prevs curr currs pen hDiffer ih =>
      rw [List.forall_mem_cons] at hPrevs hCurrs
      rw [drawLines?, if_neg hDiffer]
      have hLength := hPrevs.1.trans hCurrs.1.symm
      refine
        (gives_drawLine? hLength (hCurrs.1.trans_le hWidth) pen).bind
          ?_
      intro drawn _
      refine (ih drawn hPrevs.2 hCurrs.2).bind ?_
      intro later _
      exact gives_pure _
  | case3 row prevs currs pen hEnd =>
      rw [drawLines?]
      · exact gives_pure _
      · exact hEnd

end Pen

------------------------------------------------------------
-- Boundaries
------------------------------------------------------------

namespace Line

theorem Paired.isBoundary
    {line : Line}
    (h : line.Paired)
    {col : Nat}
    (hCut : line.continuationAt col = false) :
    line.IsBoundary col :=
  ⟨h.take hCut, h.drop hCut⟩

/-
  A span inside a line that starts and stops between units, as
  does the blank end that is erased instead of written.
-/
structure KeepsWhole
    (line : Line)
    (s : Span) : Prop where
  within : s.start < s.stop ∧ s.stop ≤ line.length
  start : line.IsBoundary s.start
  stop : line.IsBoundary s.stop
  tail : line.IsBoundary (Pen.textEnd line s)

end Line

/- By the spans, which cover what differs. -/
theorem Covers.keepsWhole
    {prev curr : Line}
    (hPaired : curr.Paired)
    {col : Nat}
    {spans : List Span}
    (h : Covers prev curr col spans) :
    ∀ s ∈ spans, curr.KeepsWhole s := by
  induction h with
  | rest same => simp
  | @span col s later after some within same starts stops more ih =>
      rw [List.forall_mem_cons]
      refine ⟨?_, ih⟩
      have hEnd := Pen.textEnd_bounds (Nat.le_of_lt some) stops
      constructor
      case within => exact ⟨some, within⟩
      case start => exact hPaired.isBoundary starts
      case stop => exact hPaired.isBoundary stops
      case tail => exact hPaired.isBoundary hEnd.2.2

------------------------------------------------------------
-- Plans
------------------------------------------------------------

namespace Plan

theorem gives_diffGrids?
    {prev curr : Grid}
    (hWidth : curr.cols ≤ maxColumn)
    (belief : Belief) :
    (diffGrids? prev curr belief).Gives
      (diffGrids prev curr belief) := by
  unfold diffGrids? diffGrids
  by_cases hSize : prev.size = curr.size
  · rw [if_neg (not_not.mpr hSize), if_neg (not_not.mpr hSize)]
    cases curr.isEmpty with
    | true => exact gives_pure _
    | false =>
        rw [if_neg Bool.false_ne_true, if_neg Bool.false_ne_true]
        have hPrevs := (Grid.lines_of_size hSize).2
        refine
          (Pen.gives_drawLines? hPrevs curr.line_length hWidth
            _).bind ?_
        intro drawn _
        exact gives_pure _
  · rw [if_pos hSize, if_pos hSize]
    exact gives_throw _

theorem gives_repaint?
    {curr : Snapshot}
    (hWidth : curr.grid.cols ≤ maxColumn) :
    (repaint? curr).Gives (repaint curr) :=
  (gives_diffGrids? hWidth .unknown).bind fun _ _ => gives_pure _

/-
  Planning between grids of one size, no wider than sixteen
  bits can say, looks up no cell, part or difference that is
  not there and needs no column that does not fit: looked up or
  not, the plans and the errors are the same.  Only an unpaired
  half is refused, and no span cuts a unit of a line that it
  is in.
-/
theorem never_leaves_lines
    (prev curr : Snapshot)
    (belief : Belief)
    (hSize : prev.grid.size = curr.grid.size)
    (hWidth : curr.grid.cols ≤ maxColumn) :
    (diff? prev curr belief).run = some (diff prev curr belief) ∧
      (repaint? curr).run = some (repaint curr) ∧
      OnlyFails Error.IsPairing (diff prev curr belief) ∧
      OnlyFails Error.IsPairing (repaint curr) ∧
      ∀ row old new spans,
        prev.grid.lines[row]? = some old →
          curr.grid.lines[row]? = some new →
            new.check row = .ok () →
              changedSpans row old new = .ok spans →
                ∀ s ∈ spans, new.KeepsWhole s := by
  refine
    ⟨gives_diffGrids? hWidth belief, gives_repaint? hWidth,
      onlyFails_diffGrids hSize belief, onlyFails_repaint curr, ?_⟩
  intro row old new spans hOld hNew hChecked hSpans
  have hPaired := (new.check_eq_ok_iff row).mp hChecked
  have hOldLength : old.length = curr.grid.cols :=
    (Grid.lines_of_size hSize).2 old (List.mem_of_getElem? hOld)
  have hNewLength : new.length = curr.grid.cols :=
    curr.grid.line_length new (List.mem_of_getElem? hNew)
  exact
    (covers_changedSpans (hOldLength.trans hNewLength.symm) hPaired
      hSpans).keepsWhole hPaired

/- A first half in the last column, and nothing after it. -/
def halfAtEnd : Grid :=
  (Grid.blank 1 3).setRaw 0 2 (.styled ['漢'] .default)

/- It is refused without looking for a second half. -/
theorem never_leaves_lines_halfAtEnd :
    (diff? (.blank 1 1 3) ⟨2, halfAtEnd⟩ .unknown).run =
        some (.error (.invalidWideCharPairing 0 2)) ∧
      (repaint? ⟨2, halfAtEnd⟩).run =
        some (.error (.invalidWideCharPairing 0 2)) := by
  rcases never_leaves_lines (.blank 1 1 3) ⟨2, halfAtEnd⟩ .unknown
      (by decide +kernel) (by decide +kernel) with
    ⟨hDiff, hRepaint, -⟩
  rw [hDiff, hRepaint]
  exact ⟨by decide +kernel, by decide +kernel⟩

end Plan

end Redraw
