import Redraw.Proofs.Grid.Resizing
import Redraw.Proofs.Plan.Faults
import Redraw.Proofs.Plan.Lookups
import Mathlib.Data.List.TakeWhile
import Mathlib.Order.Bounds.Basic

/-
  Validation: which lines a check refuses, and where it points.

  A line may be judged by its columns, each half of a pair by
  the cells beside it, or be cut into whole units from its
  start.  Both accept the same lines.  A refused line is cut as
  far as that goes, and the check points at the column where the
  next unit would start.  In a grid it is the first such line,
  also where rows are looked up in one list of cells.

  Key definitions include:
    * `Line.HalvesMeet`: every half has its other half beside it
    * `Line.UnitsEndAt`: where the longest run of units ends
    * `Grid.FirstFaultAt`

  Main declarations:
    * `Line.paired_iff_halvesMeet`
    * `Line.unitsEndAt_append`
    * `Line.check_eq_error_iff`
    * `Grid.validate_eq_error_iff`
    * `Storage.gives_validate?`
    * `Grid.points_at_first_fault`
-/

namespace Redraw

open Checked

namespace Line

------------------------------------------------------------
-- Halves
------------------------------------------------------------

/- The second halves right after a column. -/
def secondsAfter
    (line : Line)
    (col : Nat) : Line :=
  (line.drop (col + 1)).takeWhile Cell.isContinuation

/-
  Every first half is followed by a second half, every second
  half follows a first half, and no first half has two.
-/
structure HalvesMeet (line : Line) : Prop where
  followed :
    ∀ {col},
      line.wideAt col = true → line.continuationAt (col + 1) = true
  preceded :
    ∀ {col},
      line.continuationAt col = true →
        ∃ first, col = first + 1 ∧ line.wideAt first = true
  single :
    ∀ {col},
      line.wideAt col = true → (line.secondsAfter col).length = 1

variable {line whole rest more : Line}
variable {col : Nat}

theorem takeWhile_drop_of_not_continuationAt
    (h : line.continuationAt col = false) :
    (line.drop col).takeWhile Cell.isContinuation = [] := by
  apply List.takeWhile_eq_nil_iff.mpr
  intro hInside
  have hCol : col < line.length := by
    simpa using hInside
  simpa [continuationAt, cell?, hCol] using h

/- In whole units a pair has one second half. -/
theorem Paired.length_secondsAfter
    (h : line.Paired)
    (hWide : line.wideAt col = true) :
    (line.secondsAfter col).length = 1 := by
  have hSecond := h.continuationAt_succ hWide
  rcases (line.continuationAt_eq_true_iff (col + 1)).mp hSecond with
    ⟨second, hCell, hContinued⟩
  rcases List.getElem?_eq_some_iff.mp hCell with ⟨hInside, rfl⟩
  have hThird : line.continuationAt (col + 2) = false := by
    rw [h.continuationAt_eq_wideAt (col + 1)]
    exact line.wideAt_eq_false_of_continuationAt (col + 1) hSecond
  rw [secondsAfter, List.drop_eq_getElem_cons hInside,
    List.takeWhile_cons_of_pos hContinued,
    takeWhile_drop_of_not_continuationAt hThird]
  exact List.length_singleton

/- Judging by columns accepts the lines of whole units. -/
theorem paired_iff_halvesMeet :
    line.Paired ↔ line.HalvesMeet := by
  constructor
  · intro h
    exact
      { followed := h.continuationAt_succ
        preceded := h.wideAt_of_continuationAt
        single := h.length_secondsAfter }
  · intro h
    apply paired_of_halves
    · apply Bool.eq_false_iff.mpr
      intro hZero
      rcases h.preceded hZero with ⟨first, hFirst, -⟩
      exact absurd hFirst (Nat.succ_ne_zero first).symm
    · intro col
      apply Bool.eq_iff_iff.mpr
      constructor
      · intro hSecond
        rcases h.preceded hSecond with ⟨first, hFirst, hWide⟩
        obtain rfl : col = first := Nat.succ.inj hFirst
        exact hWide
      · exact h.followed

------------------------------------------------------------
-- The End of the Units
------------------------------------------------------------

/- The longest start of a line that is whole units ends here. -/
def UnitsEndAt
    (line : Line)
    (col : Nat) : Prop :=
  IsGreatest
    {stop |
      ∃ units : Line,
        units <+: line ∧ units.Paired ∧ units.length = stop}
    col

/- A line that has cells and starts with no unit. -/
def LacksUnit (line : Line) : Prop :=
  line ≠ [] ∧
    ∀ units : Line, units <+: line → units.Paired → units = []

/-
  A line starts with no unit if its first cell is not narrow and
  has no second half after it.  This holds of a second half, and
  of a first half that the line or another cell cuts off.
-/
theorem lacksUnit_cons
    {cell : Cell}
    (hNarrow : cell.width ≠ 1)
    (hAlone :
      cell.isWide = true → rest.continuationAt 0 = false) :
    LacksUnit (cell :: rest) := by
  refine ⟨List.cons_ne_nil cell rest, ?_⟩
  intro units hUnits hPaired
  cases hPaired with
  | nil => rfl
  | narrow one later =>
      rcases List.cons_prefix_cons.mp hUnits with ⟨rfl, -⟩
      exact absurd one hNarrow
  | pair wide continued later =>
      rcases List.cons_prefix_cons.mp hUnits with ⟨rfl, hSecond⟩
      rcases hSecond with ⟨after, rfl⟩
      have hNone := hAlone wide
      change Cell.isContinuation _ = false at hNone
      exact absurd continued (Bool.eq_false_iff.mp hNone)

/- What follows whole units in whole units is whole units. -/
theorem Paired.of_append
    (h : whole.Paired)
    (hAll : Paired (whole ++ more)) :
    more.Paired := by
  induction h with
  | nil => exact hAll
  | narrow one _ ih =>
      apply ih
      refine (hAll.of_not_wide ?_).2
      simp [((Cell.width_eq_one_iff _).mp one).1]
  | pair wide _ _ ih =>
      apply ih
      exact (hAll.of_wide wide).2

/-
  Units end before what starts with no unit.  A longer run would
  go on with units there, for it starts with the same ones.
-/
theorem unitsEndAt_append
    (hWhole : whole.Paired)
    (hRest : rest.LacksUnit) :
    UnitsEndAt (whole ++ rest) whole.length := by
  constructor
  · exact ⟨whole, List.prefix_append whole rest, hWhole, rfl⟩
  · rintro stop ⟨units, hUnits, hPaired, rfl⟩
    by_contra hLonger
    have hStart : whole <+: units := by
      apply List.prefix_of_prefix_length_le
        (List.prefix_append whole rest) hUnits
      omega
    rcases hStart with ⟨later, rfl⟩
    have hLater : later <+: rest :=
      (List.prefix_append_right_inj whole).mp hUnits
    have hNone := hRest.2 later hLater (hWhole.of_append hPaired)
    simp [hNone] at hLonger

------------------------------------------------------------
-- Checking
------------------------------------------------------------

/-
  By the cases of the check: it passes over whole units and
  stops at a column where no unit starts.
-/
theorem exists_units_of_pairingFaultFrom?
    {start fault : Nat}
    (h : pairingFaultFrom? start line = some fault) :
    ∃ whole rest,
      line = whole ++ rest ∧ Paired whole ∧ LacksUnit rest ∧
        fault = start + whole.length := by
  fun_induction pairingFaultFrom? start line with
  | case1 => cases h
  | case2 start cell rest hContinued =>
      obtain rfl : start = fault := Option.some.inj h
      refine ⟨[], cell :: rest, rfl, .nil, lacksUnit_cons ?_ ?_, rfl⟩
      · simp [Cell.width_of_isContinuation hContinued]
      · simp [Cell.isWide_of_isContinuation hContinued]
  | case3 start cell hContinued hWide =>
      obtain rfl : start = fault := Option.some.inj h
      refine ⟨[], [cell], rfl, .nil, lacksUnit_cons ?_ ?_, rfl⟩
      · simp [Cell.width_of_isWide hWide]
      · exact fun _ => rfl
  | case4 start cell hContinued hWide next rest hNext ih =>
      rcases ih h with ⟨whole, rest, rfl, hWhole, hRest, rfl⟩
      refine
        ⟨cell :: next :: whole, rest, rfl, .pair hWide hNext hWhole,
          hRest, ?_⟩
      simp only [List.length_cons]
      omega
  | case5 start cell hContinued hWide next rest hNext =>
      obtain rfl : start = fault := Option.some.inj h
      refine
        ⟨[], cell :: next :: rest, rfl, .nil, lacksUnit_cons ?_ ?_,
          rfl⟩
      · simp [Cell.width_of_isWide hWide]
      · exact fun _ => Bool.eq_false_iff.mpr hNext
  | case6 start cell rest hContinued hWide ih =>
      rcases ih h with ⟨whole, rest, rfl, hWhole, hRest, rfl⟩
      have hOne : cell.width = 1 := by
        apply cell.width_eq_one_iff.mpr
        simp [hWide, hContinued]
      refine
        ⟨cell :: whole, rest, rfl, .narrow hOne hWhole, hRest, ?_⟩
      simp only [List.length_cons]
      omega

theorem unitsEndAt_of_pairingFault?
    (h : line.pairingFault? = some col) :
    line.UnitsEndAt col := by
  rcases exists_units_of_pairingFaultFrom? h with
    ⟨whole, rest, rfl, hWhole, hRest, rfl⟩
  rw [Nat.zero_add]
  exact unitsEndAt_append hWhole hRest

/- A line is refused at the column where its units end. -/
theorem check_eq_error_iff
    (line : Line)
    (row : Nat)
    (e : Error) :
    line.check row = .error e ↔
      ¬ line.HalvesMeet ∧
        ∃ col, line.UnitsEndAt col ∧
          e = .invalidWideCharPairing row col := by
  rw [← paired_iff_halvesMeet, ← line.check_eq_ok_iff row, check]
  cases hFault : line.pairingFault? with
  | none => simp
  | some col =>
      have hEnd := unitsEndAt_of_pairingFault? hFault
      constructor
      · intro h
        exact ⟨nofun, col, hEnd, (Except.error.inj h).symm⟩
      · rintro ⟨-, other, hOther, rfl⟩
        rw [hEnd.unique hOther]

end Line

------------------------------------------------------------
-- Grids
------------------------------------------------------------

namespace Grid

/-
  The first line of a grid in which a half misses its other half,
  and the column where the units of that line end.
-/
structure FirstFaultAt
    (g : Grid)
    (p : Position) : Prop where
  first :
    IsLeast
      {row | ∃ line, g.line? row = some line ∧ ¬ line.HalvesMeet}
      p.row
  column : ∃ line, g.line? p.row = some line ∧ line.UnitsEndAt p.col

variable {g : Grid}
variable {p q : Position}
variable {e : Error}

theorem FirstFaultAt.unique
    (h : g.FirstFaultAt p)
    (h' : g.FirstFaultAt q) :
    p = q := by
  have hRow : p.row = q.row := h.first.unique h'.first
  rcases h.column with ⟨line, hLine, hEnd⟩
  rcases h'.column with ⟨other, hOther, hOtherEnd⟩
  obtain rfl : line = other := by
    rw [← hRow, hLine] at hOther
    exact Option.some.inj hOther
  have hCol : p.col = q.col := hEnd.unique hOtherEnd
  exact congrArg₂ Position.mk hRow hCol

/- Lines are checked from the first one on. -/
theorem exists_line_of_checkLines
    {row : Nat}
    {lines : List Line}
    (h : checkLines row lines = .error e) :
    ∃ above line below,
      lines = above ++ line :: below ∧
        (∀ earlier ∈ above, earlier.HalvesMeet) ∧
          line.check (row + above.length) = .error e := by
  induction lines generalizing row with
  | nil => cases h
  | cons line rest ih =>
      rw [checkLines] at h
      cases hCheck : line.check row with
      | error e' =>
          rw [hCheck] at h
          obtain rfl : e' = e := Except.error.inj h
          exact ⟨[], line, rest, rfl, by simp, hCheck⟩
      | ok done =>
          rw [hCheck] at h
          rcases ih h with ⟨above, bad, below, rfl, hAbove, hBad⟩
          have hMeet : line.HalvesMeet := by
            apply Line.paired_iff_halvesMeet.mp
            exact (line.check_eq_ok_iff row).mp hCheck
          refine ⟨line :: above, bad, below, rfl, ?_, ?_⟩
          · exact List.forall_mem_cons.mpr ⟨hMeet, hAbove⟩
          · rwa [List.length_cons, Nat.add_comm above.length,
              ← Nat.add_assoc]

theorem exists_firstFaultAt_of_validate
    (h : g.validate = .error e) :
    ∃ p, g.FirstFaultAt p ∧
      e = .invalidWideCharPairing p.row p.col := by
  rcases exists_line_of_checkLines h with
    ⟨above, line, below, hLines, hAbove, hCheck⟩
  rcases (line.check_eq_error_iff _ e).mp hCheck with
    ⟨hFault, col, hEnd, rfl⟩
  have hLine : g.line? above.length = some line := by
    simp [line?, hLines]
  rw [Nat.zero_add]
  refine ⟨⟨above.length, col⟩, ⟨⟨⟨line, hLine, hFault⟩, ?_⟩, ?_⟩, rfl⟩
  · rintro row ⟨other, hOther, hOtherFault⟩
    by_contra hBefore
    have hMember : other ∈ above := by
      rw [line?, hLines,
        List.getElem?_append_left (Nat.lt_of_not_le hBefore)]
        at hOther
      exact List.mem_of_getElem? hOther
    exact hOtherFault (hAbove other hMember)
  · exact ⟨line, hLine, hEnd⟩

/-
  A grid is refused at its first fault.  One that has a fault is
  refused at some first fault, and there is no other.
-/
theorem validate_eq_error_iff
    (g : Grid)
    (e : Error) :
    g.validate = .error e ↔
      ∃ p, g.FirstFaultAt p ∧
        e = .invalidWideCharPairing p.row p.col := by
  constructor
  · exact exists_firstFaultAt_of_validate
  · rintro ⟨p, hFault, rfl⟩
    cases hValid : g.validate with
    | ok done =>
        rcases hFault.first.1 with ⟨line, hLine, hParted⟩
        have hPaired := paired_of_line hValid hLine
        exact absurd (Line.paired_iff_halvesMeet.mp hPaired) hParted
    | error e =>
        rcases exists_firstFaultAt_of_validate hValid with
          ⟨q, hOther, rfl⟩
        rw [hFault.unique hOther]

end Grid

------------------------------------------------------------
-- Storage
------------------------------------------------------------

namespace Storage

/-
  Rows looked up in a storage are checked as the lines they are.
  By the lines left: those above take up the cells before them.
-/
theorem gives_checkRows?
    {above lines : List Line}
    {cols : Nat}
    (hLength : ∀ line ∈ above ++ lines, line.length = cols)
    (hRows : (above ++ lines).length ≤ maxColumn)
    (hCols : cols ≤ maxColumn) :
    (checkRows? (above ++ lines).flatten cols above.length
      lines.length).Gives (Grid.checkLines above.length lines) := by
  induction lines generalizing above with
  | nil => exact gives_pure ()
  | cons line rest ih =>
      have hLine : line.length = cols := by
        apply hLength
        simp
      have hAbove : above.flatten.length = above.length * cols :=
        Grid.length_flatten fun earlier hEarlier =>
          hLength earlier (List.mem_append_left _ hEarlier)
      have hPart :
          part? (above ++ line :: rest).flatten
            (above.length * cols) cols = some line := by
        rw [List.flatten_append, List.flatten_cons, ← hAbove,
          part?_append (Nat.le_of_eq hLine.symm), ← hLine,
          List.take_length]
      have hRow : above.length ≤ maxColumn := by
        rw [List.length_append] at hRows
        omega
      have hRest := @ih (above ++ [line]) (by simpa using hLength)
        (by simpa using hRows)
      rw [List.append_assoc, List.singleton_append,
        List.length_append, List.length_singleton] at hRest
      refine gives_look hPart ?_
      refine gives_look (column?_of_le hRow) ?_
      refine (Line.gives_check? ?_).bind fun _ _ => hRest
      rwa [hLine]

/-
  A grid is validated in its storage as it is by its lines.
  Lines of no cells leave no rows behind, and have no fault.
-/
theorem gives_validate?
    (g : Grid)
    (hRows : g.rows ≤ maxColumn)
    (hCols : g.cols ≤ maxColumn) :
    (validate? g.cells g.cols).Gives g.validate := by
  rcases Nat.eq_zero_or_pos g.cols with hNone | hSome
  · have hEmpty : g.isEmpty = true := by
      simp [Grid.isEmpty, hNone]
    have hCells : g.cells.length = 0 := by
      rw [g.length_cells, hNone, Nat.mul_zero]
    rw [Grid.validate_of_isEmpty hEmpty, validate?, hCells, hNone]
    exact gives_pure ()
  · have hCount : g.cells.length / g.cols = g.lines.length := by
      rw [g.length_cells, Nat.mul_div_cancel _ hSome,
        g.lines_length]
    have hLines : g.lines.length ≤ maxColumn := by
      rwa [g.lines_length]
    rw [validate?, Nat.max_eq_left hSome, hCount]
    exact @gives_checkRows? [] g.lines g.cols g.line_length hLines hCols

end Storage

------------------------------------------------------------
-- First Faults
------------------------------------------------------------

namespace Grid

/-
  A line passes its check when its halves meet, and is refused
  where its units end otherwise.  A grid passes when all of its
  lines do, and is refused at its first fault otherwise.  Looking
  up every cell and row comes to the same, with no place that is
  missing or does not fit into sixteen bits.
-/
theorem points_at_first_fault :
    (∀ (line : Line) (row : Nat),
      (line.check row = .ok () ↔ line.HalvesMeet) ∧
        (∀ e, line.check row = .error e ↔
          ¬ line.HalvesMeet ∧
            ∃ col, line.UnitsEndAt col ∧
              e = .invalidWideCharPairing row col) ∧
        (line.length ≤ maxColumn →
          (line.check? row).Gives (line.check row))) ∧
      ∀ g : Grid,
        (g.validate = .ok () ↔ ∀ line ∈ g.lines, line.HalvesMeet) ∧
          (∀ e, g.validate = .error e ↔
            ∃ p, g.FirstFaultAt p ∧
              e = .invalidWideCharPairing p.row p.col) ∧
          (g.rows ≤ maxColumn → g.cols ≤ maxColumn →
            (Storage.validate? g.cells g.cols).Gives g.validate) := by
  refine ⟨?lines, ?grids⟩
  case lines =>
    intro line row
    refine ⟨?_, line.check_eq_error_iff row, Line.gives_check?⟩
    exact (line.check_eq_ok_iff row).trans Line.paired_iff_halvesMeet
  case grids =>
    intro g
    refine ⟨?_, g.validate_eq_error_iff, Storage.gives_validate? g⟩
    refine g.validate_eq_ok_iff.trans ?_
    exact
      forall_congr' fun line =>
        imp_congr_right fun _ => Line.paired_iff_halvesMeet

/- A letter and a pair over a pair with a half too many. -/
def halfTooMany : Grid :=
  (((Grid.blank 2 4).put 0 0 ['a', '漢'] .default).put 1 0 ['漢']
    .default).setRaw 1 2 (.continuation .default)

/- The half is found in its line, in the grid and in its storage. -/
theorem points_at_first_fault_halfTooMany :
    halfTooMany.rows ≤ maxColumn ∧ halfTooMany.cols ≤ maxColumn ∧
      halfTooMany.FirstFaultAt ⟨1, 2⟩ ∧
        (Storage.validate? halfTooMany.cells halfTooMany.cols).Gives
          (.error (.invalidWideCharPairing 1 2)) ∧
        ∃ line, halfTooMany.line? 1 = some line ∧
          line.UnitsEndAt 2 ∧
          (line.check? 1).Gives
            (.error (.invalidWideCharPairing 1 2)) := by
  have hRows : halfTooMany.rows ≤ maxColumn := by decide +kernel
  have hCols : halfTooMany.cols ≤ maxColumn := by decide +kernel
  have hValid :
      halfTooMany.validate = .error (.invalidWideCharPairing 1 2) := by
    decide +kernel
  rcases points_at_first_fault with ⟨hLines, hGrids⟩
  rcases hGrids halfTooMany with ⟨-, hRefused, hStored⟩
  rcases (hRefused _).mp hValid with ⟨⟨row, col⟩, hFault, hPlace⟩
  injection hPlace with hRow hCol
  subst hRow hCol
  rcases hFault.column with ⟨line, hLine, hEnd⟩
  have hCheck : line.check 1 = .error (.invalidWideCharPairing 1 2) := by
    apply ((hLines line 1).2.1 _).mpr
    rcases hFault.first.1 with ⟨other, hOther, hParted⟩
    obtain rfl : line = other :=
      Option.some.inj (hLine.symm.trans hOther)
    exact ⟨hParted, 2, hEnd, rfl⟩
  have hLength : line.length ≤ maxColumn := by
    rwa [length_of_line hLine]
  refine ⟨hRows, hCols, hFault, ?_, line, hLine, hEnd, ?_⟩
  · rw [← hValid]
    exact hStored hRows hCols
  · rw [← hCheck]
    exact (hLines line 1).2.2 hLength

end Grid

end Redraw
