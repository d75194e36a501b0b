import Redraw.Proofs.Grid.Pairing

/-
  Placement: what a change does to each column of a line.

  In a matched line the halves of a pair stand side by side.
  Read column by column, writing a cell fills its own columns,
  turns the halves it parted into spaces and leaves the rest
  alone.

  Key definitions include:
    * `Line.Sided`: matched lines, told by their columns

  Main declarations:
    * `Line.Paired.cell?_place`
    * `Line.Sided.matched`, `Line.Matched.resize`
-/

namespace Redraw

------------------------------------------------------------
-- Cells
------------------------------------------------------------

namespace Cell

theorem isWide_continuation
    (style : Style) :
    (continuation style).isWide = false := rfl

/- A cell that is not a second half spans one column or two. -/
theorem span_of_unit
    {c : Cell}
    (h : c.isContinuation = false) :
    c.isWide = false ∧ c.width = 1 ∨
      c.isWide = true ∧ c.width = 2 := by
  rcases c with ⟨glyph, style⟩
  cases glyph <;> simp_all [isContinuation, isWide, width]

theorem width_erased
    (c : Cell) :
    c.erased.width = 1 := rfl

theorem isWide_erased
    (c : Cell) :
    c.erased.isWide = false := rfl

theorem isContinuation_erased
    (c : Cell) :
    c.erased.isContinuation = false := rfl

theorem any_isWide_map_erased
    (o : Option Cell) :
    (o.map erased).any isWide = false := by
  cases o <;> rfl

end Cell

namespace Line

------------------------------------------------------------
-- Halves by Column
------------------------------------------------------------

theorem wideAt_eq_true_iff
    (line : Line)
    (col : Nat) :
    line.wideAt col = true ↔
      ∃ cell, line.cell? col = some cell ∧ cell.isWide = true := by
  unfold wideAt
  cases line.cell? col <;> simp

theorem continuationAt_eq_true_iff
    (line : Line)
    (col : Nat) :
    line.continuationAt col = true ↔
      ∃ cell,
        line.cell? col = some cell ∧ cell.isContinuation = true := by
  unfold continuationAt
  cases line.cell? col <;> simp

theorem wideAt_eq_false_of_continuationAt
    (line : Line)
    (col : Nat)
    (h : line.continuationAt col = true) :
    line.wideAt col = false := by
  rcases (line.continuationAt_eq_true_iff col).mp h with
    ⟨cell, hCell, hContinued⟩
  refine Bool.eq_false_iff.mpr fun hWide => ?_
  rw [wideAt, hCell] at hWide
  have hUnit := Cell.isContinuation_of_isWide (c := cell) hWide
  simp [hContinued] at hUnit

/-
  The column after a first half holds a second half in its
  style, and the column before a second half a first half.
-/
structure Sided (line : Line) : Prop where
  after :
    ∀ {col : Nat} {cell : Cell},
      line.cell? col = some cell → cell.isWide = true →
        line.cell? (col + 1) = some (.continuation cell.style)
  before :
    ∀ {col : Nat},
      line.continuationAt col = true →
        ∃ first, col = first + 1 ∧ line.wideAt first = true

theorem Sided.continuationAt_zero
    {line : Line}
    (h : line.Sided) :
    line.continuationAt 0 = false := by
  refine Bool.eq_false_iff.mpr fun hContinued => ?_
  rcases h.before hContinued with ⟨first, hFirst, -⟩
  omega

theorem Sided.continuationAt_succ
    {line : Line}
    (h : line.Sided)
    (col : Nat) :
    line.continuationAt (col + 1) = line.wideAt col := by
  rw [Bool.eq_iff_iff]
  constructor
  · intro hContinued
    rcases h.before hContinued with ⟨first, hFirst, hWide⟩
    obtain rfl : col = first := by omega
    exact hWide
  · intro hWide
    rcases (line.wideAt_eq_true_iff col).mp hWide with
      ⟨cell, hCell, hWide⟩
    rw [continuationAt, h.after hCell hWide]
    rfl

/- What follows a cut between units. -/
theorem Sided.drop
    {line : Line}
    (h : line.Sided)
    {col : Nat}
    (hCut : line.continuationAt col = false) :
    Sided (line.drop col) where
  after := by
    intro j cell hCell hWide
    simp only [cell?, List.getElem?_drop] at hCell ⊢
    exact h.after hCell hWide
  before := by
    intro j hContinued
    simp only [continuationAt, wideAt, cell?,
      List.getElem?_drop] at *
    rcases h.before hContinued with ⟨first, hFirst, hWide⟩
    by_cases hInside : col ≤ first
    · refine ⟨first - col, by omega, ?_⟩
      rw [Nat.add_sub_cancel' hInside]
      exact hWide
    · obtain ⟨rfl, rfl⟩ : j = 0 ∧ col = first + 1 := by omega
      exact absurd hContinued (Bool.eq_false_iff.mp hCut)

------------------------------------------------------------
-- Matched Lines
------------------------------------------------------------

theorem Matched.paired
    {line : Line}
    (h : Matched line) :
    Paired line := by
  induction h with
  | nil => exact .nil
  | narrow one more ih => exact .narrow one ih
  | pair wide more ih => exact .pair wide rfl ih

theorem Matched.append
    {line rest : Line}
    (h : Matched line)
    (hRest : Matched rest) :
    Matched (line ++ rest) := by
  induction h with
  | nil => exact hRest
  | narrow one more ih => exact .narrow one ih
  | pair wide more ih => exact .pair wide ih

theorem matched_of_narrow
    {line : Line}
    (h : ∀ cell ∈ line, cell.width = 1) :
    Matched line := by
  induction line with
  | nil => exact .nil
  | cons cell rest ih =>
      exact .narrow (h cell (.head _))
        (ih fun c hc => h c (.tail _ hc))

theorem matched_blank
    (cols : Nat) :
    Matched (blank cols) := by
  apply matched_of_narrow
  intro cell hCell
  rw [List.eq_of_mem_replicate hCell]
  rfl

theorem matched_filled
    (style : Style)
    (line : Line) :
    Matched (line.map fun _ => Cell.blank style) := by
  apply matched_of_narrow
  intro cell hCell
  rcases List.mem_map.mp hCell with ⟨old, -, rfl⟩
  rfl

theorem Matched.sided
    {line : Line}
    (h : Matched line) :
    line.Sided where
  after := by
    intro col cell hCell hWide
    induction h generalizing col with
    | nil => simp [cell?] at hCell
    | @narrow first rest one more ih =>
        cases col with
        | zero =>
            obtain rfl : first = cell := by simpa [cell?] using hCell
            simp [Cell.width_of_isWide hWide] at one
        | succ col => exact ih hCell
    | @pair first rest wide more ih =>
        rcases col with _ | _ | col
        · obtain rfl : first = cell := by simpa [cell?] using hCell
          rfl
        · obtain rfl : Cell.continuation first.style = cell := by
            simpa [cell?] using hCell
          simp [Cell.isWide_continuation] at hWide
        · exact ih hCell
  before := fun hContinued =>
    h.paired.wideAt_of_continuationAt hContinued

theorem Sided.head?_of_isWide
    {cell : Cell}
    {rest : Line}
    (h : Sided (cell :: rest))
    (hWide : cell.isWide = true) :
    rest.head? = some (.continuation cell.style) := by
  rw [List.head?_eq_getElem?]
  exact h.after rfl hWide

/-
  By the cases of the check: a column that starts a unit of a
  sided line is not a second half, and what follows the unit is
  sided again.
-/
theorem Sided.matched
    {line : Line}
    (h : line.Sided) :
    Matched line := by
  fun_induction pairingFaultFrom? 0 line with
  | case1 => exact .nil
  | case2 col cell rest hContinued =>
      exact absurd hContinued
        (Bool.eq_false_iff.mp h.continuationAt_zero)
  | case3 col cell hContinued hWide =>
      simpa using h.head?_of_isWide hWide
  | case4 col cell hContinued hWide next rest hNext ih =>
      obtain rfl : next = .continuation cell.style := by
        simpa using h.head?_of_isWide hWide
      have hCut := h.continuationAt_succ 1
      exact .pair hWide (ih (h.drop hCut))
  | case5 col cell hContinued hWide next rest hNext =>
      have hAfter := h.continuationAt_succ 0
      exact absurd (hAfter.trans hWide) hNext
  | case6 col cell rest hContinued hWide ih =>
      have hEnds : cell.isWide = false := by simpa using hWide
      have hOne : cell.width = 1 :=
        cell.width_eq_one_iff.mpr ⟨hEnds, by simpa using hContinued⟩
      have hCut := (h.continuationAt_succ 0).trans hEnds
      exact .narrow hOne (ih (h.drop hCut))

------------------------------------------------------------
-- Erasing Halves
------------------------------------------------------------

theorem cell?_eraseAt
    (line : Line)
    (col j : Nat) :
    (line.eraseAt col).cell? j =
      if j = col then (line.cell? j).map Cell.erased
      else line.cell? j := by
  simp only [eraseAt, cell?, List.getElem?_modify, eq_comm (a := j)]
  split <;> simp

theorem cell?_set
    (line : Line)
    {col : Nat}
    (h : col < line.length)
    (cell : Cell)
    (j : Nat) :
    cell? (List.set line col cell) j =
      if j = col then some cell else line.cell? j := by
  simp only [cell?, List.getElem?_set, eq_comm (a := j), h]
  split <;> rfl

theorem cell?_breakPair
    (line : Line)
    (col j : Nat) :
    (line.breakPair col).cell? j =
      if (j + 1 = col ∧ line.wideAt j ∧ line.continuationAt col) ∨
          (j = col + 1 ∧ line.wideAt col ∧ line.continuationAt j) then
        (line.cell? j).map Cell.erased
      else line.cell? j := by
  have hBefore (j : Nat) :
      (line.breakBefore col).cell? j =
        if j + 1 = col ∧ line.wideAt j ∧ line.continuationAt col then
          (line.cell? j).map Cell.erased
        else line.cell? j := by
    unfold breakBefore
    split
    · grind [cell?_eraseAt]
    · grind
  have hWide :
      (line.breakBefore col).wideAt col = line.wideAt col := by
    rw [wideAt, hBefore, if_neg (by omega), wideAt]
  have hContinued :
      (line.breakBefore col).continuationAt (col + 1) =
        line.continuationAt (col + 1) := by
    rw [continuationAt, hBefore, if_neg (by omega), continuationAt]
  unfold breakPair breakAfter
  rw [hWide, hContinued]
  split
  · grind [cell?_eraseAt]
  · grind

/- In a line of whole units either half tells of the other. -/
theorem Paired.cell?_breakPair
    {line : Line}
    (h : line.Paired)
    (col j : Nat) :
    (line.breakPair col).cell? j =
      if (j + 1 = col ∧ line.wideAt j) ∨
          (j = col + 1 ∧ line.continuationAt j) then
        (line.cell? j).map Cell.erased
      else line.cell? j := by
  rw [Line.cell?_breakPair]
  have hAfter := h.continuationAt_eq_wideAt j
  have hBefore := h.continuationAt_eq_wideAt col
  grind

------------------------------------------------------------
-- Writing a Cell
------------------------------------------------------------

/-
  A written cell takes its own columns.  A first half left of
  them or a second half right of them was parted and becomes a
  space; every other column keeps its cell.
-/
theorem Paired.cell?_place
    {line : Line}
    (h : line.Paired)
    {col : Nat}
    {cell : Cell}
    (hUnit : cell.isContinuation = false)
    (hFits : col + cell.width ≤ line.length)
    (j : Nat) :
    (line.place col cell).cell? j =
      if j = col then some cell
      else if cell.isWide ∧ j = col + 1 then
        some (.continuation cell.style)
      else if (j + 1 = col ∧ line.wideAt j) ∨
          (j = col + cell.width ∧ line.continuationAt j) then
        (line.cell? j).map Cell.erased
      else line.cell? j := by
  rcases cell with ⟨glyph, style⟩
  cases glyph with
  | narrow ink =>
      have hCol : col < (line.breakPair col).length := by
        rw [length_breakPair]
        exact hFits
      change cell? ((line.breakPair col).set col _) j = _
      rw [cell?_set _ hCol, h.cell?_breakPair]
      grind [Cell.isWide, Cell.width]
  | wide ink =>
      have hFits : col + 2 ≤ line.length := hFits
      have hCol :
          col + 1 <
            ((line.breakPair col).breakPair (col + 1)).length := by
        rw [length_breakPair, length_breakPair]
        omega
      have hInside : ¬ line.length ≤ col + 1 := by omega
      unfold place
      simp only [hInside, if_false]
      rw [cell?_set _ (by rw [List.length_set]; omega),
        cell?_set _ hCol, Line.cell?_breakPair]
      -- Breaking at `col` has not touched the pair that the
      -- second column may be the first half of.
      have hFirst :
          (line.breakPair col).wideAt (col + 1) =
            line.wideAt (col + 1) := by
        have hHere := h.cell?_breakPair col (col + 1)
        have hHalf :=
          line.wideAt_eq_false_of_continuationAt (col + 1)
        have hErased :=
          Cell.any_isWide_map_erased (line.cell? (col + 1))
        grind [wideAt]
      have hSecond :
          (line.breakPair col).continuationAt (col + 2) =
            line.continuationAt (col + 2) := by
        rw [continuationAt, h.cell?_breakPair, if_neg (by omega),
          continuationAt]
      have hNext := h.continuationAt_eq_wideAt (col + 1)
      have hSame := h.cell?_breakPair col j
      grind [Cell.isWide, Cell.width]
  | continuation => simp [Cell.isContinuation] at hUnit

/- Nothing is written past the end of a line. -/
theorem place_of_length_le
    {line : Line}
    {col : Nat}
    (h : line.length ≤ col)
    (cell : Cell) :
    line.place col cell = line := by
  have hNone : line.cell? col = none := List.getElem?_eq_none h
  have hWhole : line.breakPair col = line := by
    simp [breakPair, breakBefore, breakAfter, continuationAt, wideAt,
      hNone]
  rcases cell with ⟨glyph, style⟩
  cases glyph with
  | narrow ink => simp [place, hWhole, List.set_eq_of_length_le h]
  | wide ink =>
      have hEnd : line.length ≤ col + 1 := by omega
      simp [place, hWhole, hEnd, List.set_eq_of_length_le h]
  | continuation => rfl

/- A wide cell that would cross the end is written as a space. -/
theorem place_of_crosses
    {line : Line}
    {col : Nat}
    {cell : Cell}
    (hWide : cell.isWide = true)
    (hEnd : line.length ≤ col + 1) :
    line.place col cell = line.place col cell.erased := by
  rcases cell with ⟨glyph, style⟩
  cases glyph with
  | narrow ink => simp [Cell.isWide] at hWide
  | wide ink => simp [place, hEnd, Cell.erased, Cell.blank]
  | continuation => simp [Cell.isWide] at hWide

/- A continuation is never written by itself. -/
theorem place_of_isContinuation
    (line : Line)
    (col : Nat)
    {cell : Cell}
    (h : cell.isContinuation = true) :
    line.place col cell = line := by
  rcases cell with ⟨glyph, style⟩
  cases glyph <;> simp_all [Cell.isContinuation, place]

------------------------------------------------------------
-- Resizing
------------------------------------------------------------

/- What precedes a cut between units. -/
theorem Matched.take
    {line : Line}
    (h : Matched line)
    {col : Nat}
    (hCut : line.continuationAt col = false) :
    Matched (line.take col) := by
  induction h generalizing col with
  | nil => simpa using Matched.nil
  | narrow one more ih =>
      cases col with
      | zero => exact .nil
      | succ col => exact .narrow one (ih hCut)
  | pair wide more ih =>
      rcases col with _ | _ | col
      · exact .nil
      · cases hCut
      · exact .pair wide (ih hCut)

theorem wideAt_take_succ
    (line : Line)
    (col : Nat) :
    wideAt (line.take (col + 1)) col = line.wideAt col := by
  simp [wideAt, cell?]

theorem eraseAt_take_succ
    {line : Line}
    {col : Nat}
    {cell : Cell}
    (h : line.cell? col = some cell) :
    eraseAt (line.take (col + 1)) col =
      line.take col ++ [cell.erased] := by
  rcases List.getElem?_eq_some_iff.mp h with ⟨hCol, rfl⟩
  have hStart : (line.take col).length = col :=
    List.length_take_of_le (Nat.le_of_lt hCol)
  rw [eraseAt, ← List.take_modify,
    List.modify_eq_take_cons_drop hCol, List.take_append, hStart,
    List.take_of_length_le (by omega)]
  simp

/-
  A new end between two units cuts nothing.  One within a pair
  leaves its first half, which becomes a space.
-/
theorem Matched.resize
    {line : Line}
    (h : Matched line)
    (cols : Nat) :
    Matched (line.resize cols) := by
  by_cases hGrown : line.length < cols
  · rw [Line.resize, if_pos hGrown]
    exact h.append (matched_blank _)
  simp only [Line.resize, if_neg hGrown]
  cases cols with
  | zero => exact .nil
  | succ col =>
      rw [Nat.add_sub_cancel, wideAt_take_succ]
      cases hWide : line.wideAt col with
      | true =>
          have hUnit : line.continuationAt col = false := by
            refine Bool.eq_false_iff.mpr fun hContinued => ?_
            have hLone :=
              line.wideAt_eq_false_of_continuationAt col hContinued
            exact Bool.eq_false_iff.mp hLone hWide
          rcases (line.wideAt_eq_true_iff col).mp hWide with
            ⟨cell, hCell, -⟩
          rw [if_pos rfl, eraseAt_take_succ hCell]
          exact (h.take hUnit).append (.narrow rfl .nil)
      | false =>
          have hCut := (h.sided.continuationAt_succ col).trans hWide
          simpa using h.take hCut

end Line

end Redraw
