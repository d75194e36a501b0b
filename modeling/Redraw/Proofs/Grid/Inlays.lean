import Redraw.Proofs.Grid.Placement

/-
  Inlays: what a line holds after cells were written over it.

  Cells that are written one after another come to lie side by
  side as one part of the line.  Only a half right beside the
  part can have lost its other half to it, and becomes a space.

  Key definitions include:
    * `Line.inlaid`, `Line.Inlays`: a part laid over a line
    * `Line.spread`: cells with the second halves they take
    * `Line.clip`: what fits into some columns

  Main declarations:
    * `Line.Inlays.append`
    * `Line.Inlays.paired`, `Line.Inlays.matched`
    * `Line.Matched.place`, `Line.Matched.write`
    * `Line.Matched.overlay`
    * `Line.Paired.inlays_place`, `Line.Paired.inlays_overlay`
    * `Line.write_eq_overlay`
-/

namespace Redraw

namespace Line

------------------------------------------------------------
-- Parts of Lines
------------------------------------------------------------

/-
  The cell in a column once a part has been laid over a line: a
  cell of the part in its own columns, a space for a half beside
  it whose other half it covers, and else what was there.
-/
def inlaid
    (line : Line)
    (col : Nat)
    (part : Line)
    (j : Nat) : Option Cell :=
  if col ≤ j ∧ j < col + part.length then
    part.cell? (j - col)
  else if 0 < part.length ∧
      (j + 1 = col ∧ line.wideAt j ∨
        j = col + part.length ∧ line.continuationAt j) then
    (line.cell? j).map Cell.erased
  else
    line.cell? j

/- A line becomes another when a part is laid over it. -/
def Inlays
    (line line' : Line)
    (col : Nat)
    (part : Line) : Prop :=
  ∀ j, line'.cell? j = line.inlaid col part j

variable {line line' line'' : Line}
variable {col : Nat}
variable {part more : Line}

theorem inlays_nil
    (line : Line)
    (col : Nat) :
    line.Inlays line col [] := by
  intro j
  rw [inlaid, if_neg (by simp), if_neg (by simp)]

theorem cell?_append
    (part more : Line)
    (j : Nat) :
    cell? (part ++ more) j =
      if j < part.length then part.cell? j
      else more.cell? (j - part.length) :=
  List.getElem?_append

/- The last cell of whole units is no first half. -/
theorem Paired.wideAt_last
    (h : part.Paired)
    {j : Nat}
    (hLast : j + 1 = part.length) :
    part.wideAt j = false := by
  rw [← h.continuationAt_eq_wideAt, hLast, continuationAt, cell?,
    List.getElem?_eq_none (Nat.le_refl _)]
  rfl

theorem Inlays.eq_of_nil
    (h : line.Inlays line' col []) :
    line' = line :=
  List.ext_getElem? fun j => (h j).trans (inlays_nil line col j).symm

section

variable (h : line.Inlays line' col part)
variable {j : Nat}
include h

theorem Inlays.cell?_inside
    (hFrom : col ≤ j)
    (hTo : j < col + part.length) :
    line'.cell? j = part.cell? (j - col) := by
  rw [h j, inlaid, if_pos ⟨hFrom, hTo⟩]

/- Far from a part, nothing is changed. -/
theorem Inlays.cell?_far
    (hFar : j + 1 < col ∨ col + part.length < j) :
    line'.cell? j = line.cell? j := by
  rw [h j, inlaid, if_neg (by omega), if_neg (by omega)]

end

/-
  Parts laid side by side are one part.  By the columns: where
  they meet, the earlier one ends with a whole unit.
-/
theorem Inlays.append
    (h : line.Inlays line' col part)
    (hPart : part.Paired)
    (hMore : line'.Inlays line'' (col + part.length) more) :
    line.Inlays line'' col (part ++ more) := by
  rcases part.length.eq_zero_or_pos with hNil | hSome
  · obtain rfl := List.length_eq_zero_iff.mp hNil
    rw [h.eq_of_nil] at hMore
    simpa using hMore
  rcases more.length.eq_zero_or_pos with hNil | hSomeMore
  · obtain rfl := List.length_eq_zero_iff.mp hNil
    rw [hMore.eq_of_nil]
    simpa using h
  intro j
  have hHere := h j
  have hLast :
      j + 1 = col + part.length → line'.wideAt j = false := by
    intro hEnd
    rw [wideAt, h.cell?_inside (by omega) (by omega)]
    exact hPart.wideAt_last (by omega)
  have hAfter :
      j = col + part.length + more.length →
        line'.continuationAt j = line.continuationAt j := by
    intro hEnd
    rw [continuationAt, h.cell?_far (by omega), continuationAt]
  have hAll : 0 < part.length + more.length := by omega
  rw [hMore j]
  unfold inlaid at hHere ⊢
  rw [List.length_append, cell?_append]
  simp only [hSome, hSomeMore, hAll, true_and] at hHere ⊢
  grind

/- A first half in the new line: one in the part or beside it. -/
theorem Inlays.wideAt_eq
    (h : line.Inlays line' col part)
    (j : Nat) :
    line'.wideAt j =
      if col ≤ j ∧ j < col + part.length then part.wideAt (j - col)
      else if 0 < part.length ∧ j + 1 = col then false
      else line.wideAt j := by
  have hLone := line.wideAt_eq_false_of_continuationAt j
  rw [wideAt, h j, inlaid]
  split
  · rfl
  · split
    · rw [Cell.any_isWide_map_erased]
      grind
    · simp only [wideAt] at *
      grind

/- A second half in the new line: likewise. -/
theorem Inlays.continuationAt_eq
    (h : line.Inlays line' col part)
    (j : Nat) :
    line'.continuationAt j =
      if col ≤ j ∧ j < col + part.length then
        part.continuationAt (j - col)
      else if 0 < part.length ∧ j = col + part.length then false
      else line.continuationAt j := by
  have hLone := line.wideAt_eq_false_of_continuationAt j
  rw [continuationAt, h j, inlaid]
  split
  · rfl
  · split
    · have hErased :
          ((line.cell? j).map Cell.erased).any Cell.isContinuation =
            false := by
        cases line.cell? j <;> rfl
      rw [hErased]
      grind
    · simp only [continuationAt] at *
      grind

/- Whole units laid over whole units leave whole units. -/
theorem Inlays.paired
    (h : line.Inlays line' col part)
    (hLine : line.Paired)
    (hPart : part.Paired) :
    line'.Paired := by
  apply paired_of_halves
  · have hZero := hLine.continuationAt_zero
    have hFirst := hPart.continuationAt_zero
    rw [h.continuationAt_eq]
    grind
  · intro j
    rw [h.continuationAt_eq, h.wideAt_eq]
    have hLine := hLine.continuationAt_eq_wideAt j
    have hInside := hPart.continuationAt_eq_wideAt (j - col)
    have hFirst := hPart.continuationAt_zero
    have hLast :
        j + 1 = col + part.length → col ≤ j →
          part.wideAt (j - col) = false := by
      intro hEnd hFrom
      exact hPart.wideAt_last (by omega)
    grind

/-
  So do matched ones.  By what a column with a first half holds,
  which is a cell of the part or one that lies clear of it.
-/
theorem Inlays.matched
    (h : line.Inlays line' col part)
    (hLine : line.Matched)
    (hPart : part.Matched) :
    line'.Matched := by
  have hPaired := h.paired hLine.paired hPart.paired
  apply Sided.matched
  refine ⟨?_, fun hSecond => hPaired.wideAt_of_continuationAt hSecond⟩
  intro j cell hCell hWide
  rw [h j, inlaid] at hCell
  split at hCell
  case isTrue hInside =>
    have hNext := hPart.sided.after hCell hWide
    have hEnd := (List.getElem?_eq_some_iff.mp hNext).1
    rw [h.cell?_inside (by omega) (by omega),
      Nat.sub_add_comm hInside.1]
    exact hNext
  case isFalse hOutside =>
  split at hCell
  case isTrue hParted =>
    rcases Option.map_eq_some_iff.mp hCell with ⟨old, -, rfl⟩
    exact absurd hWide (by simp [Cell.isWide_erased])
  case isFalse hKept =>
    have hFirst : line.wideAt j = true :=
      (line.wideAt_eq_true_iff j).mpr ⟨cell, hCell, hWide⟩
    have hSecond :=
      (hLine.paired.continuationAt_eq_wideAt j).trans hFirst
    have hLone := line.wideAt_eq_false_of_continuationAt _ hSecond
    rw [h (j + 1), inlaid, if_neg (by grind), if_neg (by grind)]
    exact hLine.sided.after hCell hWide

end Line

------------------------------------------------------------
-- Units
------------------------------------------------------------

/- A cell with the second half that it takes along. -/
def Cell.unit (c : Cell) : Line :=
  if c.isWide then [c, .continuation c.style] else [c]

theorem Cell.unit_of_narrow
    {c : Cell}
    (h : c.isWide = false) :
    c.unit = [c] := by
  rw [unit, h, if_neg Bool.false_ne_true]

theorem Cell.unit_of_wide
    {c : Cell}
    (h : c.isWide = true) :
    c.unit = [c, .continuation c.style] := by
  rw [unit, h, if_pos rfl]

namespace Line

variable {line : Line}
variable {col : Nat}
variable {cell : Cell}

theorem matched_unit
    (hUnit : cell.isContinuation = false) :
    Matched cell.unit := by
  rcases Cell.span_of_unit hUnit with ⟨hNarrow, hOne⟩ | ⟨hWide, -⟩
  · rw [Cell.unit_of_narrow hNarrow]
    exact .narrow hOne .nil
  · rw [Cell.unit_of_wide hWide]
    exact .pair hWide .nil

theorem length_unit
    (hUnit : cell.isContinuation = false) :
    cell.unit.length = cell.width := by
  rcases Cell.span_of_unit hUnit with
    ⟨hNarrow, hOne⟩ | ⟨hWide, hTwo⟩
  · rw [Cell.unit_of_narrow hNarrow, hOne]
    rfl
  · rw [Cell.unit_of_wide hWide, hTwo]
    rfl

/- A written cell is laid over the line with its second half. -/
theorem Paired.inlays_place
    (h : line.Paired)
    (hUnit : cell.isContinuation = false)
    (hFits : col + cell.width ≤ line.length) :
    line.Inlays (line.place col cell) col cell.unit := by
  intro j
  rw [h.cell?_place hUnit hFits, inlaid, length_unit hUnit]
  rcases Cell.span_of_unit hUnit with
    ⟨hNarrow, hOne⟩ | ⟨hWide, hTwo⟩
  · have hFirst : cell? [cell] 0 = some cell := rfl
    rw [Cell.unit_of_narrow hNarrow, hOne, hNarrow]
    grind
  · let second := Cell.continuation cell.style
    have hFirst : cell? [cell, second] 0 = some cell := rfl
    have hSecond : cell? [cell, second] 1 = some second := rfl
    rw [Cell.unit_of_wide hWide, hTwo, hWide]
    grind

/- So every way to write a cell keeps a line matched. -/
theorem Matched.place
    {line : Line}
    (h : Matched line)
    (col : Nat)
    (cell : Cell) :
    Matched (line.place col cell) := by
  by_cases hOut : line.length ≤ col
  · rwa [place_of_length_le hOut]
  cases hUnit : cell.isContinuation with
  | true => rwa [place_of_isContinuation line col hUnit]
  | false =>
    by_cases hFits : col + cell.width ≤ line.length
    · exact
        (h.paired.inlays_place hUnit hFits).matched h
          (matched_unit hUnit)
    · have hWide : cell.isWide = true := by
        rcases Cell.span_of_unit hUnit with ⟨-, hOne⟩ | ⟨hWide, -⟩
        · omega
        · exact hWide
      have hTwo := Cell.width_of_isWide hWide
      rw [place_of_crosses hWide (by omega)]
      have hErased := Cell.isContinuation_erased cell
      refine
        (h.paired.inlays_place hErased ?_).matched h
          (matched_unit hErased)
      rw [Cell.width_erased]
      omega

theorem Matched.write
    {line : Line}
    (h : Matched line)
    (col : Nat)
    (cells : List Cell) :
    Matched (line.write col cells).1 := by
  fun_induction Line.write line col cells with
  | case1 => exact h
  | case2 => exact h
  | case3 line col cell => exact h.place col cell.erased
  | case4 line col cell rest _ _ ih => exact ih (h.place col cell)

theorem Matched.overlay
    {line : Line}
    (h : Matched line)
    (col : Nat)
    (cells : List Cell) :
    Matched (line.overlay col cells) := by
  fun_induction Line.overlay line col cells with
  | case1 => exact h
  | case2 => exact h
  | case3 line col cell rest _ ih => exact ih (h.place col cell)

------------------------------------------------------------
-- Parts That Fit
------------------------------------------------------------

/- Cells with the second halves that they take along. -/
def spread (cells : List Cell) : Line :=
  cells.flatMap Cell.unit

/-
  The cells that fit into some columns.  A first half in the
  last of them becomes a space.
-/
def clip
    (room : Nat)
    (cells : Line) : Line :=
  (cells.take room).mapIdx fun i cell =>
    if cell.isWide ∧ i + 1 = room then cell.erased else cell

theorem length_clip
    (room : Nat)
    (cells : Line) :
    (clip room cells).length = min room cells.length := by
  simp [clip]

theorem cell?_clip
    (room : Nat)
    (cells : Line)
    {i : Nat}
    (h : i < room) :
    (clip room cells).cell? i =
      (cells.cell? i).map fun cell =>
        if cell.isWide ∧ i + 1 = room then cell.erased else cell := by
  simp only [clip, cell?, List.getElem?_mapIdx,
    List.getElem?_take_of_lt h]

theorem clip_cons
    (room : Nat)
    (cell : Cell)
    (rest : Line) :
    clip (room + 1) (cell :: rest) =
      (if cell.isWide ∧ room = 0 then cell.erased else cell) ::
        clip room rest := by
  simp [clip, List.mapIdx_cons, eq_comm (a := 0)]

------------------------------------------------------------
-- Copied Cells
------------------------------------------------------------

theorem overlay_of_length_le
    (h : line.length ≤ col)
    (cells : List Cell) :
    line.overlay col cells = line := by
  cases cells with
  | nil => rfl
  | cons cell rest => rw [overlay, if_pos h]

/- A continuation comes with its first half only. -/
theorem overlay_pair
    (h : col + 1 < line.length)
    (first : Cell)
    (style : Style)
    (rest : Line) :
    line.overlay col (first :: .continuation style :: rest) =
      (line.place col first).overlay (col + 2) rest := by
  rw [overlay, if_neg (by omega), overlay,
    if_neg (by rw [length_place]; omega)]
  rfl

/-
  A line that is copied is laid over another, as far as it fits.
  By its units: each is laid right after the ones before it.
-/
theorem Paired.inlays_overlay
    (h : line.Paired)
    {top : Line}
    (hTop : top.Matched)
    (col : Nat) :
    line.Inlays (line.overlay col top) col
      (clip (line.length - col) top) := by
  induction hTop generalizing line col with
  | nil => simpa [clip, overlay] using inlays_nil line col
  | @narrow cell rest one more ih =>
      by_cases hEnd : line.length ≤ col
      · rw [overlay_of_length_le hEnd, Nat.sub_eq_zero_of_le hEnd]
        exact inlays_nil line col
      have hUnit := ((Cell.width_eq_one_iff _).mp one).2
      have hNarrow := ((Cell.width_eq_one_iff _).mp one).1
      have hPlaced : line.Inlays (line.place col cell) col cell.unit :=
        h.inlays_place hUnit (by omega)
      have hPaired := (matched_unit hUnit).paired
      have hRest := ih (hPlaced.paired h hPaired) (col + 1)
      rw [length_place] at hRest
      rw [overlay, if_neg hEnd,
        show line.length - col = line.length - (col + 1) + 1 by omega,
        clip_cons, hNarrow, if_neg (by simp)]
      rw [Cell.unit_of_narrow hNarrow] at hPlaced hPaired
      exact hPlaced.append hPaired hRest
  | @pair first rest wide more ih =>
      by_cases hEnd : line.length ≤ col
      · rw [overlay_of_length_le hEnd, Nat.sub_eq_zero_of_le hEnd]
        exact inlays_nil line col
      by_cases hLast : line.length ≤ col + 1
      · rw [overlay, if_neg hEnd,
          overlay_of_length_le (by rw [length_place]; exact hLast),
          place_of_crosses wide hLast,
          show line.length - col = 0 + 1 by omega, clip_cons,
          if_pos ⟨wide, rfl⟩]
        apply h.inlays_place (Cell.isContinuation_erased first)
        rw [Cell.width_erased]
        omega
      · have hUnit := Cell.isContinuation_of_isWide wide
        have hTwo := Cell.width_of_isWide wide
        have hPlaced :
            line.Inlays (line.place col first) col first.unit :=
          h.inlays_place hUnit (by omega)
        have hPaired := (matched_unit hUnit).paired
        have hRest := ih (hPlaced.paired h hPaired) (col + 2)
        rw [length_place] at hRest
        rw [overlay_pair (by omega),
          show line.length - col = line.length - (col + 2) + 1 + 1 by
            omega,
          clip_cons, if_neg (by simp), clip_cons,
          if_neg (by simp [Cell.isWide_continuation])]
        rw [Cell.unit_of_wide wide] at hPlaced hPaired
        exact hPlaced.append hPaired hRest

------------------------------------------------------------
-- Written Cells
------------------------------------------------------------

variable {cells : List Cell}

theorem matched_spread
    (hUnits : ∀ c ∈ cells, c.isContinuation = false) :
    Matched (spread cells) := by
  induction cells with
  | nil => exact .nil
  | cons cell rest ih =>
      rw [List.forall_mem_cons] at hUnits
      exact (matched_unit hUnits.1).append (ih hUnits.2)

theorem length_spread
    (hUnits : ∀ c ∈ cells, c.isContinuation = false) :
    (spread cells).length = (cells.map Cell.width).sum := by
  induction cells with
  | nil => rfl
  | cons cell rest ih =>
      rw [List.forall_mem_cons] at hUnits
      rw [List.map_cons, List.sum_cons, ← ih hUnits.2,
        ← length_unit hUnits.1]
      exact List.length_append

/-
  Writing cells is copying them with their second halves.  By
  the writing: a wide cell that crosses the end is the last.
-/
theorem write_eq_overlay
    (line : Line)
    (col : Nat)
    (hUnits : ∀ c ∈ cells, c.isContinuation = false) :
    (line.write col cells).1 = line.overlay col (spread cells) := by
  fun_induction write line col cells with
  | case1 => rfl
  | case2 line col cell rest hEnd =>
      exact (overlay_of_length_le hEnd _).symm
  | case3 line col cell rest hInside hCrosses =>
      simp only [Bool.and_eq_true, decide_eq_true_eq] at hCrosses
      rw [spread, List.flatMap_cons, Cell.unit_of_wide hCrosses.1,
        ← place_of_crosses hCrosses.1 hCrosses.2, List.cons_append,
        overlay, if_neg hInside,
        overlay_of_length_le (by rw [length_place]; exact hCrosses.2)]
  | case4 line col cell rest hInside hCrosses ih =>
      rw [List.forall_mem_cons] at hUnits
      rw [ih hUnits.2, spread, spread, List.flatMap_cons]
      rcases Cell.span_of_unit hUnits.1 with
        ⟨hNarrow, hOne⟩ | ⟨hWide, hTwo⟩
      · rw [Cell.unit_of_narrow hNarrow, hOne, List.singleton_append,
          overlay, if_neg hInside]
      · have hFits : col + 1 < line.length := by
          simpa [hWide] using hCrosses
        rw [Cell.unit_of_wide hWide, hTwo]
        exact (overlay_pair hFits cell cell.style _).symm

/- The column reached is past the cells that fit. -/
theorem column_write
    (line : Line)
    (col : Nat)
    (hUnits : ∀ c ∈ cells, c.isContinuation = false) :
    (line.write col cells).2 =
      col + min (cells.map Cell.width).sum (line.length - col) := by
  fun_induction write line col cells with
  | case1 => simp
  | case2 line col cell rest hEnd =>
      rw [Nat.sub_eq_zero_of_le hEnd, Nat.min_zero, Nat.add_zero]
  | case3 line col cell rest hInside hCrosses =>
      simp only [Bool.and_eq_true, decide_eq_true_eq] at hCrosses
      have hTwo := Cell.width_of_isWide hCrosses.1
      rw [List.map_cons, List.sum_cons]
      omega
  | case4 line col cell rest hInside hCrosses ih =>
      rw [List.forall_mem_cons] at hUnits
      have hFits : col + cell.width ≤ line.length := by
        rcases Cell.span_of_unit hUnits.1 with
          ⟨hNarrow, hOne⟩ | ⟨hWide, hTwo⟩
        · omega
        · have hSecond : col + 1 < line.length := by
            simpa [hWide] using hCrosses
          omega
      rw [ih hUnits.2, length_place, List.map_cons, List.sum_cons]
      omega

end Line

end Redraw
