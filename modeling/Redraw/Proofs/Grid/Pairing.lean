import Redraw.Grid.Units
import Mathlib.Algebra.GroupWithZero.Nat

/-
  Pairing: what checking a line by its columns says about its
  units.

  In a line of whole units a second half follows every first
  half and nothing else, so a line may be cut at any column
  that is not a second half.

  Main declarations:
    * `Line.check_eq_ok_iff`
    * `Line.Paired.continuationAt_succ`
    * `Line.Paired.wideAt_of_continuationAt`
    * `Line.Paired.continuationAt_eq_wideAt`
    * `Line.Paired.drop`, `Line.Paired.take`
-/

namespace Redraw

namespace Cell

theorem width_of_isWide
    {c : Cell}
    (h : c.isWide = true) :
    c.width = 2 := by
  rcases c with ⟨glyph, style⟩
  cases glyph <;> simp_all [isWide, width]

theorem width_of_isContinuation
    {c : Cell}
    (h : c.isContinuation = true) :
    c.width = 0 :=
  (width_eq_zero_iff c).mpr h

/- A cell that is neither half of a pair is narrow. -/
theorem width_eq_one_iff
    (c : Cell) :
    c.width = 1 ↔ c.isWide = false ∧ c.isContinuation = false := by
  rcases c with ⟨glyph, style⟩
  cases glyph <;> simp [isWide, isContinuation, width]

theorem isContinuation_of_isWide
    {c : Cell}
    (h : c.isWide = true) :
    c.isContinuation = false := by
  rcases c with ⟨glyph, style⟩
  cases glyph <;> simp_all [isWide, isContinuation]

theorem isWide_of_isContinuation
    {c : Cell}
    (h : c.isContinuation = true) :
    c.isWide = false := by
  rcases c with ⟨glyph, style⟩
  cases glyph <;> simp_all [isWide, isContinuation]

/- A space takes a column of its own. -/
theorem isContinuation_of_isBlank
    {c : Cell}
    (h : c.isBlank = true) :
    c.isContinuation = false := by
  rcases c with ⟨glyph, style⟩
  cases glyph <;>
    simp_all [isBlank, isSpace, text, isContinuation]

end Cell

namespace Line

------------------------------------------------------------
-- First Units
------------------------------------------------------------

/- A wide cell is followed by its second half and whole units. -/
theorem Paired.of_wide
    {cell second : Cell}
    {rest : Line}
    (h : Paired (cell :: second :: rest))
    (hWide : cell.isWide = true) :
    second.isContinuation = true ∧ Paired rest := by
  cases h with
  | narrow one more => simp [Cell.width_of_isWide hWide] at one
  | pair wide continued more => exact ⟨continued, more⟩

theorem Paired.not_wide_last
    {cell : Cell}
    (h : Paired [cell]) :
    ¬ cell.isWide = true := by
  cases h with
  | narrow one more =>
      intro hWide
      simp [Cell.width_of_isWide hWide] at one

/- Any other cell is a unit by itself. -/
theorem Paired.of_not_wide
    {cell : Cell}
    {rest : Line}
    (h : Paired (cell :: rest))
    (hNarrow : ¬ cell.isWide = true) :
    cell.width = 1 ∧ Paired rest := by
  cases h with
  | narrow one more => exact ⟨one, more⟩
  | pair wide continued more => exact absurd wide hNarrow

------------------------------------------------------------
-- Checking
------------------------------------------------------------

/- A line has no fault when it is made of whole units. -/
theorem pairingFaultFrom?_eq_none_iff
    (col : Nat)
    (line : Line) :
    pairingFaultFrom? col line = none ↔ Paired line := by
  fun_induction pairingFaultFrom? col line with
  | case1 => exact ⟨fun _ => .nil, fun _ => rfl⟩
  | case2 col cell rest hContinued =>
      refine ⟨fun h => by simp at h, fun h => ?_⟩
      cases h with
      | narrow one more =>
          simp [Cell.width_of_isContinuation hContinued] at one
      | pair wide continued more =>
          simp [Cell.isContinuation_of_isWide wide] at hContinued
  | case3 col cell hContinued hWide =>
      exact
        ⟨fun h => by simp at h, fun h => absurd hWide h.not_wide_last⟩
  | case4 col cell hContinued hWide next rest hNext ih =>
      rw [ih]
      exact ⟨fun h => .pair hWide hNext h, fun h => (h.of_wide hWide).2⟩
  | case5 col cell hContinued hWide next rest hNext =>
      exact
        ⟨fun h => by simp at h,
          fun h => absurd (h.of_wide hWide).1 hNext⟩
  | case6 col cell rest hContinued hWide ih =>
      rw [ih]
      have hOne : cell.width = 1 :=
        cell.width_eq_one_iff.mpr ⟨by simpa using hWide,
          by simpa using hContinued⟩
      exact ⟨fun h => .narrow hOne h, fun h => (h.of_not_wide hWide).2⟩

/- A line passes its check when it is made of whole units. -/
theorem check_eq_ok_iff
    (line : Line)
    (row : Nat) :
    line.check row = .ok () ↔ Paired line := by
  rw [← pairingFaultFrom?_eq_none_iff 0]
  unfold check pairingFault?
  split <;> simp_all

------------------------------------------------------------
-- Halves
------------------------------------------------------------

@[simp] theorem continuationAt_cons_succ
    (cell : Cell)
    (line : Line)
    (col : Nat) :
    continuationAt (cell :: line) (col + 1) =
      line.continuationAt col := rfl

@[simp] theorem wideAt_cons_succ
    (cell : Cell)
    (line : Line)
    (col : Nat) :
    wideAt (cell :: line) (col + 1) = line.wideAt col := rfl

/- A line of whole units starts with no second half. -/
theorem Paired.continuationAt_zero
    {line : Line}
    (h : Paired line) :
    line.continuationAt 0 = false := by
  cases h with
  | nil => rfl
  | narrow one more => exact (Cell.width_eq_one_iff _).mp one |>.2
  | pair wide continued more =>
      exact Cell.isContinuation_of_isWide wide

/- A first half is followed by a second half. -/
theorem Paired.continuationAt_succ
    {line : Line}
    (h : Paired line)
    {col : Nat}
    (hWide : line.wideAt col = true) :
    line.continuationAt (col + 1) = true := by
  induction h generalizing col with
  | nil => simp [wideAt, cell?] at hWide
  | @narrow cell rest one more ih =>
      cases col with
      | zero =>
          have hNarrow := ((Cell.width_eq_one_iff _).mp one).1
          change cell.isWide = true at hWide
          simp [hNarrow] at hWide
      | succ col => exact ih hWide
  | @pair first second rest wide continued more ih =>
      match col, hWide with
      | 0, _ => exact continued
      | 1, hWide =>
          change second.isWide = true at hWide
          simp [Cell.isContinuation_of_isWide hWide] at continued
      | col + 2, hWide => exact ih hWide

/- A second half follows a first half. -/
theorem Paired.wideAt_of_continuationAt
    {line : Line}
    (h : Paired line)
    {col : Nat}
    (hContinued : line.continuationAt col = true) :
    ∃ before, col = before + 1 ∧ line.wideAt before = true := by
  induction h generalizing col with
  | nil => simp [continuationAt, cell?] at hContinued
  | @narrow cell rest one more ih =>
      cases col with
      | zero =>
          have hNarrow := ((Cell.width_eq_one_iff _).mp one).2
          change cell.isContinuation = true at hContinued
          simp [hNarrow] at hContinued
      | succ col =>
          rcases ih hContinued with ⟨before, rfl, hWide⟩
          exact ⟨before + 1, rfl, hWide⟩
  | @pair first second rest wide continued more ih =>
      match col, hContinued with
      | 0, hContinued =>
          change first.isContinuation = true at hContinued
          simp [Cell.isContinuation_of_isWide wide] at hContinued
      | 1, _ => exact ⟨0, rfl, wide⟩
      | col + 2, hContinued =>
          rcases ih hContinued with ⟨before, rfl, hWide⟩
          exact ⟨before + 2, rfl, hWide⟩

/- So either half tells of the other. -/
theorem Paired.continuationAt_eq_wideAt
    {line : Line}
    (h : Paired line)
    (col : Nat) :
    line.continuationAt (col + 1) = line.wideAt col := by
  rw [Bool.eq_iff_iff]
  constructor
  · intro hContinued
    rcases h.wideAt_of_continuationAt hContinued with
      ⟨first, hFirst, hWide⟩
    obtain rfl : col = first := by omega
    exact hWide
  · exact h.continuationAt_succ

------------------------------------------------------------
-- Cutting
------------------------------------------------------------

/- What follows a cut between units. -/
theorem Paired.drop
    {line : Line}
    (h : Paired line)
    {col : Nat}
    (hCut : line.continuationAt col = false) :
    Paired (line.drop col) := by
  induction h generalizing col with
  | nil => simpa using Paired.nil
  | narrow one more ih =>
      cases col with
      | zero => exact .narrow one more
      | succ col => exact ih hCut
  | @pair first second rest wide continued more ih =>
      match col, hCut with
      | 0, _ => exact .pair wide continued more
      | 1, hCut =>
          change second.isContinuation = false at hCut
          simp [continued] at hCut
      | col + 2, hCut => exact ih hCut

/- What precedes a cut between units. -/
theorem Paired.take
    {line : Line}
    (h : Paired line)
    {col : Nat}
    (hCut : line.continuationAt col = false) :
    Paired (line.take col) := by
  induction h generalizing col with
  | nil => simpa using Paired.nil
  | narrow one more ih =>
      cases col with
      | zero => exact .nil
      | succ col => exact .narrow one (ih hCut)
  | @pair first second rest wide continued more ih =>
      match col, hCut with
      | 0, _ => exact .nil
      | 1, hCut =>
          change second.isContinuation = false at hCut
          simp [continued] at hCut
      | col + 2, hCut => exact .pair wide continued (ih hCut)

theorem continuationAt_take
    (line : Line)
    {col stop : Nat}
    (h : line.continuationAt col = false) :
    continuationAt (line.take stop) col = false := by
  simp only [continuationAt, cell?, List.getElem?_take]
  split
  · exact h
  · rfl

/-
  A line whose halves tell of each other is made of whole units.
  By the cases of the check: a column that starts a unit is not
  a second half, and neither is the one after the unit.
-/
theorem paired_of_halves
    {line : Line}
    (hZero : line.continuationAt 0 = false)
    (hSucc :
      ∀ col, line.continuationAt (col + 1) = line.wideAt col) :
    Paired line := by
  fun_induction pairingFaultFrom? 0 line with
  | case1 => exact .nil
  | case2 col cell rest hContinued =>
      exact absurd hContinued (Bool.eq_false_iff.mp hZero)
  | case3 col cell hContinued hWide =>
      exact absurd ((hSucc 0).trans hWide) Bool.false_ne_true
  | case4 col cell hContinued hWide next rest hNext ih =>
      have hHalf := Cell.isWide_of_isContinuation hNext
      exact
        .pair hWide hNext
          (ih ((hSucc 1).trans hHalf) fun c => hSucc (c + 2))
  | case5 col cell hContinued hWide next rest hNext =>
      exact absurd ((hSucc 0).trans hWide) hNext
  | case6 col cell rest hContinued hWide ih =>
      have hEnds : cell.isWide = false := by simpa using hWide
      have hOne : cell.width = 1 :=
        cell.width_eq_one_iff.mpr ⟨hEnds, by simpa using hContinued⟩
      exact
        .narrow hOne (ih ((hSucc 0).trans hEnds) fun c => hSucc (c + 1))

/- What is between two cuts. -/
theorem Paired.between
    {line : Line}
    (h : Paired line)
    {start stop : Nat}
    (hStart : line.continuationAt start = false)
    (hStop : line.continuationAt stop = false) :
    Paired ((line.take stop).drop start) :=
  (h.take hStop).drop (continuationAt_take line hStart)

/- Whole units after whole units. -/
theorem Paired.append
    {line more : Line}
    (h : line.Paired)
    (hMore : more.Paired) :
    Paired (line ++ more) := by
  induction h with
  | nil => exact hMore
  | narrow one _ ih => exact .narrow one ih
  | pair wide continued _ ih => exact .pair wide continued ih

/- The units of a line take all its columns. -/
theorem Paired.sum_width
    {line : Line}
    (h : Paired line) :
    ((line.filter fun c => !c.isContinuation).map Cell.width).sum =
      line.length := by
  induction h with
  | nil => rfl
  | narrow one more ih =>
      have hUnit := ((Cell.width_eq_one_iff _).mp one).2
      simp only [hUnit, Bool.not_false, List.filter_cons_of_pos,
        List.map_cons, List.sum_cons, ih, one, List.length_cons]
      omega
  | pair wide continued more ih =>
      have hTwo := Cell.width_of_isWide wide
      have hUnit := Cell.isContinuation_of_isWide wide
      simp only [hUnit, continued, Bool.not_false, Bool.not_true,
        List.filter_cons_of_pos, Bool.false_eq_true,
        not_false_eq_true, List.filter_cons_of_neg, List.map_cons,
        List.sum_cons, ih, hTwo, List.length_cons]
      omega

end Line

end Redraw
