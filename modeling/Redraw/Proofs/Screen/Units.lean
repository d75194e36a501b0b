import Redraw.Cell
import Redraw.Proofs.Screen.Printing

/-
  Units on a screen: what writing one cell does to a line.

  A simple cell is one visible character, as wide as the cell,
  with any number of marks.  Written where no second half is, it
  takes its columns and destroys a pair that starts in its last
  one; nothing else changes.

  Key definitions include:
    * `Cell.IsSimple`
    * `Screen.overwritten`

  Main declarations:
    * `Screen.printAll_cell`
-/

namespace Redraw

------------------------------------------------------------
-- Simple Cells
------------------------------------------------------------

namespace Cell

/-
  A cell whose text is one character as wide as the cell and
  marks without a width.
-/
def IsSimple (c : Cell) : Prop :=
  c.isContinuation = false →
    c.text.map charWidth = c.width :: c.text.tail.map fun _ => 0

instance : DecidablePred IsSimple := by
  intro c
  unfold IsSimple
  infer_instance

/- No cell holds a control character. -/
theorem all_isPrintable_text
    (c : Cell) :
    c.text.all isPrintable = true := by
  have hInk (ink : Ink) : ink.chars.all isPrintable = true := by
    rw [List.all_eq_true]
    intro d hd
    have hControl := List.any_eq_false.mp ink.noControl d hd
    simpa [isPrintable] using hControl
  rcases c with ⟨glyph, style⟩
  cases glyph with
  | narrow ink => exact hInk ink
  | wide ink => exact hInk ink
  | continuation => rfl

/- The width of a unit. -/
theorem width_of_not_isContinuation
    {c : Cell}
    (h : c.isContinuation = false) :
    c.width = 1 ∨ c.width = 2 := by
  rcases c with ⟨glyph, style⟩
  cases glyph <;> simp_all [isContinuation, width]

/- The visible character of a simple cell and its marks. -/
theorem IsSimple.exists_lead
    {c : Cell}
    (h : c.IsSimple)
    (hUnit : c.isContinuation = false) :
    ∃ lead marks,
      c.text = lead :: marks ∧ charWidth lead = c.width ∧
        ∀ m ∈ marks, charWidth m = 0 := by
  have hWidths := h hUnit
  cases hText : c.text with
  | nil => simp [hText] at hWidths
  | cons lead marks =>
      simp only [hText, List.map_cons, List.tail_cons,
        List.cons.injEq] at hWidths
      exact ⟨lead, marks, rfl, hWidths.1,
        List.map_inj_left.mp hWidths.2⟩

theorem IsSimple.sum_text
    {c : Cell}
    (h : c.IsSimple)
    (hUnit : c.isContinuation = false) :
    (c.text.map charWidth).sum = c.width := by
  have hMarks : (c.text.tail.map fun _ => 0).sum = 0 := by
    rw [List.map_const', List.sum_replicate_nat, Nat.mul_zero]
  rw [h hUnit, List.sum_cons, hMarks, Nat.add_zero]

end Cell

namespace Screen

------------------------------------------------------------
-- Marks
------------------------------------------------------------

/- Marks are added to the last character. -/
theorem printAll_marks
    {s : Screen}
    {p : Position}
    (hLast : s.last = some p)
    {marks : List Char}
    (hMarks : ∀ m ∈ marks, charWidth m = 0) :
    s.printAll marks =
      s.setSlot p.row p.col
        { s.slots p.row p.col with
          text := (s.slots p.row p.col).text ++ marks } := by
  induction marks generalizing s with
  | nil =>
      have hSame :
          (fun r c =>
            if r = p.row ∧ c = p.col then s.slots p.row p.col
            else s.slots r c) = s.slots := by
        funext r c
        split
        · rename_i hHere
          rw [hHere.1, hHere.2]
        · rfl
      simp only [printAll, List.foldl_nil, setSlot,
        List.append_nil, hSame]
  | cons m marks ih =>
      have hCombine :
          s.print m =
            s.setSlot p.row p.col
              { s.slots p.row p.col with
                text := (s.slots p.row p.col).text ++ [m] } := by
        rw [print_of_mark s (hMarks m (by simp)), combine, hLast]
      change (s.print m).printAll marks = _
      rw [hCombine]
      refine
        (ih (s := s.setSlot p.row p.col _) hLast
          (fun d hd => hMarks d (by simp [hd]))).trans ?_
      simp only [setSlot, and_self, if_true, List.append_assoc,
        List.singleton_append]
      congr 1
      funext r c
      split <;> rfl

------------------------------------------------------------
-- Units
------------------------------------------------------------

/- The screen after a unit was written at the cursor. -/
def overwritten
    (s : Screen)
    (chars : List Char)
    (width : Nat) : Screen :=
  { s with
    slots := fun r c =>
      if r = s.row ∧ c = s.col then ⟨chars, s.style, false⟩
      else if r = s.row ∧ s.col < c ∧ c < s.col + width then
        ⟨[], s.style, true⟩
      else if r = s.row ∧ c = s.col + width ∧ c < s.cols
          ∧ (s.slots r c).continuation = true then
        .blank .default
      else s.slots r c
    col := if s.cols ≤ s.col + width then s.cols - 1
      else s.col + width
    pendingWrap := s.cols ≤ s.col + width
    last := some ⟨s.row, s.col⟩ }

/- A narrow character takes one column. -/
theorem place_narrow
    {s : Screen}
    (hFree : (s.slots s.row s.col).continuation = false)
    (c : Char) :
    s.place c 1 = s.overwritten [c] 1 := by
  simp only [place, overwritten, splitPair_eq, setSlot, hFree,
    Nat.reduceEqDiff, if_false, Bool.false_eq_true, and_false]
  congr 1
  funext r k
  by_cases hHere : r = s.row ∧ k = s.col
  · simp only [hHere, and_self, if_true]
  · have hNone : ¬ (r = s.row ∧ s.col < k ∧ k < s.col + 1) := by
      omega
    simp only [if_neg hHere, if_neg hNone]
    by_cases hRow : r = s.row
    · rw [hRow]
    · simp [hRow]

/- A wide character takes two columns. -/
theorem place_wide
    {s : Screen}
    (hFree : (s.slots s.row s.col).continuation = false)
    (c : Char) :
    s.place c 2 = s.overwritten [c] 2 := by
  simp only [place, overwritten, splitPair_eq, setSlot, hFree,
    if_true, Bool.false_eq_true, and_false, if_false]
  congr 1
  funext r k
  by_cases hRow : r = s.row
  · by_cases hFirst : k = s.col
    · simp [hRow, hFirst]
    · by_cases hSecond : k = s.col + 1
      · simp [hRow, hSecond]
      · have hNone : ¬ (s.col < k ∧ k < s.col + 2) := by omega
        simp [hRow, hFirst, hSecond, hNone, Nat.add_assoc]
  · simp [hRow]

/- A simple cell is written as one unit. -/
theorem printAll_cell
    {s : Screen}
    {cell : Cell}
    (hSimple : cell.IsSimple)
    (hUnit : cell.isContinuation = false)
    (hPending : s.pendingWrap = false)
    (hFree : (s.slots s.row s.col).continuation = false)
    (hFits : s.col + cell.width ≤ s.cols) :
    s.printAll cell.text = s.overwritten cell.text cell.width := by
  rcases hSimple.exists_lead hUnit with
    ⟨lead, marks, hText, hWidth, hMarks⟩
  have hPrintable : isPrintable lead = true := by
    have hAll := cell.all_isPrintable_text
    rw [hText, List.all_cons, Bool.and_eq_true] at hAll
    exact hAll.1
  have hPositive : 0 < charWidth lead := by
    rcases Cell.width_of_not_isContinuation hUnit with h | h <;>
      omega
  have hLead :
      s.print lead = s.overwritten [lead] cell.width := by
    rw [print_of_fits hPrintable hPositive hPending (by omega),
      hWidth]
    rcases Cell.width_of_not_isContinuation hUnit with h | h
    · rw [h]
      exact place_narrow hFree lead
    · rw [h]
      exact place_wide hFree lead
  rw [hText]
  change (s.print lead).printAll marks = _
  rw [hLead, printAll_marks rfl hMarks]
  simp only [overwritten, setSlot, and_self, if_true,
    List.singleton_append]
  congr 1
  funext r k
  split <;> rfl

end Screen

end Redraw
