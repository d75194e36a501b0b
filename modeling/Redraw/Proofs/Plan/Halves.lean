import Redraw.Proofs.Plan.Contents
import Redraw.Proofs.Plan.Replay

/-
  Halves: a wide character is drawn whole or not at all.

  A terminal erases the other half of a wide character when one
  half is drawn over.  No step of a plan begins or ends between
  two halves of the new screen.  What a plan leaves alone is
  equal in both screens, so that a pair of the old one is never
  drawn over by half either, and nothing is ever erased that
  the plan does not draw.

  Key definitions include:
    * `Picture`, `Picture.PairAt`: two halves next to each other
    * `Area.Cuts`: an area that begins or ends between them
    * `Area.paint`: what a terminal shows after drawing over it
    * `Plan.Completes`, `Plan.KeepsPairs`

  Main declarations:
    * `Depicts.isWholeIn`, `Area.IsWholeIn.paint_of_shown`
    * `Plan.MadeFor.completes`, `Plan.MadeFor.keepsPairs`
-/

namespace Redraw

------------------------------------------------------------
-- Pairs in a Picture
------------------------------------------------------------

/- The position one column further. -/
def Position.next (p : Position) : Position :=
  ⟨p.row, p.col + 1⟩

/- The position one column before. -/
def Position.before (p : Position) : Position :=
  ⟨p.row, p.col - 1⟩

/- What a terminal shows at each position. -/
abbrev Picture :=
  Position → Option Cell

/- A grid as a terminal shows it. -/
def Grid.picture (g : Grid) : Picture :=
  fun p => g.cell? p.row p.col

theorem Grid.picture_of_line
    {g : Grid}
    {p : Position}
    {line : Line}
    (h : g.line? p.row = some line) :
    g.picture p = line.cell? p.col :=
  g.cell?_of_line h p.col

/- A wide character with its two halves. -/
def Picture.PairAt
    (pic : Picture)
    (p : Position) : Prop :=
  (pic p).any Cell.isWide = true ∧
    (pic p.next).any Cell.isContinuation = true

instance
    (pic : Picture)
    (p : Position) :
    Decidable (pic.PairAt p) := by
  unfold Picture.PairAt
  infer_instance

namespace Area

/- Whether an area begins or ends right after a position. -/
def Cuts
    (a : Area)
    (p : Position) : Prop :=
  a.row = p.row ∧ (a.start = p.col + 1 ∨ a.stop = p.col + 1)

instance
    (a : Area)
    (p : Position) :
    Decidable (a.Cuts p) := by
  unfold Cuts
  infer_instance

/- Whether a position holds a half of a pair that is cut. -/
def Splits
    (a : Area)
    (pic : Picture)
    (p : Position) : Prop :=
  (pic.PairAt p ∧ a.Cuts p) ∨
    (0 < p.col ∧ pic.PairAt p.before ∧ a.Cuts p.before)

instance
    (a : Area)
    (pic : Picture)
    (p : Position) :
    Decidable (a.Splits pic p) := by
  unfold Splits
  infer_instance

/-
  What a terminal shows after an area is drawn over: the area
  as it is wanted, and nothing of the pairs it cut.
-/
def paint
    (wanted shown : Picture)
    (a : Area) : Picture :=
  fun p =>
    if a.Holds p then wanted p
    else if a.Splits shown p then some .empty
    else shown p

/- And after areas are drawn over one after another. -/
def paintAll
    (wanted shown : Picture)
    (areas : List Area) : Picture :=
  areas.foldl (paint wanted) shown

end Area

------------------------------------------------------------
-- Cuts between Units
------------------------------------------------------------

/- A line that is cut into whole units twice. -/
theorem Line.Paired.cuts
    {line : Line}
    (h : line.Paired)
    {col width : Nat}
    (hSome : 0 < width)
    (hPart : Line.Paired ((line.drop col).take width)) :
    line.continuationAt col = false ∧
      line.continuationAt (col + width) = false := by
  have hInside (i : Nat) (hi : i < width) :
      Line.cell? ((line.drop col).take width) i =
        line.cell? (col + i) := by
    simp only [Line.cell?, List.getElem?_take_of_lt hi,
      List.getElem?_drop]
  have hStart := hPart.continuationAt_zero
  rw [Line.continuationAt, hInside 0 hSome] at hStart
  refine ⟨hStart, ?_⟩
  cases hStop : line.continuationAt (col + width) with
  | false => rfl
  | true =>
      rcases h.wideAt_of_continuationAt hStop with
        ⟨before, hBefore, hWide⟩
      have hLast : Line.wideAt ((line.drop col).take width)
          (width - 1) = true := by
        rw [Line.wideAt, hInside _ (by omega)]
        rw [Line.wideAt,
          show before = col + (width - 1) by omega] at hWide
        exact hWide
      have hPast := hPart.continuationAt_succ hLast
      rw [Line.continuationAt, Line.cell?,
        List.getElem?_take_eq_none (by omega)] at hPast
      cases hPast

/- An area between units in a line of a grid. -/
def Area.IsWholeIn
    (a : Area)
    (g : Grid) : Prop :=
  ∃ line, g.line? a.row = some line ∧ line.Paired ∧
    line.continuationAt a.start = false ∧
    line.continuationAt a.stop = false

namespace Depicts

variable {g : Grid}
variable {step : Brush × Op}

/- A step that draws has an area. -/
theorem exists_area
    (h : Depicts g step)
    (hDraws : step.2.draws = true) :
    ∃ a, Area.ofStep? g.cols step = some a := by
  cases h with
  | text => exact ⟨_, rfl⟩
  | erase => exact ⟨_, rfl⟩
  | other idle =>
      rw [idle] at hDraws
      cases hDraws

/- It begins and ends between units. -/
theorem isWholeIn
    (h : Depicts g step)
    {a : Area}
    (hArea : Area.ofStep? g.cols step = some a) :
    a.IsWholeIn g := by
  cases h with
  | text here paired positive within spelled =>
      cases hArea
      exact ⟨_, here, paired, paired.cuts positive spelled.paired⟩
  | @erase p line here paired within blank =>
      cases hArea
      refine ⟨line, here, paired, ?_, ?_⟩
      · refine Pen.continuationAt_of_blank fun c hc cell hCell => ?_
        apply blank
        rw [← Nat.add_sub_cancel' hc, Line.cell?] at hCell
        exact List.mem_of_getElem? (List.getElem?_drop ▸ hCell)
      · change line.continuationAt g.cols = false
        rw [← Grid.length_of_line here]
        exact Pen.continuationAt_length line
  | other idle =>
      rw [Area.ofStep?_of_idle idle] at hArea
      cases hArea

end Depicts

namespace Area.IsWholeIn

variable {g : Grid}
variable {a : Area}
variable {p : Position}

/- The line of an area goes on after a first half. -/
theorem continued
    (h : a.IsWholeIn g)
    (hRow : a.row = p.row)
    (hWide : (g.picture p).any Cell.isWide = true) :
    (g.picture p.next).any Cell.isContinuation = true := by
  rcases h with ⟨line, hLine, hPaired, -⟩
  rw [hRow] at hLine
  rw [Grid.picture_of_line hLine] at hWide
  rw [Grid.picture_of_line (p := p.next) hLine]
  exact hPaired.continuationAt_succ hWide

/- There is no second half right after a cut. -/
theorem not_continued
    (h : a.IsWholeIn g)
    (hCuts : a.Cuts p) :
    (g.picture p.next).any Cell.isContinuation = false := by
  rcases h with ⟨line, hLine, -, hStart, hStop⟩
  rcases hCuts with ⟨hRow, hCol⟩
  rw [hRow] at hLine
  rw [Grid.picture_of_line (p := p.next) hLine]
  rcases hCol with hCol | hCol
  · rw [hCol] at hStart
    exact hStart
  · rw [hCol] at hStop
    exact hStop

/- A pair of the grid is not cut. -/
theorem uncut
    (h : a.IsWholeIn g)
    (hPair : g.picture.PairAt p) :
    ¬ a.Cuts p := by
  intro hCuts
  have hContinued := hPair.2
  rw [h.not_continued hCuts] at hContinued
  cases hContinued

/-
  A position that shows what it should is left as it is.  If it
  held a half of a pair that is cut, the grid would have that
  pair too.
-/
theorem paint_of_shown
    (h : a.IsWholeIn g)
    {shown : Picture}
    (hShown : shown p = g.picture p) :
    a.paint g.picture shown p = g.picture p := by
  have hWhole : ¬ a.Splits shown p := by
    rintro (⟨hPair, hCuts⟩ | ⟨hCol, hPair, hCuts⟩)
    · have hWide := hPair.1
      rw [hShown] at hWide
      exact h.uncut ⟨hWide, h.continued hCuts.1 hWide⟩ hCuts
    · have hNext : p.before.next = p := by
        rw [Position.next, Position.before, Nat.sub_add_cancel hCol]
      have hContinued := hPair.2
      rw [hNext, hShown, ← hNext, h.not_continued hCuts]
        at hContinued
      cases hContinued
  rw [paint, if_neg hWhole, hShown, ite_self]

end Area.IsWholeIn

namespace Area

variable {g : Grid}
variable {areas : List Area}
variable {p : Position}

/- And stays so while areas are drawn over. -/
theorem paintAll_of_shown
    (h : ∀ a ∈ areas, a.IsWholeIn g)
    {shown : Picture}
    (hShown : shown p = g.picture p) :
    paintAll g.picture shown areas p = g.picture p := by
  induction areas generalizing shown with
  | nil => exact hShown
  | cons a later ih =>
      rw [List.forall_mem_cons] at h
      exact ih h.2 (h.1.paint_of_shown hShown)

/- What is drawn over shows what it should from then on. -/
theorem paintAll_of_holds
    (h : ∀ a ∈ areas, a.IsWholeIn g)
    (hHolds : ∃ a ∈ areas, a.Holds p)
    (shown : Picture) :
    paintAll g.picture shown areas p = g.picture p := by
  induction areas generalizing shown with
  | nil => simp at hHolds
  | cons a later ih =>
      rw [List.forall_mem_cons] at h
      by_cases hHere : a.Holds p
      · exact paintAll_of_shown h.2 (if_pos hHere)
      · refine ih h.2 ?_ _
        simpa [hHere] using hHolds

end Area

------------------------------------------------------------
-- Plans and Pairs
------------------------------------------------------------

/- Outside a grid there are no cells. -/
theorem Grid.cell?_of_outside
    {g : Grid}
    {row col : Nat}
    (h : row < g.rows → g.cols ≤ col) :
    g.cell? row col = none := by
  cases hLine : g.line? row with
  | none =>
      rw [cell?, show g.lines[row]? = none from hLine]
      rfl
  | some line =>
      have hRow : row < g.rows := by
        rw [← g.lines_length]
        exact (List.getElem?_eq_some_iff.mp hLine).1
      rw [cell?_of_line hLine, Line.cell?, List.getElem?_eq_none]
      rw [length_of_line hLine]
      exact h hRow

/- Outside of them, two grids of one size are equal. -/
theorem Grid.picture_of_outside
    {prev curr : Grid}
    (hSize : prev.size = curr.size)
    {p : Position}
    (h : p.row < curr.rows → curr.cols ≤ p.col) :
    curr.picture p = prev.picture p := by
  have hRows : prev.rows = curr.rows := congrArg Size.rows hSize
  have hCols : prev.cols = curr.cols := congrArg Size.cols hSize
  rw [picture, picture, cell?_of_outside h, cell?_of_outside]
  rw [hRows, hCols]
  exact h

namespace Plan

/-
  A plan that draws only what a grid holds, and leaves alone
  only what is equal in the grid before.
-/
structure Completes
    (prev curr : Grid)
    (plan : Plan) : Prop where
  cols : plan.cols = curr.cols
  drawn : ∀ step ∈ plan.strokes, Depicts curr step
  left : ∀ p, ¬ plan.Covers p → curr.picture p = prev.picture p

/-
  A plan that draws wide characters whole or not at all.  Every
  step that draws has its area, which does not end between two
  halves of the new grid.  Of two halves of the old one it draws
  both or none.  What is not drawn stays as it was the whole
  time, and the new grid is shown in the end.
-/
structure KeepsPairs
    (prev curr : Grid)
    (plan : Plan) : Prop where
  placed :
    ∀ step ∈ plan.strokes, step.2.draws = true →
      ∃ a ∈ plan.areas, Area.ofStep? plan.cols step = some a
  uncut :
    ∀ a ∈ plan.areas, ∀ p, curr.picture.PairAt p → ¬ a.Cuts p
  whole :
    ∀ p, prev.picture.PairAt p →
      (plan.Covers p ↔ plan.Covers p.next)
  undamaged :
    ∀ count p, ¬ plan.Covers p →
      Area.paintAll curr.picture prev.picture
          (plan.areas.take count) p =
        prev.picture p
  shown :
    Area.paintAll curr.picture prev.picture plan.areas =
      curr.picture

variable {prev curr : Grid}
variable {belief : Belief}
variable {plan : Plan}

namespace Completes

/- Every step that draws has its area. -/
theorem placed
    (h : plan.Completes prev curr)
    {step : Brush × Op}
    (hStep : step ∈ plan.strokes)
    (hDraws : step.2.draws = true) :
    ∃ a ∈ plan.areas, Area.ofStep? plan.cols step = some a := by
  rcases (h.drawn step hStep).exists_area hDraws with ⟨a, hArea⟩
  rw [← h.cols] at hArea
  exact ⟨a, List.mem_filterMap.mpr ⟨step, hStep, hArea⟩, hArea⟩

/- Areas come from steps that draw what the grid holds. -/
theorem isWholeIn
    (h : plan.Completes prev curr)
    {a : Area}
    (ha : a ∈ plan.areas) :
    a.IsWholeIn curr := by
  rcases List.mem_filterMap.mp ha with ⟨step, hStep, hArea⟩
  rw [h.cols] at hArea
  exact (h.drawn step hStep).isWholeIn hArea

/-
  If only one half of an old pair were drawn, the other would be
  a half in the new grid as well, whose pair would be cut.
-/
theorem covers_next_iff
    (h : plan.Completes prev curr)
    {p : Position}
    (hPair : prev.picture.PairAt p) :
    plan.Covers p ↔ plan.Covers p.next := by
  constructor
  · rintro ⟨a, ha, hHolds⟩
    by_contra hFree
    have hContinued := hPair.2
    rw [← h.left _ hFree, (h.isWholeIn ha).not_continued]
      at hContinued
    · cases hContinued
    · refine ⟨hHolds.1, Or.inr ?_⟩
      have hNot : ¬ a.Holds p.next := fun hNext =>
        hFree ⟨a, ha, hNext⟩
      simp only [Area.Holds, Position.next] at hHolds hNot
      omega
  · rintro ⟨a, ha, hHolds⟩
    by_contra hFree
    have hWide := hPair.1
    rw [← h.left _ hFree] at hWide
    have hWhole := h.isWholeIn ha
    refine hWhole.uncut ⟨hWide, hWhole.continued hHolds.1 hWide⟩ ?_
    refine ⟨hHolds.1, Or.inl ?_⟩
    have hNot : ¬ a.Holds p := fun hHere => hFree ⟨a, ha, hHere⟩
    simp only [Area.Holds, Position.next] at hHolds hNot
    omega

/- What the plan leaves alone is never damaged. -/
theorem undamaged
    (h : plan.Completes prev curr)
    (count : Nat)
    {p : Position}
    (hFree : ¬ plan.Covers p) :
    Area.paintAll curr.picture prev.picture
        (plan.areas.take count) p =
      prev.picture p := by
  have hSame := h.left p hFree
  rw [← hSame]
  exact
    Area.paintAll_of_shown
      (fun a ha => h.isWholeIn (List.mem_of_mem_take ha)) hSame.symm

/- In the end all is shown. -/
theorem shown
    (h : plan.Completes prev curr) :
    Area.paintAll curr.picture prev.picture plan.areas =
      curr.picture := by
  funext p
  have hWhole (a : Area) (ha : a ∈ plan.areas) := h.isWholeIn ha
  by_cases hCovered : plan.Covers p
  · exact Area.paintAll_of_holds hWhole hCovered _
  · exact Area.paintAll_of_shown hWhole (h.left p hCovered).symm

end Completes

/- Where a grid has no cells, nothing is drawn and all is equal. -/
theorem completes_of_isEmpty
    (hSize : prev.size = curr.size)
    (hEmpty : curr.isEmpty = true)
    (hCols : plan.cols = curr.cols)
    (hIdle : ∀ op ∈ plan.ops, op.draws = false) :
    plan.Completes prev curr where
  cols := hCols
  drawn := by
    rw [strokes, hCols]
    exact (Brush.follow_of_idle curr _ hIdle).1
  left := by
    intro p _
    simp only [Grid.isEmpty, Bool.or_eq_true, decide_eq_true_eq]
      at hEmpty
    exact Grid.picture_of_outside hSize (by omega)

theorem Parts.completes
    {cleared : List Op}
    {drawn : Stroke}
    (h : Parts prev curr belief plan cleared drawn) :
    plan.Completes prev curr where
  cols := h.cols
  drawn := h.depicts
  left := by
    intro p hFree
    by_cases hInside : p.row < curr.rows ∧ p.col < curr.cols
    · exact h.left hInside.1 hInside.2 hFree
    · exact Grid.picture_of_outside h.size (by omega)

theorem MadeFor.completes
    (h : plan.MadeFor prev curr belief) :
    plan.Completes prev curr := by
  cases hEmpty : curr.isEmpty with
  | false =>
      rcases h.exists_parts hEmpty with ⟨cleared, drawn, hParts⟩
      exact hParts.completes
  | true =>
      cases h with
      | diff plans =>
          rcases diffGrids_of_isEmpty hEmpty plans with ⟨hSize, rfl⟩
          exact
            completes_of_isEmpty hSize hEmpty rfl
              (List.forall_mem_nil _)
      | repaint plans =>
          rcases repaint_eq_ok plans with ⟨inner, hInner, rfl⟩
          rcases diffGrids_of_isEmpty hEmpty hInner with
            ⟨hSize, rfl⟩
          refine completes_of_isEmpty hSize hEmpty rfl ?_
          intro op hop
          rw [List.mem_singleton.mp hop]
          rfl

/- Every plan draws wide characters whole or not at all. -/
theorem MadeFor.keepsPairs
    (h : plan.MadeFor prev curr belief) :
    plan.KeepsPairs prev curr := by
  have hCompletes := h.completes
  constructor
  case placed =>
    exact fun step hStep hDraws => hCompletes.placed hStep hDraws
  case uncut =>
    intro a ha p hPair
    exact (hCompletes.isWholeIn ha).uncut hPair
  case whole => exact fun p hPair => hCompletes.covers_next_iff hPair
  case undamaged =>
    exact fun count p hFree => hCompletes.undamaged count hFree
  case shown => exact hCompletes.shown

/- A wide character is drawn over one that stood a column before. -/
theorem keepsPairs_shifted :
    ∃ plan, diffGrids unshifted shifted .unknown = .ok plan ∧
      unshifted.picture.PairAt ⟨0, 0⟩ ∧
      shifted.picture.PairAt ⟨0, 1⟩ ∧
      plan.KeepsPairs unshifted shifted := by
  have hAccepted :
      (diffGrids unshifted shifted .unknown).toOption.isSome =
        true := by
    decide +kernel
  cases hPlan : diffGrids unshifted shifted .unknown with
  | error e =>
      rw [hPlan] at hAccepted
      cases hAccepted
  | ok plan =>
      exact
        ⟨plan, rfl, by decide +kernel, by decide +kernel,
          MadeFor.keepsPairs (.diff hPlan)⟩

end Plan

end Redraw
