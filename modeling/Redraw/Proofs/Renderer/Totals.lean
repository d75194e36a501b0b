import Redraw.Proofs.Plan.Halves
import Redraw.Proofs.Renderer.Coherence
import Mathlib.Data.Set.Card
import Mathlib.Order.Interval.Finset.Nat

/-
  Totals: what a plan counts, and every frame with it.

  No two steps of a plan cover one position, so that adding up
  what the steps draw counts each position once.  What is drawn
  and what is left alone make up the screen, and a line that is
  equal in both grids is counted and not drawn on.

  Key definitions include:
    * `Grid.equalLines`: how many lines two grids share
    * `Plan.Counts`: the counts of a plan are exact

  Main declarations:
    * `Area.encard_covered`: areas that are apart add up
    * `Plan.Parts.counts`, `Plan.MadeFor.counts`
    * `Renderer.counts_every_cell`
-/

namespace Redraw

------------------------------------------------------------
-- Counting Positions
------------------------------------------------------------

/- There are as many positions in an area as it has columns. -/
theorem Area.encard_holds
    (a : Area) :
    {p | a.Holds p}.encard = a.size := by
  have hColumns :
      {p | a.Holds p} =
        Position.mk a.row '' (Finset.Ico a.start a.stop : Set Nat) := by
    ext p
    simp only [Holds, Set.mem_ofPred_eq, Set.mem_image,
      Finset.mem_coe, Finset.mem_Ico]
    constructor
    · rintro ⟨hRow, hInside⟩
      exact ⟨p.col, hInside, by rw [hRow]⟩
    · rintro ⟨col, hInside, rfl⟩
      exact ⟨rfl, hInside⟩
  have hOnce : Function.Injective (Position.mk a.row) :=
    fun c d h => congrArg Position.col h
  rw [hColumns, hOnce.encard_image,
    Set.encard_coe_eq_coe_finsetCard, Nat.card_Ico, size]

/-
  Areas that are apart add up.  By the areas: the first one has
  no position in common with any of the others.
-/
theorem Area.encard_covered
    {areas : List Area}
    (h : areas.Pairwise Apart) :
    {p | ∃ a ∈ areas, a.Holds p}.encard =
      ((areas.map size).sum : Nat) := by
  induction areas with
  | nil => simp
  | cons a later ih =>
      rw [List.pairwise_cons] at h
      have hSplit :
          {p | ∃ b ∈ a :: later, b.Holds p} =
            {p | a.Holds p} ∪ {p | ∃ b ∈ later, b.Holds p} := by
        ext p
        simp
      have hApart :
          Disjoint {p | a.Holds p} {p | ∃ b ∈ later, b.Holds p} := by
        rw [Set.disjoint_left]
        rintro p hHere ⟨b, hb, hThere⟩
        exact h.1 b hb p hHere hThere
      rw [hSplit, Set.encard_union_eq hApart, a.encard_holds,
        ih h.2, List.map_cons, List.sum_cons, Nat.cast_add]

/- There are as many positions in a screen as its area says. -/
theorem Size.encard_positions
    (size : Size) :
    {p : Position | p.row < size.rows ∧ p.col < size.cols}.encard =
      size.area := by
  have hPairs :
      {p : Position | p.row < size.rows ∧ p.col < size.cols} =
        Function.uncurry Position.mk ''
          (Finset.range size.rows ×ˢ Finset.range size.cols :
            Finset (Nat × Nat)) := by
    ext p
    simp only [Set.mem_ofPred_eq, Set.mem_image, Finset.mem_coe,
      Finset.mem_product, Finset.mem_range, Prod.exists]
    constructor
    · intro hInside
      exact ⟨p.row, p.col, hInside, rfl⟩
    · rintro ⟨row, col, hInside, rfl⟩
      exact hInside
  have hOnce : Function.Injective (Function.uncurry Position.mk) := by
    rintro ⟨row, col⟩ ⟨row', col'⟩ h
    cases h
    rfl
  rw [hPairs, hOnce.encard_image, Set.encard_coe_eq_coe_finsetCard,
    Finset.card_product, Finset.card_range, Finset.card_range,
    Size.area]

------------------------------------------------------------
-- Plans
------------------------------------------------------------

/- How many lines of two grids are equal, row by row. -/
def Grid.equalLines (prev curr : Grid) : Nat :=
  (prev.lines.zip curr.lines).countP fun lines => lines.1 = lines.2

namespace Plan

/-
  The counts of a plan are exact.  Each step that draws has its
  area in the screen, and as many cells are drawn as there are
  positions in one area or another.  With those left alone they
  make up the screen, of which there is never less than what is
  drawn.  The lines that are equal are counted, and no step
  draws on one.
-/
structure Counts
    (prev curr : Grid)
    (plan : Plan) : Prop where
  extent : plan.rows = curr.rows ∧ plan.cols = curr.cols
  placed :
    ∀ step ∈ plan.strokes, step.2.draws = true →
      ∃ a ∈ plan.areas, Area.ofStep? plan.cols step = some a
  inside :
    ∀ p, plan.Covers p → p.row < curr.rows ∧ p.col < curr.cols
  rendered : {p | plan.Covers p}.encard = plan.stats.rendered
  within : plan.stats.rendered ≤ curr.rows * curr.cols
  total :
    plan.stats.rendered + plan.stats.skipped =
      curr.rows * curr.cols
  rowsSkipped :
    curr.isEmpty = false →
      plan.stats.rowsSkipped = prev.equalLines curr
  untouched :
    ∀ row, prev.line? row = curr.line? row →
      ∀ col, ¬ plan.Covers ⟨row, col⟩

variable {prev curr : Grid}
variable {belief : Belief}
variable {plan : Plan}

/- Only lines that differ are drawn on. -/
theorem Parts.inChangedRows
    {cleared : List Op}
    {drawn : Stroke}
    (h : Parts prev curr belief plan cleared drawn)
    {p : Position}
    (hCovers : plan.Covers p) :
    Pen.InChangedRows prev curr 0 curr.rows p := by
  rcases hCovers with ⟨a, ha, hHolds⟩
  rw [h.areas_eq] at ha
  exact h.sweeps.inside a ha p hHolds

/- So the counts of a plan follow from its parts. -/
theorem Parts.counts
    {cleared : List Op}
    {drawn : Stroke}
    (h : Parts prev curr belief plan cleared drawn) :
    plan.Counts prev curr := by
  have hInside :
      ∀ p, plan.Covers p → p.row < curr.rows ∧ p.col < curr.cols := by
    intro p hp
    rcases h.inChangedRows hp with ⟨-, hRow, hCol, -⟩
    exact ⟨hRow, hCol⟩
  have hRendered :
      {p | plan.Covers p}.encard = plan.stats.rendered := by
    rw [h.stats, h.sweeps.counted, ← h.areas_eq]
    refine Area.encard_covered ?_
    rw [h.areas_eq]
    exact h.sweeps.apart
  have hWithin : plan.stats.rendered ≤ curr.size.area := by
    rw [← Nat.cast_le (α := ENat), ← hRendered,
      ← curr.size.encard_positions]
    exact Set.encard_le_encard hInside
  constructor
  case extent => exact ⟨h.rows, h.cols⟩
  case placed =>
    exact fun step hStep hDraws => h.completes.placed hStep hDraws
  case inside => exact hInside
  case rendered => exact hRendered
  case within => exact hWithin
  case total =>
    have hSkipped :
        plan.stats.skipped =
          curr.size.area - plan.stats.rendered := by
      rw [h.stats]
    rw [hSkipped]
    exact Nat.add_sub_cancel' hWithin
  case rowsSkipped =>
    intro _
    rw [h.stats, Grid.equalLines]
  case untouched =>
    intro row hSame col hCovers
    exact (h.inChangedRows hCovers).2.2.2 hSame

/- Where a grid has no cells, there is nothing to count. -/
theorem Completes.counts_of_isEmpty
    (h : plan.Completes prev curr)
    (hEmpty : curr.isEmpty = true)
    (hRows : plan.rows = curr.rows)
    (hIdle : ∀ op ∈ plan.ops, op.draws = false)
    (hStats : plan.stats = {}) :
    plan.Counts prev curr := by
  have hNone (p : Position) : ¬ plan.Covers p := by
    rintro ⟨a, ha, -⟩
    rw [areas, strokes, h.cols,
      (Brush.follow_of_idle curr _ hIdle).2] at ha
    cases ha
  have hArea : curr.rows * curr.cols = 0 := by
    simpa [Grid.isEmpty] using hEmpty
  constructor
  case extent => exact ⟨hRows, h.cols⟩
  case placed =>
    exact fun step hStep hDraws => h.placed hStep hDraws
  case inside => exact fun p hp => absurd hp (hNone p)
  case rendered =>
    have hEmptySet : {p | plan.Covers p} = ∅ :=
      Set.eq_empty_of_forall_notMem hNone
    rw [hStats, hEmptySet, Set.encard_empty]
    rfl
  case within =>
    rw [hStats]
    exact Nat.zero_le _
  case total =>
    rw [hStats, hArea]
    rfl
  case rowsSkipped =>
    intro hSome
    rw [hSome] at hEmpty
    cases hEmpty
  case untouched => exact fun row _ col => hNone ⟨row, col⟩

theorem MadeFor.counts
    (h : plan.MadeFor prev curr belief) :
    plan.Counts prev curr := by
  cases hEmpty : curr.isEmpty with
  | false =>
      rcases h.exists_parts hEmpty with ⟨cleared, drawn, hParts⟩
      exact hParts.counts
  | true =>
      have hCompletes := h.completes
      cases h with
      | diff plans =>
          rcases diffGrids_of_isEmpty hEmpty plans with ⟨-, rfl⟩
          exact
            hCompletes.counts_of_isEmpty hEmpty rfl
              (List.forall_mem_nil _) rfl
      | repaint plans =>
          rcases repaint_eq_ok plans with ⟨inner, hInner, rfl⟩
          rcases diffGrids_of_isEmpty hEmpty hInner with ⟨-, rfl⟩
          refine
            hCompletes.counts_of_isEmpty hEmpty rfl ?_ rfl
          exact List.forall_mem_singleton.mpr rfl

end Plan

------------------------------------------------------------
-- Frames
------------------------------------------------------------

namespace Renderer

variable {r : Renderer}
variable {snapshot : Snapshot}
variable {force : Bool}

/- What a renderer plans is a plan for its snapshot. -/
theorem exists_madeFor_of_plan
    {plan : Plan}
    (h : r.plan snapshot force = .ok plan) :
    ∃ prev belief, plan.MadeFor prev snapshot.grid belief := by
  rcases r.plan_cases snapshot force with
    ⟨-, hPlan⟩ | ⟨-, prev, -, -, hPlan⟩
  · exact ⟨_, _, .repaint (hPlan.symm.trans h)⟩
  · exact ⟨_, _, .diff (hPlan.symm.trans h)⟩

/- A frame counts what its plan does. -/
theorem total_encode
    {prev : Grid}
    {belief : Belief}
    {plan : Plan}
    (h : plan.MadeFor prev snapshot.grid belief)
    (r : Renderer) :
    (r.encode snapshot plan).1.stats.total = snapshot.size.area :=
  h.counts.total

theorem total_prepare
    {frame : Frame}
    (h : (r.prepare snapshot force).1 = .ok frame) :
    frame.stats.total = snapshot.size.area := by
  cases hPlan : r.plan snapshot force with
  | error e =>
      rw [prepare_eq_error hPlan] at h
      cases h
  | ok plan =>
      rcases exists_madeFor_of_plan hPlan with ⟨prev, belief, hMade⟩
      simp only [prepare, plan_with_outbox, hPlan] at h
      cases h
      exact total_encode hMade _

/- A snapshot that was drawn was prepared. -/
theorem exists_frame_of_drawn
    {sink : Sink}
    {stats : FrameStats}
    (h : (r.renderTo snapshot force sink).1 = .drawn stats) :
    ∃ frame,
      (r.prepare snapshot force).1 = .ok frame ∧
        frame.stats = stats := by
  rcases hPrepare : r.prepare snapshot force with ⟨result, ready⟩
  rw [renderTo, hPrepare] at h
  cases result with
  | error e => cases h
  | ok frame =>
      rcases hFlush : ready.flushTo sink with ⟨delivery, left, rest⟩
      simp only [hFlush] at h
      cases delivery with
      | done =>
          cases h
          exact ⟨frame, rfl, rfl⟩
      | failed cause => cases h
      | crashed => cases h

/-
  The counts of every plan are exact, and every frame that is
  prepared or drawn counts all cells of its screen.
-/
theorem counts_every_cell :
    (∀ prev curr belief plan,
        Plan.MadeFor prev curr belief plan →
          plan.Counts prev curr) ∧
      ∀ (r : Renderer) (snapshot : Snapshot),
        (∀ prev belief plan,
            Plan.MadeFor prev snapshot.grid belief plan →
              (r.encode snapshot plan).1.stats.total =
                snapshot.size.area) ∧
          ∀ force,
            (∀ frame,
                (r.prepare snapshot force).1 = .ok frame →
                  frame.stats.total = snapshot.size.area) ∧
              ∀ sink stats,
                (r.renderTo snapshot force sink).1 = .drawn stats →
                  stats.total = snapshot.size.area := by
  refine ⟨fun prev curr belief plan h => h.counts, fun r snapshot => ?_⟩
  refine ⟨fun prev belief plan h => total_encode h r, fun force => ?_⟩
  refine ⟨fun frame h => total_prepare h, fun sink stats h => ?_⟩
  rcases exists_frame_of_drawn h with ⟨frame, hFrame, rfl⟩
  exact total_prepare hFrame

/- A wide character above five letters, and above one of them. -/
def lettered : Grid :=
  ((Grid.blank 2 10).put 0 3 ['世'] .default).put 1 0
    ['a', 'b', 'c', 'd', 'e'] .default

def erasable : Grid :=
  lettered.put 1 1 [' ', ' ', ' ', ' '] .default

/- The letters are erased with all that is right of them. -/
theorem counts_every_cell_erasable :
    ∃ plan frame stats,
      Plan.diffGrids lettered erasable .unknown = .ok plan ∧
        plan.areas = [⟨1, 1, 10⟩] ∧
        plan.stats = ⟨9, 11, 1⟩ ∧
        plan.Counts lettered erasable ∧
        (encode { caps := .minimal } ⟨2, erasable⟩ plan).1.stats.total =
          20 ∧
        (prepare { caps := .minimal } ⟨2, erasable⟩ false).1 =
          .ok frame ∧
        frame.stats.total = 20 ∧
        (renderTo { caps := .minimal } ⟨2, erasable⟩ false {}).1 =
          .drawn stats ∧
        stats.total = 20 := by
  have hPlanned :
      (Plan.diffGrids lettered erasable .unknown).toOption.map
          (fun plan => (plan.areas, plan.stats)) =
        some ([⟨1, 1, 10⟩], ⟨9, 11, 1⟩) := by
    decide +kernel
  have hPrepared :
      (prepare { caps := .minimal } ⟨2, erasable⟩
        false).1.toOption.isSome = true := by
    decide +kernel
  have hDrawn :
      (renderTo { caps := .minimal } ⟨2, erasable⟩ false {}).1 =
        .drawn ⟨3, 17, 34, true⟩ := by
    decide +kernel
  rcases counts_every_cell with ⟨hCounts, hFrames⟩
  cases hPlan : Plan.diffGrids lettered erasable .unknown with
  | error e =>
      rw [hPlan] at hPlanned
      cases hPlanned
  | ok plan =>
      rw [hPlan] at hPlanned
      rcases Prod.ext_iff.mp (Option.some.inj hPlanned) with
        ⟨hAreas, hStats⟩
      cases hFrame :
          (prepare { caps := .minimal } ⟨2, erasable⟩ false).1 with
      | error e =>
          rw [hFrame] at hPrepared
          cases hPrepared
      | ok frame =>
          rcases hFrames { caps := .minimal } ⟨2, erasable⟩ with
            ⟨hEncoded, hForced⟩
          exact
            ⟨plan, frame, _, rfl, hAreas, hStats,
              hCounts _ _ _ _ (.diff hPlan),
              hEncoded _ _ _ (.diff hPlan), rfl,
              (hForced false).1 frame hFrame, hDrawn,
              (hForced false).2 {} _ hDrawn⟩

end Renderer

end Redraw
