import Redraw.Proofs.Frame.Encoding
import Redraw.Proofs.Plan.Fitting

/-
  Repair: the bytes of a plan bring a terminal to the snapshot
  they were planned for.

  A plan between two snapshots needs a terminal that shows the
  first of them.  A repaint needs nothing: the first thing it
  says is an escape, which ends whatever was begun, and it
  clears the screen before it moves anywhere.

  Key definitions include:
    * `Size.IsScreen`: extents that a terminal can have

  Main declarations:
    * `Plan.feed_diff`, `Plan.feed_repaint`
    * `Plan.repaint_repairs`
-/

namespace Redraw

/- An extent with cells, counted in 16 bits. -/
structure Size.IsScreen (size : Size) : Prop where
  rows_pos : 0 < size.rows
  cols_pos : 0 < size.cols
  rows_lt : size.rows < 2 ^ 16
  cols_lt : size.cols < 2 ^ 16

theorem Size.IsScreen.isEmpty_eq_false
    {g : Grid}
    (h : g.size.IsScreen) :
    g.isEmpty = false := by
  have hRows : g.rows ≠ 0 := Nat.ne_of_gt h.rows_pos
  have hCols : g.cols ≠ 0 := Nat.ne_of_gt h.cols_pos
  simp [Grid.isEmpty, hRows, hCols]

theorem Size.IsScreen.le_maxParameter
    {size : Size}
    (h : size.IsScreen) :
    size.rows ≤ Parser.maxParameter ∧
      size.cols ≤ Parser.maxParameter := by
  have hRows := h.rows_lt
  have hCols := h.cols_lt
  unfold Parser.maxParameter
  omega

/- Screens that agree show the same. -/
theorem Screen.Agrees.shows
    {s t : Screen}
    (h : s.Agrees t)
    {caps : Capabilities}
    {g : Grid}
    (hShows : t.Shows caps g) :
    s.Shows caps g := by
  rcases h.exists_last with ⟨l, rfl⟩
  exact hShows

namespace Plan

variable {caps : Capabilities}

/- The bytes of a plan lead from one snapshot to the next. -/
theorem feed_diff
    {prev curr : Snapshot}
    {s : Screen}
    (hShows : s.Shows caps prev.grid)
    {belief : Belief}
    (hBelief : belief = .ofCursor prev.grid.cursor)
    (hScreen : curr.size.IsScreen)
    (hSize : prev.size = curr.size)
    (hSimple : curr.grid.IsSimple)
    {plan : Plan}
    (h : diff prev curr belief = .ok plan) :
    ∃ t,
      (Receiver.mk .ground s).feed (plan.encode caps) =
          ⟨.ground, t⟩ ∧
        t.Shows caps curr.grid := by
  rcases hShows with ⟨hCells, hCursor, hStyle, hPending⟩
  subst hBelief
  have hSome := hScreen.isEmpty_eq_false
  have hPrevSome : prev.grid.isEmpty = false := by
    apply Size.IsScreen.isEmpty_eq_false
    rw [← hSize] at hScreen
    exact hScreen
  have hInside := Grid.cursor_lt hPrevSome
  have hExtent : s.extent = curr.size :=
    ((s.showsCells_iff caps prev.grid).mp hCells).1.trans hSize
  have hRows : s.rows = curr.grid.rows := congrArg Size.rows hExtent
  have hCols : s.cols = curr.grid.cols := congrArg Size.cols hExtent
  rcases diffGrids_eq_ok hSome h with
    ⟨_, lines, equal, _, _, hOrigin, hWidth, _⟩
  have hDescribes :
      Belief.Describes (.ofCursor prev.grid.cursor) s := by
    refine ⟨?_, ?_, ?_⟩
    · intro p hp
      rw [← Option.some.inj hp]
      exact ⟨hCursor.1, hPending⟩
    · intro v hv
      rw [← Option.some.inj hv]
      exact hCursor.2.1
    · intro k hk
      rw [← Option.some.inj hk]
      exact hCursor.2.2
  have hState : FrameState.Describes ⟨plan.origin, .default⟩ s := by
    rw [hOrigin]
    refine ⟨hStyle, hDescribes.position, ?_⟩
    intro p hp
    rw [← Option.some.inj hp, hCells.1, hCells.2.1]
    exact hInside
  have hFits := fits_diffGrids hSome hSimple h
  rw [← hRows, ← hCols] at hFits
  rcases feed_encode caps hState (hWidth.trans hCols.symm)
      (by rw [hRows]; exact hScreen.le_maxParameter.1)
      (by rw [hCols]; exact hScreen.le_maxParameter.2) hFits with
    ⟨t, hFeed, hAgrees⟩
  exact
    ⟨t, hFeed,
      hAgrees.shows
        (shows_diffGrids hCells hStyle hDescribes hSome hSimple h)⟩

/- The bytes of a repaint lead there from anywhere. -/
theorem feed_repaint
    {curr : Snapshot}
    (hScreen : curr.size.IsScreen)
    (hSimple : curr.grid.IsSimple)
    {plan : Plan}
    (h : repaint curr = .ok plan)
    {r : Receiver}
    (hExtent : r.screen.extent = curr.size) :
    ∃ t,
      r.feed (plan.encode caps) = ⟨.ground, t⟩ ∧
        t.Shows caps curr.grid := by
  have hSome := hScreen.isEmpty_eq_false
  have hRows : r.screen.rows = curr.grid.rows :=
    congrArg Size.rows hExtent
  have hCols : r.screen.cols = curr.grid.cols :=
    congrArg Size.cols hExtent
  rcases repaint_eq_ok h with ⟨inner, hInner, hPlan⟩
  rcases diffGrids_eq_ok hSome hInner with
    ⟨_, lines, equal, _, _, hOrigin, hWidth, _⟩
  have hFits := fits_diffGrids hSome hSimple hInner
  rw [← hRows, ← hCols] at hFits
  have hOps : plan.ops = .clearScreen :: inner.ops := by
    rw [hPlan]
  rcases feed_encode_of_clear caps hOps
      (by rw [hPlan]; exact hOrigin) r
      (by rw [hPlan, hCols]; exact hWidth)
      (by rw [hRows]; exact hScreen.le_maxParameter.1)
      (by rw [hCols]; exact hScreen.le_maxParameter.2) hFits with
    ⟨t, hFeed, hAgrees⟩
  refine ⟨t, hFeed, hAgrees.shows ?_⟩
  exact
    shows_repaint
      ((Screen.extent_performAll _ _).trans hExtent) hSome hSimple
      h

/-
  A repaint repairs any terminal of the snapshot's size: in any
  state, and after anything it has been sent, even if that ends
  within a character or a sequence.
-/
theorem repaint_repairs
    (caps : Capabilities)
    {snapshot : Snapshot}
    (hScreen : snapshot.size.IsScreen)
    (hSimple : snapshot.grid.IsSimple)
    {plan : Plan}
    (hPlan : repaint snapshot = .ok plan)
    (r : Receiver)
    (hExtent : r.screen.extent = snapshot.size)
    (sent : List UInt8) :
    ((r.feed sent).feed (plan.encode caps)).parser = .ground ∧
      ((r.feed sent).feed (plan.encode caps)).screen.Shows caps
        snapshot.grid := by
  rcases feed_repaint hScreen hSimple hPlan
      (r := r.feed sent)
      ((r.extent_feed sent).trans hExtent) with
    ⟨t, hFeed, hShows⟩
  rw [hFeed]
  exact ⟨rfl, hShows⟩

/- A wide character, a letter with an accent and a blank. -/
def accented : Snapshot where
  seq := 1
  grid :=
    ((Grid.blank 1 4).set 0 0 (.styled ['世'] .default)).set 0 2
      (.styled ['e', '\u0301']
        (Style.default.withFg (.indexed 200)))

theorem size_accented :
    accented.size = ⟨1, 4⟩ := by
  decide +kernel

/- A repaint after a frame that was cut within a sequence. -/
theorem repaint_repairs_cut_frame :
    ∃ plan, repaint accented = .ok plan ∧
      (((Receiver.mk .ground (.blank 1 4)).feed
          ((plan.encode .full).take 7)).feed
        (plan.encode .full)).screen.Shows .full accented.grid := by
  have hAccepted : (repaint accented).toOption.isSome = true := by
    decide +kernel
  have hScreen : accented.size.IsScreen := by
    rw [size_accented]
    exact ⟨by decide, by decide, by decide, by decide⟩
  cases hPlan : repaint accented with
  | error e =>
      rw [hPlan] at hAccepted
      cases hAccepted
  | ok plan =>
      have hRepaired :=
        repaint_repairs .full hScreen (by decide +kernel) hPlan
          (Receiver.mk .ground (.blank 1 4)) size_accented.symm
          ((plan.encode .full).take 7)
      exact ⟨plan, rfl, hRepaired.2⟩

end Plan

end Redraw
