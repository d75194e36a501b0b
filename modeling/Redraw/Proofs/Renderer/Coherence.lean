import Redraw.Proofs.Plan.Contents
import Redraw.Proofs.Plan.Faults
import Redraw.Proofs.Renderer.Delivery

/-
  Coherence: what a renderer knows fits together.

  Whatever a renderer was asked to do, what it holds for
  committed is a valid snapshot, its belief is the cursor of
  that snapshot while it knows the screen, and otherwise it
  believes nothing.

  Key definitions include:
    * `Renderer.Task`, `Renderer.performAll`
    * `Renderer.Coherent`: the invariant

  Main declarations:
    * `Renderer.plan_cases`: how a snapshot is planned
    * `Renderer.isRepaint_plan`: when a plan draws everything
    * `Renderer.Coherent.perform`: one task keeps it
    * `Renderer.coherent_performAll`
-/

namespace Redraw

theorem Grid.isEmpty_eq_false_of_area
    {g : Grid}
    (h : 0 < g.size.area) :
    g.isEmpty = false := by
  have hRows : 0 < g.rows := Nat.pos_of_mul_pos_right h
  have hCols : 0 < g.cols := Nat.pos_of_mul_pos_left h
  simp [isEmpty]
  omega

namespace Renderer

------------------------------------------------------------
-- Tasks
------------------------------------------------------------

/- Something that a renderer is asked to do. -/
inductive Task
  | render (snapshot : Snapshot) (force : Bool) (sink : Sink)
  | prepare (snapshot : Snapshot) (force : Bool)
  | invalidate
  deriving DecidableEq

/- What a task leaves of a renderer. -/
def perform (r : Renderer) : Task → Renderer
  | .render snapshot force sink =>
      (r.renderTo snapshot force sink).2.1
  | .prepare snapshot force => (r.prepare snapshot force).2
  | .invalidate => r.invalidate

/- Tasks one after another. -/
def performAll
    (r : Renderer)
    (tasks : List Task) : Renderer :=
  tasks.foldl perform r

------------------------------------------------------------
-- The Invariant
------------------------------------------------------------

/-
  What is committed is valid.  A known screen shows it, with
  the cursor where it belongs if there are cells; of an unknown
  screen nothing is believed.
-/
structure Coherent (r : Renderer) : Prop where
  valid :
    ∀ s, r.committed = some s → s.grid.validate = .ok ()
  known :
    r.screenKnown = true →
      ∃ s, r.committed = some s ∧
        (0 < s.size.area → r.belief = .ofCursor s.grid.cursor)
  unknown : r.screenKnown = false → r.belief = .unknown

variable {r : Renderer}
variable {snapshot : Snapshot}
variable {force : Bool}

theorem coherent_fresh
    (caps : Capabilities) :
    Coherent { caps := caps } where
  valid := by
    intro s h
    cases h
  known := by
    intro h
    cases h
  unknown := fun _ => rfl

/- What is in the outbox does not matter. -/
theorem Coherent.with_outbox
    (h : r.Coherent)
    (outbox : Outbox) :
    Coherent { r with outbox := outbox } :=
  ⟨h.valid, h.known, h.unknown⟩

theorem Coherent.invalidate
    (h : r.Coherent) :
    r.invalidate.Coherent where
  valid := h.valid
  known := by
    intro hKnown
    cases hKnown
  unknown := fun _ => rfl

------------------------------------------------------------
-- Plans
------------------------------------------------------------

/-
  A plan draws everything on request or out of need.  Otherwise
  it starts from what is committed, which has the size that is
  asked for.
-/
theorem plan_cases
    (r : Renderer)
    (snapshot : Snapshot)
    (force : Bool) :
    (force || r.needsRepaint snapshot.size) = true ∧
        r.plan snapshot force = Plan.repaint snapshot ∨
      (force || r.needsRepaint snapshot.size) = false ∧
        ∃ prev,
          r.committed = some prev ∧ prev.size = snapshot.size ∧
            r.plan snapshot force =
              Plan.diff prev snapshot r.belief := by
  unfold plan needsRepaint
  cases r.committed with
  | none => exact Or.inl ⟨by simp, rfl⟩
  | some prev =>
      simp only
      split
      · rename_i hDiff
        simp only [Bool.and_eq_true, Bool.not_eq_true',
          decide_eq_true_eq] at hDiff
        rcases hDiff with ⟨⟨hKnown, hForce⟩, hSize⟩
        refine Or.inr ⟨?_, prev, rfl, hSize, rfl⟩
        simp [hKnown, hForce, hSize]
      · rename_i hRepaint
        refine Or.inl ⟨?_, rfl⟩
        cases hKnown : r.screenKnown <;> cases force <;>
          simp_all

theorem isRepaint_plan
    {plan : Plan}
    (h : r.plan snapshot force = .ok plan) :
    plan.isRepaint = (force || r.needsRepaint snapshot.size) := by
  rcases r.plan_cases snapshot force with
    ⟨hNeeds, hPlan⟩ | ⟨hSpares, prev, -, -, hPlan⟩
  · rw [hNeeds]
    exact Plan.isRepaint_repaint (hPlan.symm.trans h)
  · rw [hSpares]
    exact Plan.isRepaint_diffGrids (hPlan.symm.trans h)

/- A snapshot is refused for its halves only. -/
theorem onlyFails_plan
    (r : Renderer)
    (snapshot : Snapshot)
    (force : Bool) :
    OnlyFails Error.IsPairing (r.plan snapshot force) := by
  rcases r.plan_cases snapshot force with
    ⟨-, hPlan⟩ | ⟨-, prev, -, hSize, hPlan⟩
  · rw [hPlan]
    exact Plan.onlyFails_repaint snapshot
  · rw [hPlan]
    exact Plan.onlyFails_diffGrids hSize r.belief

theorem after_plan
    {plan : Plan}
    (h : r.plan snapshot force = .ok plan)
    (hArea : 0 < snapshot.size.area) :
    plan.after = .ofCursor snapshot.grid.cursor := by
  have hSome := Grid.isEmpty_eq_false_of_area hArea
  rcases r.plan_cases snapshot force with
    ⟨-, hPlan⟩ | ⟨-, prev, -, hSize, hPlan⟩
  · rcases Plan.repaint_eq_ok (hPlan.symm.trans h) with
      ⟨inner, hInner, rfl⟩
    rcases Plan.diffGrids_eq_ok hSome hInner with
      ⟨_, _, _, _, _, _, _, hAfter⟩
    exact hAfter
  · rcases Plan.diffGrids_eq_ok hSome (hPlan.symm.trans h) with
      ⟨_, _, _, _, _, _, _, hAfter⟩
    exact hAfter

theorem Coherent.validate_of_plan
    (hCoherent : r.Coherent)
    {plan : Plan}
    (h : r.plan snapshot force = .ok plan) :
    snapshot.grid.validate = .ok () := by
  rcases r.plan_cases snapshot force with
    ⟨-, hPlan⟩ | ⟨-, prev, hPrev, -, hPlan⟩
  · exact Plan.validate_of_repaint (hPlan.symm.trans h)
  · exact Plan.validate_of_diffGrids (hCoherent.valid prev hPrev)
      (hPlan.symm.trans h)

------------------------------------------------------------
-- Frames
------------------------------------------------------------

/- A frame carries its snapshot and what its plan comes to. -/
theorem prepare_eq_ok
    {plan : Plan}
    (h : r.plan snapshot force = .ok plan) :
    ∃ frame outbox,
      r.prepare snapshot force =
          (.ok frame, { r with outbox := outbox }) ∧
        frame.snapshot = snapshot ∧
        frame.after = plan.after ∧
        frame.stats.repaint = plan.isRepaint := by
  simp only [prepare, plan_with_outbox, h]
  exact ⟨_, _, rfl, rfl, rfl, rfl⟩

theorem prepare_eq_error
    {e : Error}
    (h : r.plan snapshot force = .error e) :
    r.prepare snapshot force =
      (.error e, { r with outbox := r.outbox.clear }) := by
  simp only [prepare, plan_with_outbox, h]

theorem Coherent.prepare
    (h : r.Coherent)
    (snapshot : Snapshot)
    (force : Bool) :
    (r.prepare snapshot force).2.Coherent := by
  cases hPlan : r.plan snapshot force with
  | error e =>
      rw [prepare_eq_error hPlan]
      exact h.with_outbox _
  | ok plan =>
      rcases prepare_eq_ok hPlan with ⟨frame, outbox, hPrepare, -⟩
      rw [hPrepare]
      exact h.with_outbox outbox

/- A frame that was planned can be committed. -/
theorem Coherent.commit
    (h : r.Coherent)
    {plan : Plan}
    (hPlan : r.plan snapshot force = .ok plan)
    {frame : Frame}
    (hSnapshot : frame.snapshot = snapshot)
    (hAfter : frame.after = plan.after)
    (outbox : Outbox) :
    (commit { r with outbox := outbox } frame).Coherent where
  valid := by
    intro s hs
    obtain rfl : frame.snapshot = s := Option.some.inj hs
    rw [hSnapshot]
    exact h.validate_of_plan hPlan
  known := by
    intro _
    refine ⟨frame.snapshot, rfl, fun hArea => ?_⟩
    rw [hSnapshot] at hArea ⊢
    exact hAfter.trans (after_plan hPlan hArea)
  unknown := by
    intro hKnown
    cases hKnown

theorem Coherent.renderTo
    (h : r.Coherent)
    (snapshot : Snapshot)
    (force : Bool)
    (sink : Sink) :
    (r.renderTo snapshot force sink).2.1.Coherent := by
  cases hPlan : r.plan snapshot force with
  | error e =>
      rw [renderTo_of_refused hPlan]
      exact h.with_outbox _
  | ok plan =>
      rcases prepare_eq_ok hPlan with
        ⟨frame, outbox, hPrepare, hSnapshot, hAfter, -⟩
      rw [Renderer.renderTo, hPrepare]
      simp only [flushTo]
      rcases outbox.flushTo sink with ⟨outcome, left, sink'⟩
      cases outcome with
      | done => exact h.commit hPlan hSnapshot hAfter _
      | failed cause => exact (h.with_outbox _).invalidate
      | crashed => exact h.with_outbox _

theorem Coherent.perform
    (h : r.Coherent)
    (task : Task) :
    (r.perform task).Coherent := by
  cases task with
  | render snapshot force sink => exact h.renderTo snapshot force sink
  | prepare snapshot force => exact h.prepare snapshot force
  | invalidate => exact h.invalidate

theorem Coherent.performAll
    (h : r.Coherent)
    (tasks : List Task) :
    (r.performAll tasks).Coherent := by
  induction tasks generalizing r with
  | nil => exact h
  | cons task later ih => exact ih (h.perform task)

/-
  After any tasks a renderer is coherent, has a plan for every
  snapshot of whatever size unless its halves are unpaired, and
  draws everything just when it has to.
-/
theorem coherent_performAll
    (caps : Capabilities)
    (tasks : List Task) :
    let r := performAll { caps := caps } tasks
    r.Coherent ∧
      ∀ snapshot force,
        (∀ expected actual,
          r.plan snapshot force ≠
            .error (.dimensionMismatch expected actual)) ∧
        ∀ plan, r.plan snapshot force = .ok plan →
          (plan.isRepaint = true ↔
            force = true ∨ r.needsRepaint snapshot.size = true) ∧
          ∃ frame,
            (r.prepare snapshot force).1 = .ok frame ∧
              frame.stats.repaint = plan.isRepaint := by
  intro r
  refine ⟨(coherent_fresh caps).performAll tasks, ?_⟩
  intro snapshot force
  constructor
  · intro expected actual hPlan
    rcases r.onlyFails_plan snapshot force _ hPlan with
      ⟨row, col, hPairing⟩
    cases hPairing
  · intro plan hPlan
    rcases prepare_eq_ok hPlan with
      ⟨frame, outbox, hPrepare, -, -, hRepaint⟩
    refine ⟨?_, frame, by rw [hPrepare], hRepaint⟩
    rw [isRepaint_plan hPlan, Bool.or_eq_true]

end Renderer

end Redraw
