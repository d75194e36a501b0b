import Redraw.Proofs.Renderer.Delivery
import Redraw.Proofs.Renderer.Repair

/-
  Convergence: a terminal always shows the last snapshot that
  was drawn.

  A renderer is called again and again, and the terminal is fed
  what its sink receives.  After each call, what the renderer
  holds for committed is what the terminal shows; while the
  renderer knows the screen, its belief is the cursor of that
  snapshot, so that the next plan may start from there.

  Key definitions include:
    * `Call`, `Painting`, `Painting.run`
    * `Painting.terminal`: the terminal fed so far
    * `Painting.Sound`: the invariant

  Main declarations:
    * `Painting.Sound.step`: one call keeps it
    * `Painting.terminal_shows`: every run converges
-/

namespace Redraw

------------------------------------------------------------
-- Runs of Calls
------------------------------------------------------------

/- A call to a renderer. -/
inductive Call
  | render (snapshot : Snapshot) (force : Bool)
  | invalidate
  deriving DecidableEq

/-
  A renderer at work on a sink.  `shown` is the snapshot of the
  last rendering that was drawn, and `last` is how the last
  rendering ended.
-/
structure Painting where
  renderer : Renderer
  sink : Sink
  shown : Option Snapshot := none
  last : Option Renderer.Rendering := none

namespace Painting

/- A renderer that has not been called yet. -/
def start
    (caps : Capabilities)
    (sink : Sink) : Painting where
  renderer := { caps := caps }
  sink := sink

/- One call. -/
def step (p : Painting) : Call → Painting
  | .render snapshot force =>
      let (rendering, renderer, sink) :=
        p.renderer.renderTo snapshot force p.sink
      { renderer := renderer
        sink := sink
        shown :=
          match rendering with
          | .drawn _ => some snapshot
          | _ => p.shown
        last := some rendering }
  | .invalidate => { p with renderer := p.renderer.invalidate }

/- Calls one after another. -/
def run
    (p : Painting)
    (calls : List Call) : Painting :=
  calls.foldl step p

/- A terminal that was blank before all that the sink received. -/
def terminal
    (p : Painting)
    (size : Size) : Receiver :=
  (Receiver.mk .ground (.blank size.rows size.cols)).feed
    p.sink.received

------------------------------------------------------------
-- The Invariant
------------------------------------------------------------

/-
  What holds after every call: the terminal shows what is
  committed, and what is believed of it is so.
-/
structure Sound
    (caps : Capabilities)
    (size : Size)
    (p : Painting) : Prop where
  caps_eq : p.renderer.caps = caps
  accepts : p.sink.Accepts
  committed : p.renderer.committed = p.shown
  ground : (p.terminal size).parser = .ground
  extent : (p.terminal size).screen.extent = size
  shows :
    ∀ s, p.shown = some s →
      s.size = size ∧ (p.terminal size).screen.Shows caps s.grid
  blank :
    p.shown = none →
      (p.terminal size).screen = .blank size.rows size.cols
  belief :
    p.renderer.screenKnown = true →
      ∃ s, p.shown = some s ∧
        p.renderer.belief = .ofCursor s.grid.cursor

variable {caps : Capabilities}
variable {size : Size}
variable {p : Painting}

theorem sound_start
    (caps : Capabilities)
    (size : Size)
    {sink : Sink}
    (hAccepts : sink.Accepts)
    (hFresh : sink.received = []) :
    (start caps sink).Sound caps size := by
  have hTerminal :
      (start caps sink).terminal size =
        ⟨.ground, .blank size.rows size.cols⟩ := by
    simp [terminal, start, hFresh, Receiver.feed]
  refine ⟨rfl, hAccepts, rfl, ?_, ?_, ?_, ?_, ?_⟩
  · rw [hTerminal]
  · rw [hTerminal]
    rfl
  · intro s hs
    cases hs
  · intro _
    rw [hTerminal]
  · intro hKnown
    cases hKnown

/-
  The bytes of the plan that the renderer makes show the
  snapshot: of a diff since what is committed is shown, of a
  repaint in any case.
-/
theorem Sound.feed_plan
    (h : p.Sound caps size)
    (hScreen : size.IsScreen)
    {snapshot : Snapshot}
    (hSize : snapshot.size = size)
    (hSimple : snapshot.grid.IsSimple)
    {force : Bool}
    {plan : Plan}
    (hPlan : p.renderer.plan snapshot force = .ok plan) :
    (∃ t,
      (p.terminal size).feed (plan.encode caps) = ⟨.ground, t⟩ ∧
        t.Shows caps snapshot.grid) ∧
      plan.after = .ofCursor snapshot.grid.cursor := by
  rw [← hSize] at hScreen
  have hSome := hScreen.isEmpty_eq_false
  have hExtent :
      (p.terminal size).screen.extent = snapshot.size :=
    h.extent.trans hSize.symm
  have hRepaint
      (hFull : Plan.repaint snapshot = .ok plan) :
      (∃ t,
        (p.terminal size).feed (plan.encode caps) =
            ⟨.ground, t⟩ ∧
          t.Shows caps snapshot.grid) ∧
        plan.after = .ofCursor snapshot.grid.cursor := by
    refine
      ⟨Plan.feed_repaint hScreen hSimple hFull hExtent, ?_⟩
    rcases Plan.repaint_eq_ok hFull with ⟨inner, hInner, rfl⟩
    rcases Plan.diffGrids_eq_ok hSome hInner with
      ⟨_, _, _, _, _, _, _, hAfter⟩
    exact hAfter
  unfold Renderer.plan at hPlan
  cases hCommitted : p.renderer.committed with
  | none =>
      rw [hCommitted] at hPlan
      exact hRepaint hPlan
  | some prev =>
      rw [hCommitted] at hPlan
      simp only at hPlan
      split at hPlan
      · rename_i hDiff
        simp only [Bool.and_eq_true, decide_eq_true_eq] at hDiff
        rcases h.belief hDiff.1.1 with ⟨s, hShown, hBelief⟩
        have hSame : s = prev := by
          rw [h.committed, hShown] at hCommitted
          exact Option.some.inj hCommitted
        subst hSame
        have hTerminal :
            p.terminal size =
              ⟨.ground, (p.terminal size).screen⟩ := by
          rw [← h.ground]
        rcases Plan.diffGrids_eq_ok hSome hPlan with
          ⟨_, _, _, _, _, _, _, hAfter⟩
        refine ⟨?_, hAfter⟩
        rw [hTerminal]
        exact
          Plan.feed_diff (h.shows s hShown).2 hBelief hScreen
            hDiff.2 hSimple hPlan
      · exact hRepaint hPlan

/- A rendering without a plan sends nothing. -/
theorem step_of_error
    {snapshot : Snapshot}
    {force : Bool}
    {e : Error}
    (hPlan : p.renderer.plan snapshot force = .error e) :
    p.step (.render snapshot force) =
      { p with
        renderer :=
          { p.renderer with outbox := p.renderer.outbox.clear }
        last := some (.refused e) } := by
  simp only [step, Renderer.renderTo_of_refused hPlan p.sink]

/- A rendering with a plan is drawn and committed. -/
theorem step_of_ok
    {snapshot : Snapshot}
    {force : Bool}
    {plan : Plan}
    (hPlan : p.renderer.plan snapshot force = .ok plan)
    (hAccepts : p.sink.Accepts) :
    ∃ stats outbox sink,
      p.step (.render snapshot force) =
          { renderer :=
              { p.renderer with
                outbox := outbox
                committed := some snapshot
                belief := plan.after
                screenKnown := true }
            sink := sink
            shown := some snapshot
            last := some (.drawn stats) } ∧
        sink.Accepts ∧
        sink.received =
          p.sink.received ++ plan.encode p.renderer.caps := by
  rcases Renderer.renderTo_of_accepts hPlan hAccepts with
    ⟨stats, outbox, sink, hRender, hStill, hReceived⟩
  refine ⟨stats, outbox, sink, ?_, hStill, hReceived⟩
  simp only [step, hRender]

/- One call keeps the invariant. -/
theorem Sound.step
    (h : p.Sound caps size)
    (hScreen : size.IsScreen)
    {call : Call}
    (hCall :
      ∀ snapshot force, call = .render snapshot force →
        snapshot.size = size ∧ snapshot.grid.IsSimple) :
    (p.step call).Sound caps size := by
  cases call with
  | invalidate =>
      exact
        ⟨h.caps_eq, h.accepts, h.committed, h.ground, h.extent,
          h.shows, h.blank, by intro hKnown; cases hKnown⟩
  | render snapshot force =>
      rcases hCall snapshot force rfl with ⟨hSize, hSimple⟩
      cases hPlan : p.renderer.plan snapshot force with
      | error e =>
          rw [step_of_error hPlan]
          exact
            ⟨h.caps_eq, h.accepts, h.committed, h.ground, h.extent,
              h.shows, h.blank, h.belief⟩
      | ok plan =>
          rcases step_of_ok hPlan h.accepts with
            ⟨stats, outbox, sink, hStep, hAccepts, hReceived⟩
          rcases h.feed_plan hScreen hSize hSimple hPlan with
            ⟨⟨t, hFeed, hShows⟩, hAfter⟩
          have hTerminal :
              (p.step (.render snapshot force)).terminal size =
                ⟨.ground, t⟩ := by
            rw [← hFeed, hStep, terminal, hReceived, h.caps_eq,
              Receiver.feed_append]
            rfl
          have hExtent : t.extent = size := by
            rw [← hSize]
            exact
              ((t.showsCells_iff caps snapshot.grid).mp
                hShows.1).1
          rw [hStep] at hTerminal ⊢
          refine
            ⟨h.caps_eq, hAccepts, rfl, by rw [hTerminal],
              by rw [hTerminal]; exact hExtent, ?_, ?_, ?_⟩
          · intro s hs
            rw [hTerminal, ← Option.some.inj hs]
            exact ⟨hSize, hShows⟩
          · intro hNone
            cases hNone
          · exact fun _ => ⟨snapshot, rfl, hAfter⟩

/- And so do calls one after another. -/
theorem Sound.run
    (h : p.Sound caps size)
    (hScreen : size.IsScreen)
    {calls : List Call}
    (hCalls :
      ∀ snapshot force, .render snapshot force ∈ calls →
        snapshot.size = size ∧ snapshot.grid.IsSimple) :
    (p.run calls).Sound caps size := by
  induction calls generalizing p with
  | nil => exact h
  | cons call calls ih =>
      refine
        ih (h.step hScreen ?_)
          (fun s f hMem => hCalls s f (by simp [hMem]))
      rintro s f rfl
      exact hCalls s f (by simp)

------------------------------------------------------------
-- Convergence
------------------------------------------------------------

/-
  After any calls the terminal shows the snapshot that was drawn
  last, which is the one committed.  The next rendering is drawn
  and shown, or it is refused and the terminal stays as it is.
-/
theorem terminal_shows
    (caps : Capabilities)
    {size : Size}
    (hScreen : size.IsScreen)
    {sink : Sink}
    (hAccepts : sink.Accepts)
    (hFresh : sink.received = [])
    {calls : List Call}
    (hCalls :
      ∀ snapshot force, .render snapshot force ∈ calls →
        snapshot.size = size ∧ snapshot.grid.IsSimple) :
    let p := (start caps sink).run calls
    (p.terminal size).parser = .ground ∧
      p.renderer.committed = p.shown ∧
      (p.shown = none →
        (p.terminal size).screen = .blank size.rows size.cols) ∧
      (∀ s, p.shown = some s →
        (p.terminal size).screen.Shows caps s.grid) ∧
      ∀ snapshot force,
        snapshot.size = size → snapshot.grid.IsSimple →
          let q := p.step (.render snapshot force)
          (∃ stats, q.last = some (.drawn stats) ∧
            q.shown = some snapshot ∧
            (q.terminal size).parser = .ground ∧
            (q.terminal size).screen.Shows caps snapshot.grid) ∨
          ∃ e, q.last = some (.refused e) ∧
            q.shown = p.shown ∧
            q.terminal size = p.terminal size := by
  intro p
  have hSound : p.Sound caps size :=
    (sound_start caps size hAccepts hFresh).run hScreen hCalls
  refine
    ⟨hSound.ground, hSound.committed, hSound.blank,
      fun s hs => (hSound.shows s hs).2, ?_⟩
  intro snapshot force hSize hSimple q
  have hNext : q.Sound caps size := by
    apply hSound.step hScreen
    intro s f hSame
    cases hSame
    exact ⟨hSize, hSimple⟩
  cases hPlan : p.renderer.plan snapshot force with
  | error e =>
      have hStep : q = _ := step_of_error hPlan
      exact Or.inr ⟨e, by rw [hStep], by rw [hStep], by rw [hStep]; rfl⟩
  | ok plan =>
      rcases step_of_ok hPlan hSound.accepts with
        ⟨stats, outbox, sink, hStep, _, _⟩
      have hShown : q.shown = some snapshot := by
        rw [show q = _ from hStep]
      refine
        Or.inl
          ⟨stats, by rw [show q = _ from hStep], hShown,
            hNext.ground, (hNext.shows snapshot hShown).2⟩

/- A second half without a first half. -/
def torn : Snapshot where
  seq := 2
  grid := (Grid.blank 1 4).setRaw 0 0 (.continuation .default)

/-
  Calls on a sink that takes three bytes first and is then
  interrupted: a snapshot is drawn, a torn one is refused, and
  the renderer forgets the screen.
-/
theorem terminal_shows_accented :
    (((start .minimal
          { writes := [.atMost 3, .interrupt] }).run
        [.render Plan.accented false, .render torn true,
          .invalidate]).terminal ⟨1, 4⟩).screen.Shows .minimal
      Plan.accented.grid := by
  have hScreen : Size.IsScreen ⟨1, 4⟩ :=
    ⟨by decide, by decide, by decide, by decide⟩
  have hAccepts :
      Sink.Accepts { writes := [.atMost 3, .interrupt] } :=
    ⟨by decide, by decide⟩
  have hCalls :
      ∀ snapshot force,
        .render snapshot force ∈
            [.render Plan.accented false, .render torn true,
              Call.invalidate] →
          snapshot.size = ⟨1, 4⟩ ∧ snapshot.grid.IsSimple := by
    intro snapshot force hMem
    simp only [List.mem_cons, Call.render.injEq, List.not_mem_nil,
      reduceCtorEq, or_false] at hMem
    rcases hMem with ⟨rfl, _⟩ | ⟨rfl, _⟩
    · exact ⟨Plan.size_accented, by decide +kernel⟩
    · exact ⟨by decide +kernel, by decide +kernel⟩
  refine
    (terminal_shows .minimal hScreen hAccepts rfl
      hCalls).2.2.2.1 Plan.accented ?_
  decide +kernel

end Painting

end Redraw
