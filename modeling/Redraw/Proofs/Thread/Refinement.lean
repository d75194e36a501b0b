import Redraw.Proofs.Renderer.Dispatches
import Redraw.Proofs.Thread.Fates

/-
  Refinement: the drawing thread is a renderer that is called
  once for every snapshot it picks.

  The thread plans, encodes, delivers and commits in steps, and
  producers act between them.  Still it does to its renderer and
  to the sink what the calls that it owes do one after another,
  and reports on each of them.

  Key definitions include:
    * `Dispatch.report?`: what is reported of a rendering
    * `Dispatch.UnderWay`: a rendering that goes step by step
    * `Watch.Replays`: as far as the calls have got

  Main declarations:
    * `Dispatch.UnderWay.work`: each step goes on with it
    * `Watch.Replays.step`, `Watch.Replays.run`
    * `Watch.refines_renderer`
-/

namespace Redraw

------------------------------------------------------------
-- Renderings Step by Step
------------------------------------------------------------

namespace Dispatch

/- What is to be reported; nothing, if the sink broke. -/
def report? (d : Dispatch) : Option Report :=
  match d.outcome.1 with
  | .drawn stats => some (.committed d.snapshot.seq stats)
  | .refused e => some (.rejected d.snapshot.seq e)
  | .undelivered cause => some (.failed (.outputWriteFailure cause))
  | .crashed => none

/- The cycle that a rendering is for the thread. -/
def cycle (d : Dispatch) : Cycle :=
  ⟨d.snapshot, d.force, d.renderer⟩

/-
  How far the thread has got with a rendering: up to the call of
  the sink it has what `prepare` makes, and after it what the
  whole call comes to.
-/
def UnderWay
    (d : Dispatch)
    (x : Exchange) : Prop :=
  match x.worker.stage with
  | .planning s force =>
      s = d.snapshot ∧ force = d.force ∧
        x.worker.renderer = d.renderer ∧ x.sink = d.sink
  | .encoding s plan =>
      s = d.snapshot ∧ d.renderer.plan d.snapshot d.force = .ok plan ∧
        x.worker.renderer = d.renderer ∧ x.sink = d.sink
  | .writing frame =>
      d.renderer.prepare d.snapshot d.force =
          (.ok frame, x.worker.renderer) ∧
        x.sink = d.sink
  | .settling frame none =>
      frame.snapshot = d.snapshot ∧
        d.outcome = (.drawn frame.stats, x.worker.renderer, x.sink)
  | .settling _ (some cause) =>
      d.outcome = (.undelivered cause, x.worker.renderer, x.sink)
  | .reporting report =>
      d.report? = some report ∧
        d.outcome.2 = (x.worker.renderer, x.sink)
  | .dead => d.outcome = (.crashed, x.worker.renderer, x.sink)
  | .seeking => False
  | .stopped => False

/- A renderer with an empty outbox prepares what it plans. -/
theorem prepare_of_plan
    (d : Dispatch)
    (hEmpty : d.renderer.outbox.frame = []) :
    d.renderer.prepare d.snapshot d.force =
      match d.renderer.plan d.snapshot d.force with
      | .error e => (.error e, d.renderer)
      | .ok plan =>
          (.ok (d.renderer.encode d.snapshot plan).1,
            (d.renderer.encode d.snapshot plan).2) := by
  have hSame :
      { d.renderer with outbox := d.renderer.outbox.clear } =
        d.renderer := by
    rw [Outbox.clear, ← hEmpty]
  cases hPlan : d.renderer.plan d.snapshot d.force with
  | error e => simp only [Renderer.prepare, hSame, hPlan]
  | ok plan => simp only [Renderer.prepare, hSame, hPlan]

/- The thread goes on with a rendering. -/
theorem UnderWay.work
    {d : Dispatch}
    {x : Exchange}
    (h : d.UnderWay x)
    (hEmpty : d.renderer.outbox.frame = [])
    (hDrawing : x.worker.stage.isDrawing = true)
    (due : Bool) :
    d.UnderWay (x.work due) := by
  have hPrepare := d.prepare_of_plan hEmpty
  rcases Stage.isDrawing_cases hDrawing with
    ⟨s, force, hStage⟩ | ⟨s, plan, hStage⟩ | ⟨frame, hStage⟩ |
      ⟨frame, failure, hStage⟩
  · simp only [UnderWay, hStage] at h
    rcases h with ⟨rfl, rfl, hRenderer, hSink⟩
    simp only [Exchange.work, hStage, Worker.planNext, hRenderer]
    split
    · rename_i plan hPlan
      exact ⟨rfl, hPlan, rfl, hSink⟩
    · rename_i e hPlan
      rw [hPlan] at hPrepare
      have hOutcome := d.outcome_of_refused hPrepare
      refine ⟨?_, ?_⟩
      · rw [report?, hOutcome]
      · rw [hOutcome]
        simp only [hSink]
  · simp only [UnderWay, hStage] at h
    rcases h with ⟨rfl, hPlan, hRenderer, hSink⟩
    rw [hPlan] at hPrepare
    simp only [Exchange.work, hStage, Worker.encodeNext, hRenderer]
    exact ⟨hPrepare, hSink⟩
  · simp only [UnderWay, hStage] at h
    rcases h with ⟨hFrame, hSink⟩
    simp only [Exchange.work, hStage, Worker.writeNext, hSink]
    split
    · rename_i hFlush
      exact
        ⟨(d.prepared hFrame).2.2, d.outcome_of_prepared hFrame hFlush⟩
    · rename_i hFlush
      exact d.outcome_of_prepared hFrame hFlush
    · rename_i hFlush
      exact d.outcome_of_prepared hFrame hFlush
  · simp only [UnderWay, hStage] at h
    simp only [Exchange.work, hStage, Worker.settleNext]
    cases failure with
    | none =>
        refine ⟨?_, ?_⟩
        · rw [report?, h.2, h.1]
        · rw [h.2]
    | some cause =>
        refine ⟨?_, ?_⟩
        · rw [report?, h]
        · rw [h]

/- The sink is as it was met, or as the whole call leaves it. -/
theorem UnderWay.sink
    {d : Dispatch}
    {x : Exchange}
    (h : d.UnderWay x) :
    x.sink = d.sink ∨ x.sink = d.outcome.2.2 := by
  unfold UnderWay at h
  split at h
  · exact Or.inl h.2.2.2
  · exact Or.inl h.2.2.2
  · exact Or.inl h.2
  · exact Or.inr (congrArg (·.2.2) h.2).symm
  · exact Or.inr (congrArg (·.2.2) h).symm
  · exact Or.inr (congrArg Prod.snd h.2).symm
  · exact Or.inr (congrArg (·.2.2) h).symm
  · exact h.elim
  · exact h.elim

end Dispatch

------------------------------------------------------------
-- Forgetting
------------------------------------------------------------

namespace Painting

variable (p : Painting)

/- To forget the screen is not a rendering. -/
theorem dispatches_append_forgetting
    (calls : List Call)
    (m : Mailbox) :
    p.dispatches (calls ++ m.forgetting) = p.dispatches calls := by
  rw [p.dispatches_append]
  unfold Mailbox.forgetting
  split <;> exact List.append_nil _

/- The call to forget does what the thread does on request. -/
theorem run_append_forgetting
    (calls : List Call)
    (m : Mailbox) :
    (p.run (calls ++ m.forgetting)).renderer =
        (Worker.takeInvalidate m (p.run calls).renderer).2 ∧
      (p.run (calls ++ m.forgetting)).sink = (p.run calls).sink := by
  rw [p.run_append]
  unfold Mailbox.forgetting Worker.takeInvalidate
  split <;> exact ⟨rfl, rfl⟩

end Painting

------------------------------------------------------------
-- The Invariant
------------------------------------------------------------

namespace Watch

/-
  The thread has got as far as these calls do.  All that are
  done with are reported; what is left is the rendering under
  way, if there is one.
-/
structure Replays
    (p : Painting)
    (calls done : List Call)
    (w : Watch) : Prop where
  reports :
    (p.dispatches done).map Dispatch.report? =
      w.exchange.reports.map some
  log : (p.dispatches done).map Dispatch.cycle = w.log.map Prod.fst
  resting :
    w.cycle = none →
      done = calls ∧
        w.exchange.worker.renderer = (p.run calls).renderer ∧
        w.exchange.sink = (p.run calls).sink
  drawing :
    ∀ c ∈ w.cycle,
      calls = done ++ [.render c.snapshot c.force] ∧
        ((p.run done).dispatch c.snapshot c.force).cycle = c ∧
        ((p.run done).dispatch c.snapshot c.force).UnderWay w.exchange

namespace Replays

variable {p : Painting}
variable {accepted : List Snapshot}
variable {calls done : List Call}
variable {w : Watch}

theorem start
    (caps : Capabilities)
    (sink : Sink) :
    Replays (.start caps sink) [] [] (.start (.start caps sink)) where
  reports := rfl
  log := rfl
  resting _ := ⟨rfl, rfl, rfl⟩
  drawing := by simp [Watch.start]

/- Producers do not interfere. -/
theorem quiet
    (h : Replays p calls done w)
    (m : Mailbox) :
    Replays p calls done (w.withMailbox m) :=
  ⟨h.reports, h.log, h.resting, h.drawing⟩

/- A search for work is a call to forget, or none. -/
theorem rested
    (h : Replays p calls done w)
    (hNone : w.cycle = none)
    (m : Mailbox)
    (next : Stage) :
    Replays p (calls ++ w.exchange.mailbox.forgetting)
      (calls ++ w.exchange.mailbox.forgetting)
      { w with exchange := w.exchange.sought m next } := by
  rcases h.resting hNone with ⟨rfl, hRenderer, hSink⟩
  have hForget := p.run_append_forgetting done w.exchange.mailbox
  rw [← hRenderer, ← hSink] at hForget
  have hSame := p.dispatches_append_forgetting done w.exchange.mailbox
  constructor
  case reports =>
    rw [hSame]
    exact h.reports
  case log =>
    rw [hSame]
    exact h.log
  case resting => exact fun _ => ⟨rfl, hForget.1.symm, hForget.2.symm⟩
  case drawing =>
    intro c hc
    cases hNone.symm.trans hc

/- A snapshot that is picked is a call to render. -/
theorem picked
    (h : Replays p calls done w)
    (hNone : w.cycle = none)
    (s : Snapshot) :
    Replays p
      (calls ++ w.exchange.mailbox.forgetting
        ++ [.render s w.exchange.mailbox.force])
      (calls ++ w.exchange.mailbox.forgetting)
      (w.afterPick s) := by
  rcases h.resting hNone with ⟨rfl, hRenderer, hSink⟩
  have hForget := p.run_append_forgetting done w.exchange.mailbox
  rw [← hRenderer, ← hSink] at hForget
  have hSame := p.dispatches_append_forgetting done w.exchange.mailbox
  constructor
  case reports =>
    rw [hSame]
    exact h.reports
  case log =>
    rw [hSame]
    exact h.log
  case resting => simp [Watch.afterPick]
  case drawing =>
    intro c hc
    cases hc
    refine ⟨rfl, ?_, rfl, rfl, ?_, ?_⟩
    · simp only [Dispatch.cycle, Painting.dispatch, hForget.1]
    · exact hForget.1.symm
    · exact hForget.2.symm

/- The sink did not break in a call that is done with. -/
theorem unbroken
    (h : Replays p calls done w) :
    ∀ d ∈ p.dispatches done, d.outcome.1 ≠ .crashed := by
  intro d hd hCrashed
  have hReport : d.report? ∈ w.exchange.reports.map some := by
    rw [← h.reports]
    exact List.mem_map_of_mem hd
  rw [Dispatch.report?, hCrashed] at hReport
  simp at hReport

/- The thread goes on with a rendering. -/
theorem drew
    (h : Replays p calls done w)
    (hEmpty : p.renderer.outbox.frame = [])
    {c : Cycle}
    (hCycle : w.cycle = some c)
    (hDrawing : w.exchange.worker.stage.isDrawing = true)
    (due : Bool) :
    Replays p calls done
      { w with exchange := w.exchange.work due } := by
  constructor
  case reports =>
    rw [w.exchange.reports_drawing hDrawing]
    exact h.reports
  case log => exact h.log
  case resting =>
    intro hNone
    cases hNone.symm.trans hCycle
  case drawing =>
    intro d hd
    rcases h.drawing d hd with ⟨hCalls, hSame, hUnderWay⟩
    have hReady := Painting.frame_run hEmpty h.unbroken
    exact ⟨hCalls, hSame, hUnderWay.work hReady hDrawing due⟩

/- When the thread reports, the call to render is done with. -/
theorem reported
    (h : Replays p calls done w)
    {c : Cycle}
    (hCycle : w.cycle = some c)
    {report : Report}
    (hStage : w.exchange.worker.stage = .reporting report) :
    Replays p calls calls (w.afterReport report) := by
  rcases h.drawing c hCycle with ⟨rfl, hSame, hUnderWay⟩
  simp only [Dispatch.UnderWay, hStage] at hUnderWay
  rcases hUnderWay with ⟨hReport, hLeft⟩
  have hDispatches :
      p.dispatches (done ++ [.render c.snapshot c.force]) =
        p.dispatches done
          ++ [(p.run done).dispatch c.snapshot c.force] := by
    rw [p.dispatches_append]
    rfl
  have hStep := (p.run done).step_render c.snapshot c.force
  rw [hLeft] at hStep
  rcases Prod.ext_iff.mp hStep with ⟨hRenderer, hSink⟩
  constructor
  case reports =>
    rw [hDispatches, List.map_append, h.reports]
    simp [Watch.afterReport, hReport]
  case log =>
    rw [hDispatches, List.map_append, h.log]
    simp [Watch.afterReport, hSame, hCycle]
  case resting =>
    intro _
    rw [p.run_append]
    exact ⟨rfl, hRenderer.symm, hSink.symm⟩
  case drawing => simp [Watch.afterReport]

/- Every event goes on with the calls. -/
theorem step
    (h : Replays p calls done w)
    (hEmpty : p.renderer.outbox.frame = [])
    (hNumbered : Numbered accepted w)
    (e : Event) :
    ∃ done', Replays p (calls ++ w.exchange.calls e) done' (w.step e) := by
  have hTurns := w.turns_step e
  generalize w.step e = w' at hTurns ⊢
  cases hTurns with
  | quiet m snapshots asked accepted replaced dropped hCalls =>
      rw [hCalls, List.append_nil]
      exact ⟨done, h.quiet m⟩
  | submitted s event =>
      subst event
      simp only [Exchange.calls, List.append_nil]
      exact ⟨done, h.quiet _⟩
  | resized size event =>
      subst event
      simp only [Exchange.calls, List.append_nil]
      exact ⟨done, h.quiet _⟩
  | rested due event stage m next ends snapshots asked hCalls =>
      rw [hCalls]
      exact ⟨_, h.rested (hNumbered.cycle_of_seeking stage) m next⟩
  | picked due event stage s source hCalls =>
      rw [hCalls, ← List.append_assoc]
      exact ⟨_, h.picked (hNumbered.cycle_of_seeking stage) s⟩
  | drew due event hDrawing =>
      subst event
      rcases hNumbered.exists_cycle_of_drawing hDrawing with
        ⟨c, hCycle, _⟩
      rw [Exchange.calls, if_neg (Stage.ne_of_isDrawing hDrawing).1,
        List.append_nil]
      exact ⟨done, h.drew hEmpty hCycle hDrawing due⟩
  | reported due event report stage =>
      subst event
      have hBusy : w.exchange.worker.stage ≠ .seeking := by
        intro hStage
        cases stage.symm.trans hStage
      rcases hNumbered.exists_cycle_of_reporting stage with
        ⟨c, hCycle, _⟩
      rw [Exchange.calls, if_neg hBusy, List.append_nil]
      exact ⟨calls, h.reported hCycle stage⟩

/- And so do events one after another. -/
theorem run
    (h : Replays p calls done w)
    (hEmpty : p.renderer.outbox.frame = [])
    (hNumbered : Numbered accepted w)
    (events : List Event) :
    ∃ done',
      Replays p (calls ++ w.exchange.collect Exchange.calls events)
        done' (w.run events) := by
  induction events generalizing accepted calls done w with
  | nil =>
      rw [Exchange.collect, List.append_nil]
      exact ⟨done, h⟩
  | cons e later ih =>
      rcases h.step hEmpty hNumbered e with ⟨next, hNext⟩
      have hLater := ih hNext (hNumbered.step e)
      rw [exchange_step, List.append_assoc] at hLater
      exact hLater

end Replays

------------------------------------------------------------
-- Refinement
------------------------------------------------------------

/- What was picked is what the calls to render are about. -/
theorem Replays.cycles
    {p : Painting}
    {calls done : List Call}
    {w : Watch}
    (h : Replays p calls done w) :
    (p.dispatches calls).map Dispatch.cycle = w.picked := by
  cases hCycle : w.cycle with
  | none =>
      rcases h.resting hCycle with ⟨rfl, _⟩
      simp [Watch.picked, hCycle, h.log]
  | some c =>
      rcases h.drawing c hCycle with ⟨rfl, hSame, _⟩
      simp only [p.dispatches_append, List.map_append, h.log,
        Watch.picked, hCycle, Option.toList_some, Painting.dispatches,
        List.map_cons, List.map_nil, hSame]

/-
  The sink is as the calls leave it, without the rendering under
  way or with it.
-/
theorem Replays.sink
    {p : Painting}
    {calls done : List Call}
    {w : Watch}
    (h : Replays p calls done w) :
    ∃ sent, done <+: sent ∧ sent <+: calls ∧
      w.exchange.sink = (p.run sent).sink := by
  cases hCycle : w.cycle with
  | none =>
      rcases h.resting hCycle with ⟨rfl, _, hSink⟩
      exact ⟨done, List.prefix_rfl, List.prefix_rfl, hSink⟩
  | some c =>
      rcases h.drawing c hCycle with ⟨rfl, _, hUnderWay⟩
      have hDone := List.prefix_append done [.render c.snapshot c.force]
      rcases hUnderWay.sink with hSink | hSink
      · exact ⟨done, List.prefix_rfl, hDone, hSink⟩
      · refine ⟨_, hDone, List.prefix_rfl, ?_⟩
        rw [p.run_append]
        exact hSink

/-
  The drawing thread does what a renderer of its own would do,
  called for each snapshot that was picked and told to forget
  the screen when that was taken from the mailbox.  The calls
  that are done with have their reports, one each; all are done
  with but the one under way.  What the sink received is what
  the renderings sent: whole frames for those that were drawn,
  which count their bytes, first bytes of those that failed, and
  nothing for those refused.  Snapshots picked for the first
  time were accepted, and each is picked so only once; all
  others are committed when they are picked.
-/
theorem refines_renderer
    (caps : Capabilities)
    (sink : Sink)
    (events : List Event) :
    let x := Exchange.start caps sink
    let w := (start x).run events
    let p := Painting.start caps sink
    let calls := x.collect Exchange.calls events
    ∃ done sent,
      done <+: sent ∧ sent <+: calls ∧
        calls.length ≤ done.length + 1 ∧
        (w.cycle = none →
          done = calls ∧
            w.exchange.worker.renderer = (p.run calls).renderer) ∧
        (p.dispatches done).map Dispatch.report? =
          w.exchange.reports.map some ∧
        w.exchange.sink = (p.run sent).sink ∧
        w.exchange.sink.received =
          sink.received ++ (p.dispatches sent).flatMap Dispatch.sent ∧
        (∀ d ∈ p.dispatches calls, d.Sound) ∧
        (p.dispatches calls).map Dispatch.cycle = w.picked ∧
        (Cycle.fresh w.picked).Nodup ∧
        ∀ s ∈ Cycle.fresh w.picked,
          s ∈ x.collect Exchange.accepted events := by
  intro x w p calls
  have hAccounted :
      Accounted (x.collect Exchange.accepted events)
        (x.collect Exchange.replaced events)
        (x.collect Exchange.dropped events) w :=
    (Accounted.start caps sink).run (Numbered.start caps sink) events
  have hNumbered : Numbered (x.collect Exchange.accepted events) w :=
    (Numbered.start caps sink).run events
  have hRun : ∃ done, Replays p calls done w :=
    (Replays.start caps sink).run rfl (Numbered.start caps sink) events
  rcases hRun with ⟨done, hReplays⟩
  rcases hReplays.sink with ⟨sent, hDone, hSent, hSink⟩
  refine
    ⟨done, sent, hDone, hSent, ?_, ?_, hReplays.reports, hSink, ?_,
      fun d _ => d.sound.2, hReplays.cycles, ?_, ?_⟩
  · cases hCycle : w.cycle with
    | none =>
        rw [(hReplays.resting hCycle).1]
        omega
    | some c =>
        rw [(hReplays.drawing c hCycle).1]
        simp
  · intro hNone
    rcases hReplays.resting hNone with ⟨hAll, hRenderer, _⟩
    exact ⟨hAll, hRenderer⟩
  · rw [hSink]
    exact p.received_run sent
  · have hNodup := hAccounted.conserved.nodup_iff.mp hNumbered.nodup
    simp only [List.append_assoc] at hNodup
    exact (List.nodup_append.mp hNodup).1
  · intro s hs
    apply hAccounted.conserved.mem_iff.mpr
    simp [hs]

/-
  A frame is not delivered, and after a reset the committed
  snapshot is drawn again.
-/
example :
    let x := Exchange.start .minimal { writes := [.all, .atMost 1, .fail] }
    let blank : Snapshot := { seq := 2, grid := .blank 1 4 }
    let events :=
      drawn plain ++ drawn blank
        ++ .reset :: List.replicate 6 (.work true)
    x.collect Exchange.calls events =
      [.render plain false, .render blank false, .invalidate,
        .render plain true] := by
  decide +kernel

end Watch

end Redraw
