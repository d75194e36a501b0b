import Redraw.Proofs.Renderer.Silence

/-
  Atomicity: a frame counts as a whole or not at all.

  A rendering goes through a plan, its bytes, their delivery and
  the commitment of its snapshot.  Where it ends before the
  last, what is committed stays what it was.  A snapshot that
  cannot be planned changes nothing else either; a frame that
  was cut short leaves a screen of which nothing is known, so
  that nothing is ever drawn relative to half a frame.

  Key definitions include:
    * `Dispatch.Refuses`, `Dispatch.Withdraws`
    * `Dispatch.Concludes`, `Dispatch.Breaks`
    * `Dispatch.drawn?`

  Main declarations:
    * `Dispatch.atomic`: one of them, by how it ends
    * `Painting.committed_run`
-/

namespace Redraw

------------------------------------------------------------
-- Broken Sinks
------------------------------------------------------------

/- A write breaks off only where its sink does. -/
theorem WriteLog.crash_mem
    {answers : List WriteAnswer}
    {bytes : List UInt8}
    (h : (run answers bytes).outcome = .crashed) :
    .crash ∈ answers := by
  induction answers generalizing bytes with
  | nil => cases bytes <;> cases h
  | cons answer left ih =>
      cases bytes with
      | nil => cases h
      | cons b bytes =>
          cases answer with
          | all => cases h
          | atMost n =>
              cases n with
              | zero => cases h
              | succ n => exact List.mem_cons_of_mem _ (ih h)
          | fail => cases h
          | interrupt => exact List.mem_cons_of_mem _ (ih h)
          | crash => exact List.mem_cons_self

theorem Sink.fst_flush_ne_crashed
    (s : Sink) :
    s.flush.1 ≠ .crashed := by
  unfold flush
  split <;> exact nofun

theorem Outbox.crash_mem
    {o : Outbox}
    {sink : Sink}
    (h : (o.flushTo sink).1 = .crashed) :
    .crash ∈ sink.writes := by
  unfold flushTo at h
  split at h
  · cases h
  · have hDelivery : (sink.deliver o.frame).1 = .crashed := by
      cases hDeliver : sink.deliver o.frame with
      | mk outcome sink' =>
          rw [hDeliver] at h
          cases outcome with
          | done => cases h
          | failed cause => exact h
          | crashed => rfl
    simp only [Sink.deliver, Sink.writeAll] at hDelivery
    cases hOutcome : (WriteLog.run sink.writes o.frame).outcome with
    | done =>
        rw [hOutcome] at hDelivery
        exact absurd hDelivery (Sink.fst_flush_ne_crashed _)
    | failed cause =>
        rw [hOutcome] at hDelivery
        cases hDelivery
    | crashed => exact WriteLog.crash_mem hOutcome

------------------------------------------------------------
-- Endings
------------------------------------------------------------

namespace Dispatch

/- A snapshot without a plan leaves everything as it was. -/
structure Refuses (d : Dispatch) (e : Error) : Prop where
  unplanned : d.renderer.plan d.snapshot d.force = .error e
  unpaired : e.IsPairing
  uncalled : d.outcome.2.2 = d.sink
  committed : d.outcome.2.1.committed = d.renderer.committed
  belief : d.outcome.2.1.belief = d.renderer.belief
  needs :
    ∀ size,
      d.outcome.2.1.needsRepaint size = d.renderer.needsRepaint size
  empty : d.outcome.2.1.outbox.frame = []

/-
  A frame that was not delivered is taken back, and nothing is
  known of the screen, which may show the first bytes of it.
-/
structure Withdraws (d : Dispatch) : Prop where
  cut :
    ∃ plan part,
      d.renderer.plan d.snapshot d.force = .ok plan ∧
        part <+: plan.encode d.renderer.caps ∧
          d.outcome.2.2.received = d.sink.received ++ part
  committed : d.outcome.2.1.committed = d.renderer.committed
  belief : d.outcome.2.1.belief = .unknown
  needs : ∀ size, d.outcome.2.1.needsRepaint size = true
  empty : d.outcome.2.1.outbox.frame = []

/- A frame that was delivered whole is what the screen shows. -/
structure Concludes (d : Dispatch) (stats : FrameStats) : Prop where
  whole :
    ∃ plan,
      d.renderer.plan d.snapshot d.force = .ok plan ∧
        d.outcome.2.2.received =
            d.sink.received ++ plan.encode d.renderer.caps ∧
          stats.bytes = (plan.encode d.renderer.caps).length ∧
            d.outcome.2.1.belief = plan.after
  committed : d.outcome.2.1.committed = some d.snapshot
  needs : d.outcome.2.1.needsRepaint d.snapshot.size = false
  empty : d.outcome.2.1.outbox.frame = []

/-
  A sink that breaks takes the call with it.  The frame stays in
  the outbox until the next one is prepared.
-/
structure Breaks (d : Dispatch) : Prop where
  broken : .crash ∈ d.sink.writes
  committed : d.outcome.2.1.committed = d.renderer.committed
  kept : d.outcome.2.1.outbox.frame = d.frame

/- The snapshot that a rendering draws. -/
def drawn? (d : Dispatch) : Option Snapshot :=
  match d.outcome.1 with
  | .drawn _ => some d.snapshot
  | _ => none

variable {d : Dispatch}
variable {plan : Plan}

/-
  A frame that was planned is taken in part or whole, and ends
  as its delivery does.
-/
theorem exists_delivery
    (h : d.renderer.plan d.snapshot d.force = .ok plan) :
    ∃ (frame : Frame) (left : Outbox) (delivery : Delivery)
        (sink : Sink) (taken : List UInt8),
      frame.snapshot = d.snapshot ∧ frame.after = plan.after ∧
        frame.stats.bytes = (plan.encode d.renderer.caps).length ∧
        sink.received = d.sink.received ++ taken ∧
        taken <+: plan.encode d.renderer.caps ∧
        (delivery = .done → taken = plan.encode d.renderer.caps) ∧
        (delivery = .crashed →
          .crash ∈ d.sink.writes ∧ left.frame = d.frame) ∧
        d.outcome =
          match delivery with
          | .done =>
              (.drawn frame.stats,
                { d.renderer with outbox := left }.commit frame, sink)
          | .failed cause =>
              (.undelivered cause,
                { d.renderer with outbox := left }.invalidate, sink)
          | .crashed =>
              (.crashed, { d.renderer with outbox := left }, sink) := by
  rcases Renderer.prepare_eq_ok h with
    ⟨frame, outbox, hPrepare, hSnapshot, hAfter, -⟩
  rcases d.prepared hPrepare with ⟨hFrame, hBytes, -⟩
  rw [frame_eq h] at hBytes
  rcases outbox.received_flushTo d.sink with
    ⟨taken, hReceived, hFirst, hAll⟩
  rw [hFrame, frame_eq h] at hFirst hAll
  rcases hFlush : outbox.flushTo d.sink with ⟨delivery, left, sink⟩
  rw [hFlush] at hReceived hAll
  let rest := if delivery = .crashed then left else left.clear
  have hCrash :
      delivery = .crashed →
        .crash ∈ d.sink.writes ∧ rest.frame = d.frame := by
    intro hCrashed
    have hEnds : (outbox.flushTo d.sink).1 = .crashed := by
      rw [hFlush, hCrashed]
    have hKept : (outbox.flushTo d.sink).2.1 = outbox :=
      outbox.kept_flushTo (by simp [hEnds])
    rw [hFlush] at hKept
    refine ⟨Outbox.crash_mem hEnds, ?_⟩
    rw [show rest = left from if_pos hCrashed,
      show left = outbox from hKept]
    exact hFrame
  have hDelivered :
      Renderer.flushTo { d.renderer with outbox := outbox } d.sink =
        (delivery, { d.renderer with outbox := rest }, sink) := by
    simp only [Renderer.flushTo, hFlush, rest]
  exact
    ⟨frame, rest, delivery, sink, taken, hSnapshot, hAfter,
      hBytes, hReceived, hFirst, hAll, hCrash,
      (d.outcome_of_prepared hPrepare hDelivered).trans
        (by cases delivery <;> rfl)⟩

theorem refuses_of_plan
    {e : Error}
    (h : d.renderer.plan d.snapshot d.force = .error e) :
    d.outcome.1 = .refused e ∧ d.Refuses e := by
  have hOutcome : d.outcome = _ :=
    Renderer.renderTo_of_refused h d.sink
  refine ⟨by rw [hOutcome], ?_⟩
  exact
    { unplanned := h
      unpaired := d.renderer.onlyFails_plan d.snapshot d.force e h
      uncalled := by rw [hOutcome]
      committed := by rw [hOutcome]
      belief := by rw [hOutcome]
      needs := fun size => by rw [hOutcome]; rfl
      empty := by rw [hOutcome]; rfl }

/- What is drawn is committed, and nothing else is. -/
theorem committed_outcome
    (d : Dispatch) :
    d.outcome.2.1.committed = d.drawn?.or d.renderer.committed := by
  unfold drawn?
  cases hPlan : d.renderer.plan d.snapshot d.force with
  | error e =>
      rcases refuses_of_plan hPlan with ⟨hEnds, hRefuses⟩
      rw [hEnds]
      exact hRefuses.committed
  | ok plan =>
      rcases exists_delivery hPlan with
        ⟨frame, left, delivery, sink, taken, hSnapshot, -, -, -, -,
          -, -, hOutcome⟩
      rw [hOutcome]
      cases delivery with
      | done => exact congrArg some hSnapshot
      | failed cause => rfl
      | crashed => rfl

/-
  A rendering is atomic, whatever the renderer and the sink.  By
  the delivery, if there is a plan.
-/
theorem atomic
    (d : Dispatch) :
    match d.outcome.1 with
    | .refused e => d.Refuses e
    | .undelivered _ => d.Withdraws
    | .drawn stats => d.Concludes stats
    | .crashed => d.Breaks := by
  cases hPlan : d.renderer.plan d.snapshot d.force with
  | error e =>
      rcases refuses_of_plan hPlan with ⟨hEnds, hRefuses⟩
      rw [hEnds]
      exact hRefuses
  | ok plan =>
      rcases exists_delivery hPlan with
        ⟨frame, left, delivery, sink, taken, hSnapshot, hAfter,
          hBytes, hReceived, hFirst, hAll, hCrash, hOutcome⟩
      cases delivery with
      | done =>
          obtain rfl := hAll rfl
          rw [hOutcome]
          exact
            { whole :=
                ⟨plan, hPlan, by rw [hOutcome]; exact hReceived,
                  hBytes, by rw [hOutcome]; exact hAfter⟩
              committed := by
                rw [hOutcome]
                exact congrArg some hSnapshot
              needs := by
                rw [hOutcome]
                simp [Renderer.needsRepaint, Renderer.commit,
                  hSnapshot]
              empty := by
                apply frame_outcome
                simp [hOutcome] }
      | failed cause =>
          rw [hOutcome]
          exact
            { cut :=
                ⟨plan, taken, hPlan, hFirst, by
                  rw [hOutcome]
                  exact hReceived⟩
              committed := by rw [hOutcome]; rfl
              belief := by rw [hOutcome]; rfl
              needs := fun size => by rw [hOutcome]; rfl
              empty := by rw [hOutcome]; rfl }
      | crashed =>
          rcases hCrash rfl with ⟨hBroken, hKept⟩
          rw [hOutcome]
          exact
            { broken := hBroken
              committed := by rw [hOutcome]
              kept := by
                rw [hOutcome]
                exact hKept }

end Dispatch

------------------------------------------------------------
-- Runs
------------------------------------------------------------

namespace Painting

/- So the last snapshot that was drawn is what a run commits. -/
theorem committed_run
    (p : Painting)
    (calls : List Call) :
    (p.run calls).renderer.committed =
      ((p.dispatches calls).filterMap Dispatch.drawn?).getLast?.or
        p.renderer.committed := by
  induction calls generalizing p with
  | nil => rfl
  | cons call calls ih =>
      have hRun : p.run (call :: calls) = (p.step call).run calls :=
        rfl
      rw [hRun, ih]
      cases call with
      | invalidate => rfl
      | render snapshot force =>
          have hStep :=
            (p.dispatch snapshot force).committed_outcome
          change
            (p.step (.render snapshot force)).renderer.committed = _
            at hStep
          rw [hStep, dispatches, List.filterMap_cons]
          cases (p.dispatch snapshot force).drawn? with
          | none => rfl
          | some drawn =>
              simp [List.getLast?_cons]

end Painting

end Redraw
