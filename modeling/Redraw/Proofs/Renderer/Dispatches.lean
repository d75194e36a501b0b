import Redraw.Proofs.Renderer.Convergence

/-
  Dispatches: what each rendering sends, whatever the sink does.

  Of a frame that was drawn the sink received every byte, of one
  that was not delivered the first bytes, and for a snapshot
  that was refused it is not called.  What a sink received after
  a run of calls is what the renderings of the run sent, one
  after another.

  Key definitions include:
    * `Dispatch`: a call to render, and what it meets
    * `Dispatch.frame`, `Dispatch.sent`
    * `Dispatch.report?`: what is reported of it
    * `Painting.dispatches`: the renderings of a run

  Main declarations:
    * `Dispatch.sound`: frames are sent whole or cut short
    * `Painting.received_run`
-/

namespace Redraw

------------------------------------------------------------
-- Deliveries
------------------------------------------------------------

/-
  The first bytes are taken, and all of them if the sink does
  not fail.
-/
theorem WriteLog.taken_run
    (answers : List WriteAnswer)
    (bytes : List UInt8) :
    (run answers bytes).taken <+: bytes ∧
      ((run answers bytes).outcome = .done →
        (run answers bytes).taken = bytes) := by
  induction answers generalizing bytes with
  | nil => cases bytes <;> simp [run]
  | cons answer left ih =>
      cases bytes with
      | nil => simp [run]
      | cons b bytes =>
          cases answer with
          | all => simp [run]
          | atMost n =>
              cases n with
              | zero => simp [run]
              | succ n =>
                  rcases ih ((b :: bytes).drop (n + 1)) with
                    ⟨hFirst, hAll⟩
                  have hSplit :=
                    List.take_append_drop (n + 1) (b :: bytes)
                  simp only [run, after]
                  refine ⟨?_, fun hDone => ?_⟩
                  · conv => rhs; rw [← hSplit]
                    exact
                      (List.prefix_append_right_inj _).mpr hFirst
                  · rw [hAll hDone, hSplit]
          | fail => simp [run]
          | interrupt =>
              simp only [run, after, List.nil_append]
              exact ih (b :: bytes)
          | crash => simp [run]

/- Nothing is received by a flush. -/
theorem Sink.received_flush (s : Sink) :
    s.flush.2.received = s.received := by
  unfold flush
  split <;> rfl

/- A sink receives the first bytes of what it is offered. -/
theorem Sink.received_deliver
    (s : Sink)
    (bytes : List UInt8) :
    ∃ taken,
      (s.deliver bytes).2.received = s.received ++ taken ∧
        taken <+: bytes ∧
          ((s.deliver bytes).1 = .done → taken = bytes) := by
  rcases WriteLog.taken_run s.writes bytes with ⟨hFirst, hAll⟩
  refine ⟨(WriteLog.run s.writes bytes).taken, ?_, hFirst, ?_⟩
  · simp only [deliver, writeAll]
    cases hOutcome : (WriteLog.run s.writes bytes).outcome with
    | done => exact received_flush _
    | failed cause => rfl
    | crashed => rfl
  · intro hDone
    simp only [deliver, writeAll] at hDone
    cases hOutcome : (WriteLog.run s.writes bytes).outcome with
    | done => exact hAll hOutcome
    | failed cause =>
        rw [hOutcome] at hDone
        cases hDone
    | crashed =>
        rw [hOutcome] at hDone
        cases hDone

/- So it is with a frame, which may be empty. -/
theorem Outbox.received_flushTo
    (o : Outbox)
    (sink : Sink) :
    ∃ taken,
      (o.flushTo sink).2.2.received = sink.received ++ taken ∧
        taken <+: o.frame ∧
          ((o.flushTo sink).1 = .done → taken = o.frame) := by
  unfold flushTo
  split
  · rename_i hEmpty
    have hNil : o.frame = [] := List.isEmpty_iff.mp hEmpty
    exact ⟨[], by simp, by simp, fun _ => hNil.symm⟩
  · rcases sink.received_deliver o.frame with
      ⟨taken, hReceived, hFirst, hAll⟩
    refine ⟨taken, ?_, hFirst, ?_⟩
    · cases hDeliver : sink.deliver o.frame with
      | mk outcome sink' =>
          rw [hDeliver] at hReceived
          cases outcome <;> exact hReceived
    · intro hDone
      apply hAll
      cases hDeliver : sink.deliver o.frame with
      | mk outcome sink' =>
          rw [hDeliver] at hDone
          cases outcome with
          | done => rfl
          | failed cause => exact hDone
          | crashed => exact hDone

/- A frame that is not delivered stays in its outbox. -/
theorem Outbox.kept_flushTo
    (o : Outbox)
    {sink : Sink}
    (h : (o.flushTo sink).1 ≠ .done) :
    (o.flushTo sink).2.1 = o := by
  unfold flushTo at h ⊢
  split
  · rfl
  · rename_i hSome
    rw [if_neg hSome] at h
    cases hDeliver : sink.deliver o.frame with
    | mk outcome sink' =>
        rw [hDeliver] at h
        cases outcome with
        | done => exact absurd rfl h
        | failed cause => rfl
        | crashed => rfl

/- Of a renderer it does not, unless the sink broke. -/
theorem Renderer.frame_flushTo
    (r : Renderer)
    {sink : Sink}
    (h : (r.flushTo sink).1 ≠ .crashed) :
    (r.flushTo sink).2.1.outbox.frame = [] := by
  simp only [flushTo] at h ⊢
  rw [if_neg h, Outbox.clear]

------------------------------------------------------------
-- Dispatches
------------------------------------------------------------

/- A call to render, with the renderer and the sink it meets. -/
structure Dispatch where
  renderer : Renderer
  sink : Sink
  snapshot : Snapshot
  force : Bool
  deriving DecidableEq

namespace Dispatch

/- How it ends, and what it leaves. -/
def outcome (d : Dispatch) : Renderer.Rendering × Renderer × Sink :=
  d.renderer.renderTo d.snapshot d.force d.sink

/- The bytes that are ready for the sink. -/
def frame (d : Dispatch) : List UInt8 :=
  (d.renderer.prepare d.snapshot d.force).2.outbox.frame

/- The bytes that the sink receives. -/
def sent (d : Dispatch) : List UInt8 :=
  d.outcome.2.2.received.drop d.sink.received.length

/-
  A frame that was drawn is sent whole, and its bytes are
  counted.  A refused snapshot leaves the sink alone, and of any
  other frame the first bytes are sent.
-/
def Sound (d : Dispatch) : Prop :=
  match d.outcome.1 with
  | .drawn stats => d.sent = d.frame ∧ stats.bytes = d.sent.length
  | .refused _ => d.outcome.2.2 = d.sink
  | .undelivered _ => d.sent <+: d.frame
  | .crashed => d.sent <+: d.frame

/- What was prepared is in the outbox, and its bytes are counted. -/
theorem prepared
    (d : Dispatch)
    {frame : Frame}
    {r : Renderer}
    (h : d.renderer.prepare d.snapshot d.force = (.ok frame, r)) :
    r.outbox.frame = d.frame ∧ frame.stats.bytes = d.frame.length ∧
      frame.snapshot = d.snapshot := by
  have hFrame : d.frame = r.outbox.frame := by
    rw [Dispatch.frame, h]
  refine ⟨hFrame.symm, ?_⟩
  rw [hFrame]
  simp only [Renderer.prepare] at h
  split at h
  · cases h
  · rcases Prod.ext_iff.mp h with ⟨hOk, hRenderer⟩
    cases hOk
    simp only at hRenderer
    rw [← hRenderer]
    exact ⟨rfl, rfl⟩

/- Without a frame there is nothing to send. -/
theorem outcome_of_refused
    (d : Dispatch)
    {e : Error}
    {r : Renderer}
    (h : d.renderer.prepare d.snapshot d.force = (.error e, r)) :
    d.outcome = (.refused e, r, d.sink) := by
  simp only [outcome, Renderer.renderTo, h]

/- How a frame that was prepared is delivered is how it ends. -/
theorem outcome_of_prepared
    (d : Dispatch)
    {frame : Frame}
    {r r' : Renderer}
    {delivery : Delivery}
    {sink : Sink}
    (h : d.renderer.prepare d.snapshot d.force = (.ok frame, r))
    (hFlush : r.flushTo d.sink = (delivery, r', sink)) :
    d.outcome =
      match delivery with
      | .done => (.drawn frame.stats, r'.commit frame, sink)
      | .failed cause => (.undelivered cause, r'.invalidate, sink)
      | .crashed => (.crashed, r', sink) := by
  cases delivery <;>
    simp only [outcome, Renderer.renderTo, h, hFlush]

/- No frame is left in the outbox, unless the sink broke. -/
theorem frame_outcome
    {d : Dispatch}
    (h : d.outcome.1 ≠ .crashed) :
    d.outcome.2.1.outbox.frame = [] := by
  rcases hPrepare : d.renderer.prepare d.snapshot d.force with
    ⟨result, r⟩
  cases result with
  | error e =>
      rw [d.outcome_of_refused hPrepare]
      simp only [Renderer.prepare] at hPrepare
      split at hPrepare <;> cases hPrepare
      rfl
  | ok frame =>
      have hEmpty := @r.frame_flushTo d.sink
      rcases hFlush : r.flushTo d.sink with ⟨delivery, r', sink⟩
      rw [hFlush] at hEmpty
      rw [d.outcome_of_prepared hPrepare hFlush] at h ⊢
      cases delivery with
      | done => exact hEmpty (by simp)
      | failed cause => rfl
      | crashed => exact absurd rfl h

/- The sink receives what is sent, and that is as it should be. -/
theorem sound (d : Dispatch) :
    d.outcome.2.2.received = d.sink.received ++ d.sent ∧
      d.Sound := by
  rcases hPrepare : d.renderer.prepare d.snapshot d.force with
    ⟨result, r⟩
  cases result with
  | error e =>
      have hOutcome := d.outcome_of_refused hPrepare
      simp [Sound, sent, hOutcome]
  | ok frame =>
      rcases d.prepared hPrepare with ⟨hFrame, hBytes, _⟩
      rcases r.outbox.received_flushTo d.sink with
        ⟨taken, hReceived, hFirst, hAll⟩
      rw [hFrame] at hFirst hAll
      rcases hFlush : r.flushTo d.sink with ⟨delivery, r', sink⟩
      have hOutcome := d.outcome_of_prepared hPrepare hFlush
      have hDelivery : (r.outbox.flushTo d.sink).1 = delivery :=
        congrArg Prod.fst hFlush
      have hSink : (r.outbox.flushTo d.sink).2.2 = sink :=
        congrArg (·.2.2) hFlush
      rw [hSink] at hReceived
      rw [hDelivery] at hAll
      have hLeft : d.outcome.2.2 = sink := by
        rw [hOutcome]
        cases delivery <;> rfl
      have hSent : d.sent = taken := by
        rw [sent, hLeft, hReceived, List.drop_left]
      refine ⟨by rw [hLeft, hReceived, hSent], ?_⟩
      rw [Sound, hOutcome, hSent]
      cases delivery with
      | done =>
          rw [hAll rfl]
          exact ⟨rfl, hBytes⟩
      | failed cause => exact hFirst
      | crashed => exact hFirst

end Dispatch

------------------------------------------------------------
-- Runs
------------------------------------------------------------

namespace Painting

/- A call to render is met by the painting as it is. -/
def dispatch
    (p : Painting)
    (snapshot : Snapshot)
    (force : Bool) : Dispatch :=
  ⟨p.renderer, p.sink, snapshot, force⟩

/- The renderings of a run, in order. -/
def dispatches
    (p : Painting) :
    List Call → List Dispatch
  | [] => []
  | .render snapshot force :: later =>
      p.dispatch snapshot force
        :: (p.step (.render snapshot force)).dispatches later
  | .invalidate :: later => (p.step .invalidate).dispatches later

variable (p : Painting)

theorem run_append (calls later : List Call) :
    p.run (calls ++ later) = (p.run calls).run later := by
  simp [run]

theorem dispatches_append (calls later : List Call) :
    p.dispatches (calls ++ later) =
      p.dispatches calls ++ (p.run calls).dispatches later := by
  induction calls generalizing p with
  | nil => rfl
  | cons call calls ih =>
      cases call <;> simp [dispatches, run, ih]

/- What a rendering leaves is what the next call meets. -/
theorem step_render
    (snapshot : Snapshot)
    (force : Bool) :
    ((p.step (.render snapshot force)).renderer,
        (p.step (.render snapshot force)).sink) =
      (p.dispatch snapshot force).outcome.2 :=
  rfl

/- The sink receives what is sent, one frame after another. -/
theorem received_run (calls : List Call) :
    (p.run calls).sink.received =
      p.sink.received
        ++ (p.dispatches calls).flatMap Dispatch.sent := by
  induction calls generalizing p with
  | nil => simp [run, dispatches]
  | cons call calls ih =>
      have hRun : p.run (call :: calls) = (p.step call).run calls :=
        rfl
      rw [hRun, ih]
      cases call with
      | invalidate => rfl
      | render snapshot force =>
          have hSent := (p.dispatch snapshot force).sound.1
          simp only [dispatches, List.flatMap_cons,
            ← List.append_assoc]
          exact congrArg (· ++ _) hSent

/-
  No frame is left in the outbox between calls, as long as the
  sink does not break.
-/
theorem frame_run
    {p : Painting}
    (hEmpty : p.renderer.outbox.frame = [])
    {calls : List Call}
    (hUnbroken : ∀ d ∈ p.dispatches calls, d.outcome.1 ≠ .crashed) :
    (p.run calls).renderer.outbox.frame = [] := by
  induction calls generalizing p with
  | nil => exact hEmpty
  | cons call calls ih =>
      cases call with
      | invalidate => exact ih rfl hUnbroken
      | render snapshot force =>
          rcases List.forall_mem_cons.mp hUnbroken with
            ⟨hFirst, hLater⟩
          apply ih
          · exact Dispatch.frame_outcome hFirst
          · exact hLater

end Painting

end Redraw
