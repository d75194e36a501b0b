import Redraw.Renderer

/-
  Delivery: what a sink that accepts everything receives.

  Such a sink may take a frame in parts and ask to be called
  again, but it never fails.  A rendering to it is drawn or
  refused, and a drawn one hands over the bytes of its plan.

  Key definitions include:
    * `Sink.Accepts`

  Main declarations:
    * `Sink.deliver_of_accepts`
    * `Renderer.renderTo_of_refused`
    * `Renderer.renderTo_of_accepts`
-/

namespace Redraw

------------------------------------------------------------
-- Accepting Sinks
------------------------------------------------------------

/- An answer after which a write goes on. -/
def WriteAnswer.Accepts : WriteAnswer → Prop
  | .all => True
  | .atMost n => 0 < n
  | .fail => False
  | .interrupt => True
  | .crash => False

instance : DecidablePred WriteAnswer.Accepts
  | .all => inferInstanceAs (Decidable True)
  | .atMost n => inferInstanceAs (Decidable (0 < n))
  | .fail => inferInstanceAs (Decidable False)
  | .interrupt => inferInstanceAs (Decidable True)
  | .crash => inferInstanceAs (Decidable False)

/- A sink that accepts everything. -/
structure Sink.Accepts (s : Sink) : Prop where
  writes : ∀ a ∈ s.writes, a.Accepts
  flushes : ∀ f ∈ s.flushes, f = .done

/- Without bytes there is no call. -/
theorem WriteLog.run_nil (answers : List WriteAnswer) :
    run answers [] = ⟨.done, [], 0, answers⟩ := by
  cases answers <;> rfl

/- Everything is taken, whatever the parts. -/
theorem WriteLog.run_of_accepts
    {answers : List WriteAnswer}
    (h : ∀ a ∈ answers, a.Accepts)
    (bytes : List UInt8) :
    (run answers bytes).outcome = .done ∧
      (run answers bytes).taken = bytes ∧
      ∀ a ∈ (run answers bytes).left, a ∈ answers := by
  induction answers generalizing bytes with
  | nil => cases bytes <;> simp [run]
  | cons answer left ih =>
      have hLeft := ih fun a ha => h a (by simp [ha])
      cases bytes with
      | nil => simp [run]
      | cons b bytes =>
          cases answer with
          | all =>
              exact ⟨rfl, rfl, fun a ha => by simp [show a ∈ left from ha]⟩
          | atMost n =>
              cases n with
              | zero =>
                  exact absurd (h (.atMost 0) (by simp)) (by decide)
              | succ n =>
                  rcases hLeft ((b :: bytes).drop (n + 1)) with
                    ⟨hDone, hTaken, hRest⟩
                  refine ⟨hDone, ?_, ?_⟩
                  · simp only [run, after, hTaken,
                      List.take_append_drop]
                  · intro a ha
                    simp [hRest a ha]
          | fail => exact absurd (h .fail (by simp)) (by decide)
          | interrupt =>
              rcases hLeft (b :: bytes) with
                ⟨hDone, hTaken, hRest⟩
              refine ⟨hDone, ?_, ?_⟩
              · simp only [run, after, hTaken, List.nil_append]
              · intro a ha
                simp [hRest a ha]
          | crash => exact absurd (h .crash (by simp)) (by decide)

/- A delivery to such a sink hands everything over. -/
theorem Sink.deliver_of_accepts
    {s : Sink}
    (h : s.Accepts)
    (bytes : List UInt8) :
    ∃ t, s.deliver bytes = (.done, t) ∧ t.Accepts ∧
      t.received = s.received ++ bytes := by
  rcases WriteLog.run_of_accepts h.writes bytes with
    ⟨hDone, hTaken, hLeft⟩
  have hWrites :
      ∀ a ∈ (WriteLog.run s.writes bytes).left, a.Accepts :=
    fun a ha => h.writes a (hLeft a ha)
  simp only [deliver, writeAll, hDone, hTaken, flush]
  cases hFlushes : s.flushes with
  | nil =>
      exact ⟨_, rfl, ⟨hWrites, by simp⟩, rfl⟩
  | cons first later =>
      have hFirst := h.flushes first (by simp [hFlushes])
      rw [hFirst]
      refine ⟨_, rfl, ⟨hWrites, ?_⟩, rfl⟩
      intro f hf
      exact h.flushes f (by simp [hFlushes, show f ∈ later from hf])

/- An empty frame is delivered without a call. -/
theorem Outbox.flushTo_of_accepts
    (o : Outbox)
    {s : Sink}
    (h : s.Accepts) :
    ∃ p t, o.flushTo s = (.done, p, t) ∧ t.Accepts ∧
      t.received = s.received ++ o.frame := by
  unfold flushTo
  split
  · rename_i hEmpty
    have hNil : o.frame = [] := List.isEmpty_iff.mp hEmpty
    exact ⟨o, s, rfl, h, by rw [hNil, List.append_nil]⟩
  · rcases s.deliver_of_accepts h o.frame with
      ⟨t, hDeliver, hAccepts, hReceived⟩
    rw [hDeliver]
    exact ⟨o.sent, t, rfl, hAccepts, hReceived⟩

------------------------------------------------------------
-- Renderings
------------------------------------------------------------

namespace Renderer

/- A plan does not depend on the outbox. -/
theorem plan_with_outbox
    (r : Renderer)
    (outbox : Outbox)
    (snapshot : Snapshot)
    (force : Bool) :
    plan { r with outbox := outbox } snapshot force =
      r.plan snapshot force := rfl

/- A snapshot without a plan is refused, and nothing is sent. -/
theorem renderTo_of_refused
    {r : Renderer}
    {snapshot : Snapshot}
    {force : Bool}
    {e : Error}
    (h : r.plan snapshot force = .error e)
    (sink : Sink) :
    r.renderTo snapshot force sink =
      (.refused e, { r with outbox := r.outbox.clear }, sink) := by
  simp only [renderTo, prepare, plan_with_outbox, h]

/-
  A snapshot with a plan is drawn by a sink that accepts
  everything, which receives the bytes of the plan.
-/
theorem renderTo_of_accepts
    {r : Renderer}
    {snapshot : Snapshot}
    {force : Bool}
    {plan : Plan}
    (h : r.plan snapshot force = .ok plan)
    {sink : Sink}
    (hAccepts : sink.Accepts) :
    ∃ stats outbox sink',
      r.renderTo snapshot force sink =
          (.drawn stats,
            { r with
              outbox := outbox
              committed := some snapshot
              belief := plan.after
              screenKnown := true },
            sink') ∧
        sink'.Accepts ∧
        sink'.received = sink.received ++ plan.encode r.caps := by
  rcases (r.outbox.clear.clear.write (plan.encode r.caps)
      ).flushTo_of_accepts hAccepts with
    ⟨p, t, hFlush, hStill, hReceived⟩
  let frame :=
    (encode { r with outbox := r.outbox.clear } snapshot plan).1
  refine ⟨frame.stats, p.clear, t, ?_, hStill, hReceived⟩
  simp only [renderTo, prepare, plan_with_outbox, h, encode,
    flushTo, hFlush, reduceCtorEq, if_false, commit, frame]

end Renderer

end Redraw
