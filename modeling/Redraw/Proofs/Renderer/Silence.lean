import Redraw.Proofs.Plan.Changes
import Redraw.Proofs.Renderer.Coherence
import Redraw.Proofs.Renderer.Dispatches

/-
  Silence: a renderer that knows the screen says nothing just
  when there is nothing to say.

  A frame without bytes is delivered without a call, and one
  with bytes never is.  What is committed carries the cursor
  that the renderer believes in, so that the frame has bytes
  exactly if the screens differ, in a cell or in the cursor.

  Key definitions include:
    * `Dispatch.IsSilent`: drawn without a call
    * `Dispatch.IsHeard`: not without one

  Main declarations:
    * `Dispatch.isSilent_of_unchanged`
    * `Renderer.silent_iff_unchanged`
-/

namespace Redraw

------------------------------------------------------------
-- Calls
------------------------------------------------------------

/- Bytes are not written without a call. -/
theorem WriteLog.calls_pos
    (answers : List WriteAnswer)
    {bytes : List UInt8}
    (h : bytes ≠ []) :
    0 < (run answers bytes).calls := by
  cases bytes with
  | nil => exact absurd rfl h
  | cons b bytes =>
      cases answers with
      | nil => exact Nat.one_pos
      | cons answer left =>
          cases answer with
          | atMost n =>
              cases n with
              | zero => exact Nat.one_pos
              | succ n => exact Nat.succ_pos _
          | interrupt => exact Nat.succ_pos _
          | all
          | fail
          | crash => exact Nat.one_pos

theorem Sink.writeCalls_flush (s : Sink) :
    s.flush.2.writeCalls = s.writeCalls := by
  unfold flush
  split <;> rfl

theorem Sink.writeCalls_lt_deliver
    (s : Sink)
    {bytes : List UInt8}
    (h : bytes ≠ []) :
    s.writeCalls < (s.deliver bytes).2.writeCalls := by
  have hWritten : s.writeCalls < (s.writeAll bytes).2.writeCalls :=
    Nat.lt_add_of_pos_right (WriteLog.calls_pos s.writes h)
  cases hWrite : s.writeAll bytes with
  | mk outcome sink =>
      rw [hWrite] at hWritten
      simp only [deliver, hWrite]
      cases outcome with
      | done =>
          rw [writeCalls_flush]
          exact hWritten
      | failed cause => exact hWritten
      | crashed => exact hWritten

/- A frame with bytes is not delivered without a call either. -/
theorem Outbox.writeCalls_lt_flushTo
    {o : Outbox}
    (h : o.frame ≠ [])
    (sink : Sink) :
    sink.writeCalls < (o.flushTo sink).2.2.writeCalls := by
  have hFull : ¬ o.isEmpty = true := fun hEmpty =>
    h (List.isEmpty_iff.mp hEmpty)
  have hCalled := sink.writeCalls_lt_deliver h
  rw [flushTo, if_neg hFull]
  cases hDeliver : sink.deliver o.frame with
  | mk outcome sink' =>
      rw [hDeliver] at hCalled
      cases outcome <;> exact hCalled

------------------------------------------------------------
-- Dispatches
------------------------------------------------------------

namespace Dispatch

/-
  It is drawn without bytes, and the sink is as it was: what it
  received, its answers and the number of its calls.
-/
structure IsSilent (d : Dispatch) : Prop where
  sink : d.outcome.2.2 = d.sink
  drawn : ∃ stats, d.outcome.1 = .drawn stats ∧ stats.bytes = 0

/- The sink is called, and not for nothing if it is drawn. -/
structure IsHeard (d : Dispatch) : Prop where
  called : d.sink.writeCalls < d.outcome.2.2.writeCalls
  drawn : ∀ stats, d.outcome.1 = .drawn stats → 0 < stats.bytes

theorem IsHeard.not_isSilent
    {d : Dispatch}
    (h : d.IsHeard) :
    ¬ d.IsSilent := by
  intro hSilent
  have hCalled := h.called
  rw [hSilent.sink] at hCalled
  exact absurd hCalled (Nat.lt_irrefl _)

variable {d : Dispatch}
variable {plan : Plan}

/- The bytes that are ready are those of the plan. -/
theorem frame_eq
    (h : d.renderer.plan d.snapshot d.force = .ok plan) :
    d.frame = plan.encode d.renderer.caps := by
  simp only [frame, Renderer.prepare, Renderer.plan_with_outbox, h]
  rfl

/- A plan without bytes is drawn in silence. -/
theorem isSilent_of_encode
    (h : d.renderer.plan d.snapshot d.force = .ok plan)
    (hNil : plan.encode d.renderer.caps = []) :
    d.IsSilent ∧ d.outcome.2.1.belief = plan.after := by
  rcases Renderer.prepare_eq_ok h with
    ⟨frame, outbox, hPrepare, -, hAfter, -⟩
  rcases d.prepared hPrepare with ⟨hFrame, hBytes, -⟩
  rw [frame_eq h, hNil] at hFrame hBytes
  have hEmpty : outbox.isEmpty = true := List.isEmpty_iff.mpr hFrame
  have hFlush :
      Renderer.flushTo { d.renderer with outbox := outbox } d.sink =
        (.done, { d.renderer with outbox := outbox.clear },
          d.sink) := by
    rw [Renderer.flushTo, Outbox.flushTo, if_pos hEmpty]
    rfl
  have hOutcome := d.outcome_of_prepared hPrepare hFlush
  refine ⟨⟨by rw [hOutcome], frame.stats, by rw [hOutcome], hBytes⟩,
    ?_⟩
  rw [hOutcome]
  exact hAfter

/- A plan with bytes is heard. -/
theorem isHeard_of_encode
    (h : d.renderer.plan d.snapshot d.force = .ok plan)
    (hSome : plan.encode d.renderer.caps ≠ []) :
    d.IsHeard := by
  rcases Renderer.prepare_eq_ok h with
    ⟨frame, outbox, hPrepare, -, -, -⟩
  rcases d.prepared hPrepare with ⟨hFrame, hBytes, -⟩
  rw [← frame_eq h] at hSome
  have hCalled :=
    Outbox.writeCalls_lt_flushTo (o := outbox)
      (by rw [hFrame]; exact hSome) d.sink
  rcases hFlush :
      Renderer.flushTo { d.renderer with outbox := outbox } d.sink
    with ⟨delivery, r', sink⟩
  have hSink : (outbox.flushTo d.sink).2.2 = sink :=
    congrArg (·.2.2) hFlush
  have hOutcome := d.outcome_of_prepared hPrepare hFlush
  rw [hSink] at hCalled
  constructor
  · rw [hOutcome]
    cases delivery <;> exact hCalled
  · intro stats hDrawn
    rw [hOutcome] at hDrawn
    cases delivery with
    | done =>
        obtain rfl : frame.stats = stats :=
          Renderer.Rendering.drawn.inj hDrawn
        rw [hBytes]
        exact List.length_pos_iff.mpr hSome
    | failed cause => cases hDrawn
    | crashed => cases hDrawn

/- Without a plan it is refused, and not drawn at all. -/
theorem not_isSilent_of_error
    {e : Error}
    (h : d.renderer.plan d.snapshot d.force = .error e) :
    d.outcome.1 = .refused e ∧ ¬ d.IsSilent := by
  have hRefused : d.outcome.1 = .refused e := by
    rw [outcome, Renderer.renderTo_of_refused h]
  refine ⟨hRefused, fun hSilent => ?_⟩
  rcases hSilent.drawn with ⟨stats, hDrawn, -⟩
  rw [hRefused] at hDrawn
  cases hDrawn

/- What is drawn is committed, and the screen is known then. -/
theorem committed_of_drawn
    {stats : FrameStats}
    (h : d.outcome.1 = .drawn stats) :
    d.outcome.2.1.committed = some d.snapshot ∧
      d.outcome.2.1.screenKnown = true := by
  cases hPlan : d.renderer.plan d.snapshot d.force with
  | error e =>
      rw [(not_isSilent_of_error hPlan).1] at h
      cases h
  | ok plan =>
      rcases Renderer.prepare_eq_ok hPlan with
        ⟨frame, outbox, hPrepare, hSnapshot, -, -⟩
      rcases hFlush :
          Renderer.flushTo { d.renderer with outbox := outbox }
            d.sink
        with ⟨delivery, r', sink⟩
      have hOutcome := d.outcome_of_prepared hPrepare hFlush
      rw [hOutcome] at h ⊢
      cases delivery with
      | done => exact ⟨congrArg some hSnapshot, rfl⟩
      | failed cause => cases h
      | crashed => cases h

end Dispatch

------------------------------------------------------------
-- Renderers
------------------------------------------------------------

namespace Renderer

variable {r : Renderer}

/- A renderer that spares a size has committed that size. -/
theorem exists_of_needsRepaint
    {size : Size}
    (h : r.needsRepaint size = false) :
    r.screenKnown = true ∧
      ∃ shown, r.committed = some shown ∧ shown.size = size := by
  simp only [needsRepaint, Bool.or_eq_false_iff, Bool.not_eq_false']
    at h
  refine ⟨h.1, ?_⟩
  cases hShown : r.committed with
  | none => simp [hShown] at h
  | some shown => exact ⟨shown, rfl, by simpa [hShown] using h.2⟩

/- It plans from what is committed. -/
theorem plan_of_known
    (hKnown : r.screenKnown = true)
    {shown snapshot : Snapshot}
    (hShown : r.committed = some shown)
    (hSize : shown.size = snapshot.size) :
    r.plan snapshot false =
      Plan.diffGrids shown.grid snapshot.grid r.belief := by
  simp [plan, hShown, hKnown, hSize, Plan.diff]

/- A known screen is asked for the screen it shows. -/
theorem isSilent_same
    (hCoherent : r.Coherent)
    (hKnown : r.screenKnown = true)
    {shown snapshot : Snapshot}
    (hShown : r.committed = some shown)
    (hSame : snapshot.grid = shown.grid)
    (sink : Sink) :
    let d := Dispatch.mk r sink snapshot false
    d.IsSilent ∧ d.outcome.2.1.belief = r.belief := by
  intro d
  have hCursor :
      shown.grid.isEmpty = true ∨
        r.belief = .ofCursor shown.grid.cursor := by
    cases hEmpty : shown.grid.isEmpty with
    | true => exact Or.inl rfl
    | false =>
        rcases hCoherent.known hKnown with ⟨s, hs, hBelief⟩
        obtain rfl := Option.some.inj (hs.symm.trans hShown)
        refine Or.inr (hBelief ?_)
        simp only [Grid.isEmpty, Bool.or_eq_false_iff,
          decide_eq_false_iff_not] at hEmpty
        exact
          Nat.mul_pos (Nat.pos_of_ne_zero hEmpty.1)
            (Nat.pos_of_ne_zero hEmpty.2)
  rcases Plan.diffGrids_self hCursor with
    ⟨plan, hPlan, hOps, hAfter⟩
  have hSize : shown.size = snapshot.size :=
    congrArg Grid.size hSame.symm
  have hPlanned : r.plan snapshot false = .ok plan := by
    rw [plan_of_known hKnown hShown hSize, hSame]
    exact hPlan
  rw [← hAfter]
  exact
    Dispatch.isSilent_of_encode (d := d) hPlanned
      (Plan.encode_of_ops_eq_nil hOps _)

/- It is asked for another one. -/
theorem isHeard_other
    (hCoherent : r.Coherent)
    (hKnown : r.screenKnown = true)
    {shown snapshot : Snapshot}
    (hShown : r.committed = some shown)
    (hSize : shown.size = snapshot.size)
    (hArea : 0 < snapshot.size.area)
    (hOther : snapshot.grid ≠ shown.grid)
    (sink : Sink) :
    let d := Dispatch.mk r sink snapshot false
    (∃ e, d.outcome.1 = .refused e) ∨ d.IsHeard := by
  intro d
  have hBelief : r.belief = .ofCursor shown.grid.cursor := by
    rcases hCoherent.known hKnown with ⟨s, hs, hBelief⟩
    obtain rfl := Option.some.inj (hs.symm.trans hShown)
    exact hBelief (by rw [hSize]; exact hArea)
  have hPlanned := plan_of_known hKnown hShown hSize
  cases hPlan : r.plan snapshot false with
  | error e =>
      exact
        Or.inl
          ⟨e, (Dispatch.not_isSilent_of_error (d := d) hPlan).1⟩
  | ok plan =>
      refine Or.inr (Dispatch.isHeard_of_encode (d := d) hPlan ?_)
      rw [hPlan, hBelief] at hPlanned
      intro hNil
      have hSame :=
        (Plan.encode_eq_nil_iff _
          (Grid.isEmpty_eq_false_of_area hArea) hPlanned.symm).mp
          hNil
      exact hOther hSame.symm

/-
  After any tasks, a renderer that need not repaint draws a
  snapshot in silence just when its screen is the committed one;
  any other is heard, unless it is refused.  Right after a
  drawing the same screen is silent under any number, and what
  is believed stays.
-/
theorem silent_iff_unchanged
    (caps : Capabilities)
    (tasks : List Task) :
    let r := performAll { caps := caps } tasks
    (∀ size, 0 < size.area → r.needsRepaint size = false →
      ∃ shown, r.committed = some shown ∧
        ∀ snapshot sink, snapshot.size = size →
          let d := Dispatch.mk r sink snapshot false
          (d.IsSilent ↔ snapshot.grid = shown.grid) ∧
            (snapshot.grid ≠ shown.grid →
              (∃ e, d.outcome.1 = .refused e) ∨ d.IsHeard)) ∧
      ∀ snapshot force sink stats,
        let d := Dispatch.mk r sink snapshot force
        d.outcome.1 = .drawn stats →
          ∀ seq sink',
            let again :=
              Dispatch.mk d.outcome.2.1 sink' ⟨seq, snapshot.grid⟩
                false
            again.IsSilent ∧
              again.outcome.2.1.belief = d.outcome.2.1.belief := by
  intro r
  have hCoherent : r.Coherent := (coherent_fresh caps).performAll tasks
  constructor
  · intro size hArea hSpares
    rcases exists_of_needsRepaint hSpares with
      ⟨hKnown, shown, hShown, hSize⟩
    refine ⟨shown, hShown, ?_⟩
    intro snapshot sink hSnapshot d
    have hHeard :
        snapshot.grid ≠ shown.grid →
          (∃ e, d.outcome.1 = .refused e) ∨ d.IsHeard :=
      fun hOther =>
        isHeard_other hCoherent hKnown hShown
          (hSize.trans hSnapshot.symm)
          (by rw [hSnapshot]; exact hArea) hOther sink
    refine ⟨⟨?_, ?_⟩, hHeard⟩
    · intro hSilent
      by_contra hOther
      rcases hHeard hOther with ⟨e, hRefused⟩ | hLoud
      · rcases hSilent.drawn with ⟨stats, hDrawn, -⟩
        rw [hRefused] at hDrawn
        cases hDrawn
      · exact hLoud.not_isSilent hSilent
    · intro hSame
      exact (isSilent_same hCoherent hKnown hShown hSame sink).1
  · intro snapshot force sink stats d hDrawn seq sink' again
    rcases Dispatch.committed_of_drawn hDrawn with
      ⟨hShown, hKnown⟩
    have hSame : again.snapshot.grid = d.snapshot.grid := rfl
    exact
      isSilent_same (hCoherent.renderTo snapshot force sink) hKnown
        hShown hSame sink'

end Renderer

end Redraw
