import Redraw.Proofs.Thread.Watching

/-
  Settling: what the screen shows when the thread has come to
  rest.

  A screen that became unknown is drawn again before the thread
  rests, because the request to draw it again or the failed phase
  stands until a snapshot is picked, and that cycle commits or
  fails.  A cycle that is rejected breaks this chain.  Sizes are
  not declared here: a committed snapshot that no longer fits is
  not drawn again.

  Key definitions include:
    * `Exchange.Settled`: nothing is left to do
    * `Watch.abandoned`: the last cycle was rejected on an
      unknown screen
    * `Watch.Repairs`: the invariant

  Main declarations:
    * `Watch.Repairs.step`, `Watch.Repairs.run`
    * `Watch.unknown_iff_abandoned`
-/

namespace Redraw

------------------------------------------------------------
-- Rest
------------------------------------------------------------

/-
  The thread looks for work in the idle phase, nothing is asked
  of it, and some snapshot has been committed.
-/
structure Exchange.Settled (x : Exchange) : Prop where
  stage : x.worker.stage = .seeking
  phase : x.mailbox.phase = .idle
  pending : x.mailbox.pending = none
  redraw : x.mailbox.redraw = false
  invalidate : x.mailbox.invalidate = false
  committed : x.worker.renderer.committed.isSome = true

/- The screen will be drawn again, or the thread needs a reset. -/
def Mailbox.OwesRepair (m : Mailbox) : Prop :=
  m.redraw = true ∨ m.phase = .failed

/- Further requests keep it so. -/
theorem Mailbox.Keeps.owesRepair
    {m m' : Mailbox}
    (h : m.Keeps m')
    (hOwes : m.OwesRepair) :
    m'.OwesRepair := by
  rcases hOwes with hRedraw | hFailed
  · exact Or.inl (h.redraw hRedraw)
  · exact h.others.imp_right fun hSame => hSame.1.trans hFailed

/- A failure is reported in the failed phase. -/
theorem Exchange.phase_of_failed
    {x : Exchange}
    (hDrawing : x.worker.stage.isDrawing = true)
    {due : Bool}
    {err : Error}
    (h : (x.work due).worker.stage = .reporting (.failed err)) :
    (x.work due).mailbox.phase = .failed := by
  rcases Stage.isDrawing_cases hDrawing with
    ⟨s, force, hStage⟩ | ⟨s, plan, hStage⟩ | ⟨frame, hStage⟩ |
      ⟨frame, failure, hStage⟩
  · simp only [work, hStage, Worker.planNext] at h ⊢
    split at h <;> cases h
  · simp only [work, hStage, Worker.encodeNext] at h ⊢
    cases h
  · simp only [work, hStage, Worker.writeNext] at h ⊢
    split at h <;> cases h
  · simp only [work, hStage, Worker.settleNext] at h ⊢
    cases failure with
    | none => cases h
    | some cause => rfl

/- Without a declared size the committed snapshot always fits. -/
theorem Worker.committedFits_of_size
    {m : Mailbox}
    (h : m.size = none)
    (r : Renderer) :
    committedFits m r = r.committed.isSome := by
  unfold committedFits
  cases r.committed with
  | none => rfl
  | some s => simp [h]

namespace Watch

/- The last cycle was rejected while the screen was unknown. -/
def abandoned (w : Watch) : Bool :=
  w.log.getLast?.any fun (c, report) =>
    report.isRejected && !c.renderer.screenKnown

theorem abandoned_concat
    (x : Exchange)
    (cycle : Option Cycle)
    (log : List (Cycle × Report))
    (c : Cycle)
    (report : Report) :
    abandoned ⟨x, cycle, log ++ [(c, report)]⟩ =
      (report.isRejected && !c.renderer.screenKnown) := by
  simp [abandoned]

------------------------------------------------------------
-- The Invariant
------------------------------------------------------------

/-
  Every cycle is under watch, and a screen that is unknown will
  be repaired, but for the cycle that was abandoned.
-/
structure Repairs (w : Watch) : Prop where
  size : w.exchange.mailbox.size = none
  redraw :
    w.exchange.mailbox.invalidate = true →
      w.exchange.mailbox.redraw = true
  drawing :
    ∀ c, w.cycle = some c →
      c.Follows w.exchange.worker ∧
        ∀ err,
          w.exchange.worker.stage = .reporting (.failed err) →
            w.exchange.mailbox.OwesRepair
  resting :
    w.cycle = none →
      w.exchange.worker.stage = .seeking ∨
        w.exchange.worker.stage = .stopped
  abandoned :
    w.exchange.worker.stage = .seeking → w.abandoned = true →
      w.exchange.worker.renderer.screenKnown = false
  unknown :
    w.exchange.worker.stage = .seeking →
      w.exchange.worker.renderer.screenKnown = false →
        w.exchange.worker.renderer.committed.isSome = true →
          w.exchange.mailbox.OwesRepair ∨ w.abandoned = true

namespace Repairs

variable {w : Watch}

theorem start
    (caps : Capabilities)
    (sink : Sink) :
    (Watch.start (.start caps sink)).Repairs where
  size := rfl
  redraw := by simp [Watch.start, Exchange.start]
  drawing := by simp [Watch.start]
  resting _ := Or.inl rfl
  abandoned _ _ := rfl
  unknown := by simp [Watch.start, Exchange.start]

/- Requests other than one for a size. -/
theorem ask
    (h : w.Repairs)
    {m : Mailbox}
    (hKeeps : w.exchange.mailbox.Keeps m)
    (hSize : m.size = w.exchange.mailbox.size) :
    Repairs
      { w with exchange := { w.exchange with mailbox := m } } where
  size := hSize.trans h.size
  redraw hInvalidate := by
    rcases hKeeps.others with hRedraw | ⟨_, hSame⟩
    · exact hRedraw
    · exact hKeeps.redraw (h.redraw (hSame.symm.trans hInvalidate))
  drawing c hCycle :=
    ⟨(h.drawing c hCycle).1, fun err hStage =>
      hKeeps.owesRepair ((h.drawing c hCycle).2 err hStage)⟩
  resting := h.resting
  abandoned := h.abandoned
  unknown hStage hUnknown hSome :=
    (h.unknown hStage hUnknown hSome).imp_left hKeeps.owesRepair

theorem seek
    (h : w.Repairs)
    (hStage : w.exchange.worker.stage = .seeking)
    (due : Bool) :
    (w.step (.work due)).Repairs := by
  have hNone :=
    cycle_of_seeking (fun c hCycle => (h.drawing c hCycle).1) hStage
  have hTaken :=
    Worker.takeInvalidate_eq w.exchange.mailbox
      w.exchange.worker.renderer
  have hFits :=
    Worker.committedFits_of_size h.size w.exchange.worker.renderer
  rcases w.step_seeking hStage due with
    ⟨m, hInvalidate, hSize, hStep⟩
  have hRedraw : m.invalidate = true → m.redraw = true := by
    simp [hInvalidate]
  rcases hStep with
    ⟨hStep, _, hPhase, hKept⟩ | ⟨hStep, _⟩ | ⟨s, hStep⟩
  · rw [hStep]
    refine
      ⟨hSize.trans h.size, hRedraw, by simp [hNone],
        fun _ => Or.inl rfl, ?_, ?_⟩
    · intro _ hAbandoned
      have hUnknown := h.abandoned hStage hAbandoned
      simp only [Exchange.sought, hTaken]
      split
      · rfl
      · exact hUnknown
    · intro _ hUnknown hSome
      simp only [Exchange.sought, hTaken] at hUnknown hSome
      cases hForget : w.exchange.mailbox.invalidate with
      | true =>
          rw [hForget, if_pos rfl] at hSome
          have hStands : m.redraw = true :=
            (hKept (hFits.trans hSome)).trans (h.redraw hForget)
          exact Or.inl (Or.inl hStands)
      | false =>
          rw [hForget, if_neg Bool.false_ne_true] at hUnknown hSome
          apply (h.unknown hStage hUnknown hSome).imp_left
          exact Or.imp (hKept (hFits.trans hSome)).trans hPhase.trans
  · rw [hStep]
    exact
      ⟨hSize.trans h.size, hRedraw, by simp [hNone],
        fun _ => Or.inr rfl, by simp [Exchange.sought],
        by simp [Exchange.sought]⟩
  · rw [hStep]
    refine
      ⟨hSize.trans h.size, hRedraw, ?_, by simp,
        by simp [Exchange.sought], by simp [Exchange.sought]⟩
    intro c hCycle
    cases hCycle
    exact ⟨⟨rfl, rfl, rfl⟩, by simp [Exchange.sought]⟩

theorem draw
    (h : w.Repairs)
    (hDrawing : w.exchange.worker.stage.isDrawing = true)
    (due : Bool) :
    (w.step (.work due)).Repairs := by
  rcases w.exchange.work_drawing hDrawing due with
    ⟨hNotSeeking, hNotStopped, phase, last, hMailbox⟩
  rw [w.step_drawing hDrawing]
  refine
    ⟨?_, ?_, ?_, ?_, fun hStage => absurd hStage hNotSeeking,
      fun hStage => absurd hStage hNotSeeking⟩
  · rw [hMailbox]
    exact h.size
  · rw [hMailbox]
    exact h.redraw
  · intro c hCycle
    exact
      ⟨(h.drawing c hCycle).1.work hDrawing due, fun err hStage =>
        Or.inr (Exchange.phase_of_failed hDrawing hStage)⟩
  · intro hNone
    rcases h.resting hNone with hStage | hStage <;>
      (rw [hStage] at hDrawing
       cases hDrawing)

theorem report
    (h : w.Repairs)
    {report : Report}
    (hStage : w.exchange.worker.stage = .reporting report)
    (due : Bool) :
    (w.step (.work due)).Repairs := by
  rw [w.step_reporting hStage]
  cases hCycle : w.cycle with
  | none =>
      rcases h.resting hCycle with hRest | hRest <;>
        (rw [hStage] at hRest
         cases hRest)
  | some c =>
      rcases h.drawing c hCycle with ⟨hFollows, hFailed⟩
      simp only [Cycle.Follows, hStage] at hFollows
      refine
        ⟨h.size, h.redraw, by simp, fun _ => Or.inl rfl, ?_, ?_⟩
      · intro _ hAbandoned
        rw [Option.map_some, Option.toList_some, abandoned_concat,
          Bool.and_eq_true, Bool.not_eq_true'] at hAbandoned
        cases report with
        | committed seq stats => cases hAbandoned.1
        | failed err => cases hAbandoned.1
        | rejected seq err =>
            rw [show w.exchange.worker.renderer = _ from hFollows]
            exact hAbandoned.2
      · intro _ hUnknown _
        rw [Option.map_some, Option.toList_some, abandoned_concat]
        cases report with
        | committed seq stats =>
            cases hUnknown.symm.trans hFollows.2
        | failed err => exact Or.inl (hFailed err hStage)
        | rejected seq err =>
            rw [show w.exchange.worker.renderer = _ from hFollows]
              at hUnknown
            exact Or.inr (by simp [hUnknown, Report.isRejected])

theorem step
    (h : w.Repairs)
    {e : Event}
    (hSize : ∀ size, e ≠ .resize size) :
    (w.step e).Repairs := by
  apply step_cases h
  · exact fun m hKeeps hSame => h.ask hKeeps (hSame hSize)
  · exact h.seek
  · exact h.draw
  · exact fun report => h.report

theorem run
    (h : w.Repairs)
    {events : List Event}
    (hSize : ∀ size, .resize size ∉ events) :
    (w.run events).Repairs := by
  refine run_induction (fun e he w hRepairs => ?_) h
  refine hRepairs.step fun size hSame => ?_
  rw [hSame] at he
  exact hSize size he

end Repairs

------------------------------------------------------------
-- The Screen at Rest
------------------------------------------------------------

/-
  A thread that has come to rest knows what the screen shows,
  unless the last cycle was rejected when the screen was unknown:
  nothing asks for a repair then.
-/
theorem unknown_iff_abandoned
    {caps : Capabilities}
    {sink : Sink}
    {events : List Event}
    (hEvents : ∀ size, .resize size ∉ events)
    (hSettled :
      ((Exchange.start caps sink).run events).Settled) :
    ((Exchange.start caps sink).run events
        ).worker.renderer.screenKnown = false ↔
      ((start (.start caps sink)).run events).abandoned = true := by
  have h := (Repairs.start caps sink).run hEvents
  have hSame :
      ((start (.start caps sink)).run events).exchange =
        (Exchange.start caps sink).run events :=
    exchange_run _ events
  rw [← hSame] at hSettled ⊢
  constructor
  · intro hUnknown
    refine
      (h.unknown hSettled.stage hUnknown hSettled.committed
        ).resolve_left ?_
    rintro (hRedraw | hFailed)
    · cases hSettled.redraw.symm.trans hRedraw
    · cases hSettled.phase.symm.trans hFailed
  · exact h.abandoned hSettled.stage

/-
  A frame is not delivered, and after a reset the screen is
  repaired.
-/
theorem unknown_iff_abandoned_undelivered :
    let events :=
      drawn plain ++
        .forceRepaint :: List.replicate 6 (.work true) ++
        .reset :: List.replicate 6 (.work true)
    ((Exchange.start .minimal { writes := [.all, .fail] }).run
        events).worker.renderer.screenKnown ≠ false := by
  intro events
  have hSettled :
      ((Exchange.start .minimal { writes := [.all, .fail] }).run
        events).Settled :=
    ⟨by decide +kernel, by decide +kernel, by decide +kernel,
      by decide +kernel, by decide +kernel, by decide +kernel⟩
  have hEvents : ∀ size, .resize size ∉ events := by
    simp [events, drawn]
  rw [Ne, unknown_iff_abandoned hEvents hSettled]
  decide +kernel

/-
  A snapshot is rejected after a reset: the thread comes to rest
  with the screen unknown.
-/
theorem settled_unknown :
    ¬ ∀ (caps : Capabilities) (sink : Sink) (events : List Event),
      (∀ size, .resize size ∉ events) →
        ((Exchange.start caps sink).run events).Settled →
          ((Exchange.start caps sink).run events
            ).worker.renderer.screenKnown = true := by
  intro hAlways
  let events : List Event :=
    drawn plain ++ .submit broken :: .reset ::
      List.replicate 6 (.work true)
  have hSettled : ((Exchange.start .minimal {}).run events).Settled :=
    ⟨by decide +kernel, by decide +kernel, by decide +kernel,
      by decide +kernel, by decide +kernel, by decide +kernel⟩
  have hKnown :=
    hAlways .minimal {} events (by simp [events, drawn]) hSettled
  have hUnknown :
      ((Exchange.start .minimal {}).run events
        ).worker.renderer.screenKnown = false := by
    decide +kernel
  cases hUnknown.symm.trans hKnown

end Watch

end Redraw
