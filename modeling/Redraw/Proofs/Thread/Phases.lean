import Redraw.Proofs.Thread.Watching

/-
  Phases: how the phase that a mailbox shows can change.

  The thread sets the phase as it goes from stage to stage, and
  a reset sets it while the thread rests or is about to report
  a failure.  The phase that is shown fits the stage all the
  same, so that it only changes along a few ways.

  Key definitions include:
    * `Stage.Shows`: the phases that fit a stage
    * `Exchange.InPhase`: the invariant
    * `Exchange.Moves`: the ways of the phase, and why

  Main declarations:
    * `Exchange.InPhase.step`, `Exchange.InPhase.run`
    * `Exchange.InPhase.sink_step`: when the sink is called
    * `Exchange.InPhase.lastCommitted_step`
-/

namespace Redraw

------------------------------------------------------------
-- Stages and Phases
------------------------------------------------------------

/- The phases that are shown while the thread is at a stage. -/
def Stage.Shows : Stage → Phase → Prop
  | .seeking, phase => phase = .idle ∨ phase = .failed
  | .planning _ _, phase => phase = .diffing
  | .encoding _ _, phase => phase = .encoding
  | .writing _, phase => phase = .writing
  | .settling _ _, phase => phase = .writing
  | .reporting (.failed _), phase => phase = .failed ∨ phase = .idle
  | .reporting _, phase => phase = .idle
  | .stopped, phase => phase = .stopped
  | .dead, phase => phase = .writing

/- A thread that shows a failure may as well show that it rests. -/
theorem Stage.shows_idle
    {stage : Stage}
    (h : stage.Shows .failed) :
    stage.Shows .idle := by
  cases stage with
  | seeking => exact Or.inl rfl
  | reporting report =>
      cases report with
      | failed e => exact Or.inr rfl
      | committed seq stats => cases h
      | rejected seq e => cases h
  | _ => cases h

namespace Exchange

/-
  The phase fits the stage, and a thread that has stopped was
  asked to.
-/
structure InPhase (x : Exchange) : Prop where
  phase : x.worker.stage.Shows x.mailbox.phase
  stopped : x.mailbox.phase = .stopped → x.mailbox.shutdown = true

/- All that one event can do to the phase, and why. -/
inductive Moves
    (x : Exchange)
    (e : Event) :
    Phase → Prop
  | stays : Moves x e x.mailbox.phase
  | picks
      (due : Bool)
      (event : e = .work due)
      (source : x.mailbox.phase = .idle) :
      Moves x e .diffing
  | plans
      (due : Bool)
      (event : e = .work due)
      (source : x.mailbox.phase = .diffing)
      (snapshot : Snapshot)
      (force : Bool)
      (stage : x.worker.stage = .planning snapshot force)
      (plan : Plan)
      (planned : x.worker.renderer.plan snapshot force = .ok plan) :
      Moves x e .encoding
  | rejects
      (due : Bool)
      (event : e = .work due)
      (source : x.mailbox.phase = .diffing)
      (snapshot : Snapshot)
      (force : Bool)
      (stage : x.worker.stage = .planning snapshot force)
      (error : Error)
      (refused : x.worker.renderer.plan snapshot force = .error error) :
      Moves x e .idle
  | encodes
      (due : Bool)
      (event : e = .work due)
      (source : x.mailbox.phase = .encoding) :
      Moves x e .writing
  | commits
      (due : Bool)
      (event : e = .work due)
      (source : x.mailbox.phase = .writing)
      (frame : Frame)
      (stage : x.worker.stage = .settling frame none) :
      Moves x e .idle
  | fails
      (due : Bool)
      (event : e = .work due)
      (source : x.mailbox.phase = .writing)
      (frame : Frame)
      (cause : SinkError)
      (stage : x.worker.stage = .settling frame (some cause)) :
      Moves x e .failed
  | resets
      (event : e = .reset)
      (source : x.mailbox.phase = .failed)
      (granted : x.mailbox.reset.isOk = true) :
      Moves x e .idle
  | stops
      (due : Bool)
      (event : e = .work due)
      (source : x.mailbox.phase = .idle ∨ x.mailbox.phase = .failed)
      (asked : x.mailbox.shutdown = true) :
      Moves x e .stopped

variable {x : Exchange}

theorem inPhase_start
    (caps : Capabilities)
    (sink : Sink) :
    (start caps sink).InPhase :=
  ⟨Or.inl rfl, nofun⟩

/-
  Of all that producers do, only a reset changes the phase, and
  only from a failure.  Nothing takes back the wish to finish.
-/
theorem phase_of_ask
    (x : Exchange)
    {e : Event}
    (h : ∀ due, e ≠ .work due) :
    ∃ m, x.step e = { x with mailbox := m } ∧
      m.lastCommitted = x.mailbox.lastCommitted ∧
      (x.mailbox.shutdown = true → m.shutdown = true) ∧
      (m.phase = x.mailbox.phase ∨
        e = .reset ∧ x.mailbox.reset.isOk = true ∧
          x.mailbox.phase = .failed ∧ m.phase = .idle) := by
  cases e with
  | submit s =>
      refine x.update_cases ⟨rfl, id, Or.inl rfl⟩ fun m hOk => ?_
      rw [(Mailbox.submit_eq_ok hOk).1]
      exact ⟨rfl, id, Or.inl rfl⟩
  | forceRepaint =>
      refine x.update_cases ⟨rfl, id, Or.inl rfl⟩ fun m hOk => ?_
      rw [(Mailbox.forceRepaint_eq_ok hOk).1]
      exact ⟨rfl, id, Or.inl rfl⟩
  | resize size =>
      refine x.update_cases ⟨rfl, id, Or.inl rfl⟩ fun m hOk => ?_
      rw [(Mailbox.resize_eq_ok hOk).1]
      exact ⟨rfl, id, Or.inl rfl⟩
  | reset =>
      refine x.update_cases ⟨rfl, id, Or.inl rfl⟩ fun m hOk => ?_
      rw [hOk, (Mailbox.reset_eq_ok hOk).1]
      refine ⟨rfl, id, ?_⟩
      by_cases hFailed : x.mailbox.phase = .failed
      · exact Or.inr ⟨rfl, rfl, hFailed, if_pos hFailed⟩
      · exact Or.inl (if_neg hFailed)
  | stop => exact ⟨x.mailbox.stop, rfl, rfl, fun _ => rfl, Or.inl rfl⟩
  | work due => exact absurd rfl (h due)

/- The thread looks for work: it waits, ends or picks. -/
theorem InPhase.seek
    (h : x.InPhase)
    (hStage : x.worker.stage = .seeking)
    (due : Bool) :
    x.Moves (.work due) (x.work due).mailbox.phase ∧
      (x.work due).InPhase := by
  have hPhase := h.phase
  rw [hStage] at hPhase
  rcases Worker.pick_eq x.worker.started due x.mailbox
      x.worker.renderer with
    ⟨work, m, hPick, hCases⟩
  simp only [Exchange.work, hStage, Worker.seek, hPick]
  rcases hCases with
    ⟨redraw, rfl, rfl, -⟩ | ⟨redraw, rfl, rfl, -, hShutdown⟩ |
      ⟨s, rfl, rfl, hSound, -⟩
  · refine ⟨.stays, ?_, h.stopped⟩
    simpa only [hStage] using hPhase
  · exact ⟨.stops due rfl hPhase hShutdown, rfl, fun _ => hShutdown⟩
  · exact
      ⟨.picks due rfl (hPhase.resolve_right hSound), rfl,
        Phase.noConfusion⟩

theorem InPhase.work
    (h : x.InPhase)
    (due : Bool) :
    x.Moves (.work due) (x.work due).mailbox.phase ∧
      (x.work due).InPhase := by
  have hPhase := h.phase
  cases hStage : x.worker.stage with
  | seeking => exact h.seek hStage due
  | planning s force =>
      rw [hStage] at hPhase
      simp only [Exchange.work, hStage, Worker.planNext]
      cases hPlan : x.worker.renderer.plan s force with
      | ok plan =>
          exact
            ⟨.plans due rfl hPhase s force hStage plan hPlan, rfl,
              Phase.noConfusion⟩
      | error e =>
          exact
            ⟨.rejects due rfl hPhase s force hStage e hPlan, rfl,
              Phase.noConfusion⟩
  | encoding s plan =>
      rw [hStage] at hPhase
      simp only [Exchange.work, hStage, Worker.encodeNext]
      exact ⟨.encodes due rfl hPhase, rfl, Phase.noConfusion⟩
  | writing frame =>
      rw [hStage] at hPhase
      simp only [Exchange.work, hStage, Worker.writeNext]
      split <;> exact ⟨.stays, hPhase, h.stopped⟩
  | settling frame failure =>
      rw [hStage] at hPhase
      simp only [Exchange.work, hStage, Worker.settleNext]
      cases failure with
      | none =>
          exact
            ⟨.commits due rfl hPhase frame hStage, rfl,
              Phase.noConfusion⟩
      | some cause =>
          exact
            ⟨.fails due rfl hPhase frame cause hStage, Or.inl rfl,
              Phase.noConfusion⟩
  | reporting report =>
      rw [hStage] at hPhase
      simp only [Exchange.work, hStage]
      refine ⟨.stays, ?_, h.stopped⟩
      cases report with
      | committed seq stats => exact Or.inl hPhase
      | rejected seq e => exact Or.inl hPhase
      | failed e => exact hPhase.symm
  | stopped =>
      simp only [Exchange.work, hStage]
      exact ⟨.stays, h⟩
  | dead =>
      simp only [Exchange.work, hStage]
      exact ⟨.stays, h⟩

theorem InPhase.step
    (h : x.InPhase)
    (e : Event) :
    x.Moves e (x.step e).mailbox.phase ∧ (x.step e).InPhase := by
  by_cases hAsk : ∀ due, e ≠ .work due
  · rcases x.phase_of_ask hAsk with
      ⟨m, hStep, -, hShutdown, hSame | ⟨rfl, hGranted, hFailed, hIdle⟩⟩
    · rw [hStep, hSame]
      refine ⟨.stays, ?_, ?_⟩
      · exact hSame ▸ h.phase
      · intro hStopped
        exact hShutdown (h.stopped (hSame.symm.trans hStopped))
    · have hShown : x.worker.stage.Shows m.phase := by
        rw [hIdle]
        exact Stage.shows_idle (hFailed ▸ h.phase)
      rw [hStep]
      refine ⟨?_, hShown, ?_⟩
      · rw [hIdle]
        exact .resets rfl hFailed hGranted
      · intro hStopped
        cases hIdle.symm.trans hStopped
  · rcases not_forall_not.mp hAsk with ⟨due, rfl⟩
    exact h.work due

theorem InPhase.run
    (h : x.InPhase)
    (events : List Event) :
    (x.run events).InPhase := by
  induction events generalizing x with
  | nil => exact h
  | cons e later ih => exact ih (h.step e).2

/- A thread that failed rests or is about to report it. -/
theorem InPhase.stage_of_failed
    (h : x.InPhase)
    (hPhase : x.mailbox.phase = .failed) :
    x.worker.stage = .seeking ∨
      ∃ e, x.worker.stage = .reporting (.failed e) := by
  have hShown := h.phase
  rw [hPhase] at hShown
  cases hStage : x.worker.stage with
  | seeking => exact Or.inl rfl
  | reporting report =>
      rw [hStage] at hShown
      cases report with
      | failed e => exact Or.inr ⟨e, rfl⟩
      | committed seq stats => cases hShown
      | rejected seq e => cases hShown
  | _ =>
      rw [hStage] at hShown
      cases hShown

/- The sink is only called in the writing phase. -/
theorem InPhase.sink_step
    (h : x.InPhase)
    (hPhase : x.mailbox.phase ≠ .writing)
    (e : Event) :
    (x.step e).sink = x.sink := by
  by_cases hAsk : ∀ due, e ≠ .work due
  · rcases x.phase_of_ask hAsk with ⟨m, hStep, -⟩
    rw [hStep]
  · rcases not_forall_not.mp hAsk with ⟨due, rfl⟩
    have hShown := h.phase
    simp only [Exchange.step, Exchange.work]
    cases hStage : x.worker.stage with
    | writing frame =>
        rw [hStage] at hShown
        exact absurd hShown hPhase
    | _ => rfl

/- What was committed last changes in the writing phase only. -/
theorem InPhase.lastCommitted_step
    (h : x.InPhase)
    (hPhase : x.mailbox.phase ≠ .writing)
    (e : Event) :
    (x.step e).mailbox.lastCommitted = x.mailbox.lastCommitted := by
  by_cases hAsk : ∀ due, e ≠ .work due
  · rcases x.phase_of_ask hAsk with ⟨m, hStep, hLast, -⟩
    rw [hStep]
    exact hLast
  · rcases not_forall_not.mp hAsk with ⟨due, rfl⟩
    have hShown := h.phase
    simp only [Exchange.step, Exchange.work]
    cases hStage : x.worker.stage with
    | seeking =>
        rcases Worker.pick_eq x.worker.started due x.mailbox
            x.worker.renderer with
          ⟨work, m, hPick, hCases⟩
        simp only [Worker.seek, hPick]
        rcases hCases with
          ⟨redraw, rfl, rfl, -⟩ | ⟨redraw, rfl, rfl, -⟩ |
            ⟨s, rfl, rfl, -⟩ <;> rfl
    | planning s force =>
        simp only [Worker.planNext]
        split <;> rfl
    | settling frame failure =>
        rw [hStage] at hShown
        exact absurd hShown hPhase
    | _ => rfl

end Exchange

end Redraw
