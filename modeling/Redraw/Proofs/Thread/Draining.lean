import Redraw.Proofs.Thread.Fates
import Redraw.Proofs.Thread.Halting

/-
  Draining: a thread that is asked to finish draws what is left.

  From then on every request is refused.  The thread does not
  wait for pacing any more and stops when it finds nothing to
  draw.  Only a thread that has taken note of a failure stops
  with work left over; a reset before it takes note is in vain.

  Key definitions include:
    * `Mailbox.Closed`: every request is refused
    * `Exchange.GaveUp`: a failure was noted, and that was all
    * `Exchange.Drained`: the invariant
    * `Exchange.kept`: what no other size has dropped

  Main declarations:
    * `Worker.nothing_left`: why the thread stops
    * `Exchange.Drained.step`, `Exchange.Drained.run`
    * `Exchange.stops_with_nothing_left`
    * `Exchange.stops_with_something_left`
-/

namespace Redraw

------------------------------------------------------------
-- Refusals
------------------------------------------------------------

namespace Mailbox

/- Every request is refused since the thread is to finish. -/
structure Closed (m : Mailbox) : Prop where
  submit : ∀ s, m.submit s = .error .shutDown
  forceRepaint : m.forceRepaint = .error .shutDown
  resize : ∀ size, m.resize size = .error .shutDown
  reset : m.reset = .error .shutDown

theorem closed_of_shutdown
    {m : Mailbox}
    (h : m.shutdown = true) :
    m.Closed where
  submit s := by simp [Mailbox.submit, h]
  forceRepaint := by simp [Mailbox.forceRepaint, h]
  resize size := by simp [Mailbox.resize, h]
  reset := by simp [Mailbox.reset, h]

end Mailbox

namespace Exchange

theorem run_concat
    (x : Exchange)
    (events : List Event)
    (e : Event) :
    x.run (events ++ [e]) = (x.run events).step e := by
  simp [run]

/- The wish to finish is not taken back. -/
theorem shutdown_step
    {x : Exchange}
    (h : x.mailbox.shutdown = true)
    (e : Event) :
    (x.step e).mailbox.shutdown = true := by
  by_cases hAsk : ∀ due, e ≠ .work due
  · rcases x.phase_of_ask hAsk with ⟨m, hStep, -, hShutdown, -⟩
    rw [hStep]
    exact hShutdown h
  · rcases not_forall_not.mp hAsk with ⟨due, rfl⟩
    exact (x.mailbox_of_work due).2.1.trans h

theorem shutdown_run
    {x : Exchange}
    (h : x.mailbox.shutdown = true)
    (events : List Event) :
    (x.run events).mailbox.shutdown = true := by
  induction events generalizing x with
  | nil => exact h
  | cons e later ih => exact ih (shutdown_step h e)

/- It is there once it has been uttered. -/
theorem shutdown_of_stop
    (x : Exchange)
    {events : List Event}
    (h : .stop ∈ events) :
    (x.run events).mailbox.shutdown = true := by
  induction events generalizing x with
  | nil => cases h
  | cons e later ih =>
      rcases List.mem_cons.mp h with rfl | hLater
      · exact shutdown_run rfl later
      · exact ih (x.step e) hLater

/- A thread that has stopped changes nothing, and nobody else does. -/
theorem InPhase.step_of_stopped
    {x : Exchange}
    (h : x.InPhase)
    (hStage : x.worker.stage = .stopped)
    (e : Event) :
    x.step e = x := by
  have hPhase := h.phase
  rw [hStage] at hPhase
  have hShutdown := h.stopped hPhase
  have hClosed := Mailbox.closed_of_shutdown hShutdown
  cases e with
  | submit s => rw [Exchange.step, hClosed.submit, update]
  | forceRepaint => rw [Exchange.step, hClosed.forceRepaint, update]
  | resize size => rw [Exchange.step, hClosed.resize, update]
  | reset => rw [Exchange.step, hClosed.reset, update]
  | stop => simp only [Exchange.step, Mailbox.stop, ← hShutdown]
  | work due => simp only [Exchange.step, Exchange.work, hStage]

/- The thread shows that it has stopped when it has. -/
theorem InPhase.stage_of_stopped
    {x : Exchange}
    (h : x.InPhase)
    (hPhase : x.mailbox.phase = .stopped) :
    x.worker.stage = .stopped := by
  have hShown := h.phase
  rw [hPhase] at hShown
  cases hStage : x.worker.stage with
  | stopped => rfl
  | seeking =>
      rw [hStage] at hShown
      rcases hShown with hShown | hShown <;> cases hShown
  | reporting report =>
      rw [hStage] at hShown
      cases report with
      | failed e => rcases hShown with hShown | hShown <;> cases hShown
      | committed seq stats => cases hShown
      | rejected seq e => cases hShown
  | _ =>
      rw [hStage] at hShown
      cases hShown

end Exchange

------------------------------------------------------------
-- Stopping
------------------------------------------------------------

/-
  A thread that has noted no failure stops only when nothing is
  pending and nothing is to be drawn again.
-/
theorem Worker.nothing_left
    {started due : Bool}
    {m : Mailbox}
    {r : Renderer}
    (h : (pick started due m r).1 = .stop)
    (hSound : m.phase ≠ .failed) :
    (pick started due m r).2.1.pending = none ∧
      (pick started due m r).2.1.redraw = false := by
  rcases dropRedraw_eq (takeInvalidate m r).1 (takeInvalidate m r).2 with
    ⟨redraw, hDrop, -⟩
  rw [takeInvalidate_eq] at hDrop
  simp only [pick, takeInvalidate_eq, hDrop] at h ⊢
  split at h
  · -- There is something to draw, and the thread does not stop.
    split at h
    · cases h
    · unfold take at h
      split at h <;> cases h
  · rename_i hIdle
    simp only [ne_eq, hSound, not_false_eq_true, true_and, not_or,
      Bool.not_eq_true, Option.isSome_eq_false_iff,
      Option.isNone_iff_eq_none] at hIdle
    split at h
    · rename_i hShutdown
      simp [hShutdown, Mailbox.enter, hIdle]
    · cases h

namespace Exchange

/- So it is when the phase turns out to be the last. -/
theorem InPhase.nothing_left
    {x : Exchange}
    (h : x.InPhase)
    (hIdle : x.mailbox.phase = .idle)
    {due : Bool}
    (hStopped : (x.work due).mailbox.phase = .stopped) :
    (x.work due).mailbox.pending = none ∧
      (x.work due).mailbox.redraw = false := by
  have hLast := (h.work due).2.stage_of_stopped hStopped
  rcases x.worker.stage.kinds with
    hStage | hStage | ⟨report, hStage⟩ | hStage
  · simp only [Exchange.work, hStage, Worker.seek] at hLast ⊢
    rcases hPick :
        Worker.pick x.worker.started due x.mailbox x.worker.renderer
      with ⟨work, m, r⟩
    rw [hPick] at hLast
    cases work with
    | stop =>
        have hLeft :=
          Worker.nothing_left (congrArg Prod.fst hPick)
            (by rw [hIdle]; exact Phase.noConfusion)
        rw [hPick] at hLeft
        exact hLeft
    | wait => cases hLast
    | draw s force => cases hLast
  · exact absurd hLast (x.work_drawing hStage due).2.1
  · simp only [Exchange.work, hStage] at hLast
    cases hLast
  · have hSame : x.work due = x := by
      rcases hStage with hStage | hStage <;>
        simp only [Exchange.work, hStage]
    rw [hSame, hIdle] at hStopped
    cases hStopped

------------------------------------------------------------
-- The Invariant
------------------------------------------------------------

theorem Unreset.concat
    {x : Exchange}
    {events : List Event}
    (h : x.Unreset events)
    {e : Event}
    (hReset : e = .reset → (x.run events).mailbox.reset.isOk = false) :
    x.Unreset (events ++ [e]) := by
  intro before after hEvents
  rcases List.eq_nil_or_concat after with rfl | ⟨later, last, rfl⟩
  · have hParts := List.append_inj' hEvents rfl
    rw [← hParts.1]
    exact hReset (List.singleton_inj.mp hParts.2)
  · rw [List.concat_eq_append, ← List.cons_append,
      ← List.append_assoc] at hEvents
    exact h before later (List.append_inj' hEvents rfl).1

/- A granted reset leaves the failure behind. -/
theorem phase_of_reset
    {x : Exchange}
    (h : x.mailbox.reset.isOk = true) :
    (x.step .reset).mailbox.phase ≠ .failed := by
  cases hAnswer : x.mailbox.reset with
  | error e =>
      rw [hAnswer] at h
      cases h
  | ok m =>
      simp only [step, hAnswer, update,
        (Mailbox.reset_eq_ok hAnswer).1]
      split
      · exact Phase.noConfusion
      · assumption

/-
  The thread took note of a delivery that failed.  The sink has
  not been called since that delivery, and no reset was granted
  after the thread took note.
-/
def GaveUp
    (x : Exchange)
    (events : List Event) : Prop :=
  ∃ before due after frame cause,
    events = before ++ .work due :: after ∧
      (x.run before).worker.stage = .settling frame (some cause) ∧
      (x.run (before ++ [.work due])).Unreset after ∧
      (x.run events).sink = (x.run before).sink

theorem GaveUp.concat
    {x : Exchange}
    {events : List Event}
    (h : x.GaveUp events)
    {e : Event}
    (hReset : e = .reset → (x.run events).mailbox.reset.isOk = false)
    (hSink : ((x.run events).step e).sink = (x.run events).sink) :
    x.GaveUp (events ++ [e]) := by
  rcases h with
    ⟨before, due, after, frame, cause, rfl, hStage, hUnreset, hSame⟩
  refine
    ⟨before, due, after ++ [e], frame, cause, by simp, hStage,
      hUnreset.concat ?_, ?_⟩
  · intro hIs
    rw [show (x.run (before ++ [.work due])).run after =
        x.run (before ++ .work due :: after) by simp [run]]
    exact hReset hIs
  · rw [run_concat]
    exact hSink.trans hSame

/-
  A thread that shows a failure gave up, and one that stopped
  did too or left nothing.
-/
structure Drained
    (x : Exchange)
    (events : List Event) : Prop where
  failed : (x.run events).mailbox.phase = .failed → x.GaveUp events
  stopped :
    (x.run events).mailbox.phase = .stopped →
      x.GaveUp events ∨
        (x.run events).mailbox.pending = none ∧
          (x.run events).mailbox.redraw = false

namespace Drained

variable {x : Exchange}
variable {events : List Event}

theorem step_failed
    (h : x.Drained events)
    (hInPhase : (x.run events).InPhase)
    (e : Event)
    (hFailed : (x.run (events ++ [e])).mailbox.phase = .failed) :
    x.GaveUp (events ++ [e]) := by
  rw [run_concat] at hFailed
  have hMoves := (hInPhase.step e).1
  generalize hPhase : ((x.run events).step e).mailbox.phase = phase
    at hMoves hFailed
  cases hMoves with
  | stays =>
      refine (h.failed hFailed).concat ?_ ?_
      · rintro rfl
        cases hGranted : (x.run events).mailbox.reset.isOk with
        | false => rfl
        | true =>
            exact absurd (hPhase.trans hFailed) (phase_of_reset hGranted)
      · apply hInPhase.sink_step
        rw [hFailed]
        exact Phase.noConfusion
  | fails due event source frame cause stage =>
      subst event
      refine
        ⟨events, due, [], frame, cause, rfl, stage, by simp [Unreset],
          ?_⟩
      rw [run_concat]
      simp only [step, work, stage]
  | _ => cases hFailed

theorem step_stopped
    (h : x.Drained events)
    (hInPhase : (x.run events).InPhase)
    (e : Event)
    (hStopped : (x.run (events ++ [e])).mailbox.phase = .stopped) :
    x.GaveUp (events ++ [e]) ∨
      (x.run (events ++ [e])).mailbox.pending = none ∧
        (x.run (events ++ [e])).mailbox.redraw = false := by
  rw [run_concat] at hStopped ⊢
  have hMoves := (hInPhase.step e).1
  generalize hPhase : ((x.run events).step e).mailbox.phase = phase
    at hMoves hStopped
  cases hMoves with
  | stays =>
      have hSame :=
        hInPhase.step_of_stopped (hInPhase.stage_of_stopped hStopped)
          e
      rw [hSame]
      refine (h.stopped hStopped).imp_left fun hGaveUp => ?_
      refine hGaveUp.concat ?_ (by rw [hSame])
      intro _
      rw [(Mailbox.closed_of_shutdown
        (hInPhase.stopped hStopped)).reset]
      rfl
  | stops due event source =>
      subst event
      rcases source with hIdle | hFailed
      · exact Or.inr (hInPhase.nothing_left hIdle hPhase)
      · refine Or.inl ((h.failed hFailed).concat nofun ?_)
        apply hInPhase.sink_step
        rw [hFailed]
        exact Phase.noConfusion
  | _ => cases hStopped

theorem run
    (caps : Capabilities)
    (sink : Sink)
    (events : List Event) :
    (start caps sink).Drained events := by
  induction events using List.reverseRecOn with
  | nil => exact ⟨Phase.noConfusion, Phase.noConfusion⟩
  | append_singleton events e ih =>
      have hInPhase := (inPhase_start caps sink).run events
      exact ⟨ih.step_failed hInPhase e, ih.step_stopped hInPhase e⟩

end Drained

------------------------------------------------------------
-- What Is Left
------------------------------------------------------------

/- A snapshot was drawn, refused or not delivered. -/
def Ended
    (x : Exchange)
    (events : List Event)
    (s : Snapshot) : Prop :=
  ∃ fate ∈ [Fate.committed, .rejected, .failed],
    s ∈ x.fated events fate

instance
    (x : Exchange)
    (events : List Event) :
    DecidablePred (x.Ended events) :=
  fun s =>
    inferInstanceAs
      (Decidable
        (∃ fate ∈ [Fate.committed, .rejected, .failed],
          s ∈ x.fated events fate))

/- The accepted snapshots that no other size has dropped. -/
def kept
    (x : Exchange)
    (events : List Event) : List Snapshot :=
  (x.collect accepted events).filter (· ∉ x.fated events .dropped)

/-
  When nothing is pending or under way, all that was not dropped
  or replaced has come to an end.
-/
theorem ended_of_kept
    {x : Exchange}
    {events : List Event}
    (hAccounted :
      Watch.Accounted (x.collect accepted events)
        (x.collect replaced events) (x.collect dropped events)
        ((Watch.start x).run events))
    (hPending :
      ((Watch.start x).run events).exchange.mailbox.pending = none)
    (hCycle : ((Watch.start x).run events).cycle = none)
    {s : Snapshot}
    (hKept : s ∈ x.kept events)
    (hTaken : s ∉ x.fated events .replaced) :
    x.Ended events s := by
  rcases List.mem_filter.mp hKept with ⟨hAccepted, hStays⟩
  have hMem := (accepted_perm_fated hAccounted).mem_iff.mp hAccepted
  rcases List.mem_flatMap.mp hMem with ⟨fate, -, hFate⟩
  cases fate with
  | pending => simp [fated, hPending] at hFate
  | inFlight => simp [fated, hCycle, Cycle.fresh] at hFate
  | replaced => exact absurd hFate hTaken
  | dropped => exact absurd hFate (of_decide_eq_true hStays)
  | committed
  | rejected
  | failed => exact ⟨_, by decide, hFate⟩

/- The newest snapshot is not replaced. -/
theorem not_replaced_of_newest
    {x : Exchange}
    {events : List Event}
    (hNumbered :
      Watch.Numbered (x.collect accepted events)
        ((Watch.start x).run events))
    (hAccounted :
      Watch.Accounted (x.collect accepted events)
        (x.collect replaced events) (x.collect dropped events)
        ((Watch.start x).run events))
    {s : Snapshot}
    (hs : (x.collect accepted events).getLast? = some s) :
    s ∉ x.fated events .replaced := by
  intro hFate
  rcases List.mem_map.mp hFate with ⟨p, hp, rfl⟩
  rcases hAccounted.replaced p hp with ⟨hLater, hLess⟩
  rcases hNumbered.covered p.2 (hLater.subset (by simp)) with
    ⟨n, hn, hLe⟩
  rw [hNumbered.latest, hs] at hn
  cases hn
  omega

/-
  Once the thread is asked to finish, every request is refused.
  When it has stopped, it had noted that the last delivery
  failed and was not reset, or nothing is pending, nothing is to
  be drawn again, and every accepted snapshot has come to an end
  that was neither dropped for its size nor replaced in the
  slot.  The newest was not replaced.
-/
theorem stops_with_nothing_left
    (caps : Capabilities)
    (sink : Sink)
    (events : List Event) :
    let start := Exchange.start caps sink
    let x := start.run events
    (.stop ∈ events → x.mailbox.Closed) ∧
      (x.mailbox.phase = .stopped →
        x.worker.stage = .stopped ∧
          (start.GaveUp events ∨
            x.mailbox.pending = none ∧ x.mailbox.redraw = false ∧
              ∀ s ∈ start.kept events,
                s ∉ start.fated events .replaced →
                  start.Ended events s)) ∧
      ∀ s, (start.collect accepted events).getLast? = some s →
        s ∉ start.fated events .replaced := by
  intro start x
  have hNumbered :
      Watch.Numbered (start.collect accepted events)
        ((Watch.start start).run events) :=
    (Watch.Numbered.start caps sink).run events
  have hAccounted :
      Watch.Accounted (start.collect accepted events)
        (start.collect replaced events) (start.collect dropped events)
        ((Watch.start start).run events) :=
    (Watch.Accounted.start caps sink).run
      (Watch.Numbered.start caps sink) events
  have hExchange : ((Watch.start start).run events).exchange = x :=
    Watch.exchange_run (Watch.start start) events
  refine
    ⟨fun hStop => ?_, fun hStopped => ?_, fun s hs =>
      not_replaced_of_newest hNumbered hAccounted hs⟩
  · exact Mailbox.closed_of_shutdown (start.shutdown_of_stop hStop)
  · have hInPhase : x.InPhase := (inPhase_start caps sink).run events
    have hStage := hInPhase.stage_of_stopped hStopped
    have hDrained : start.Drained events := .run caps sink events
    refine ⟨hStage, (hDrained.stopped hStopped).imp_right ?_⟩
    rintro ⟨hPending, hRedraw⟩
    have hCycle : ((Watch.start start).run events).cycle = none := by
      cases hCycle : ((Watch.start start).run events).cycle with
      | none => rfl
      | some c =>
          have hCarries := (hNumbered.cycle c hCycle).1
          rw [hExchange] at hCarries
          simp only [Cycle.Carries, hStage] at hCarries
    have hNone :
        ((Watch.start start).run events).exchange.mailbox.pending =
          none := by
      rw [hExchange]
      exact hPending
    exact
      ⟨hPending, hRedraw, fun s hKept hTaken =>
        ended_of_kept hAccounted hNone hCycle hKept hTaken⟩

/-
  A snapshot that was replaced does not come back when the one
  that took its place is dropped, and a reset between a delivery
  that fails and the thread taking note of it is in vain.
-/
theorem stops_with_something_left :
    (let start := Exchange.start .minimal {}
      let narrow : Snapshot := { seq := 2, grid := .blank 1 3 }
      let events : List Event :=
        [.submit Watch.plain, .submit narrow,
          .resize Watch.plain.size, .stop, .work true]
      let x := start.run events
      x.mailbox.phase = .stopped ∧
        start.collect failures events = [] ∧
        (start.kept events).getLast? = some Watch.plain ∧
        ¬ start.Ended events Watch.plain) ∧
      let start :=
        Exchange.start .minimal { writes := [.all, .fail] }
      let before :=
        Watch.drawn Watch.plain
          ++ .submit Request.mended :: List.replicate 3 (.work true)
      let later : List Event := [.work true, .work true, .stop, .work true]
      let x := start.run (before ++ .work true :: .reset :: later)
      (start.run before).failures (.work true) = [.wentAway] ∧
        (start.run (before ++ [.work true])).mailbox.reset.isOk = true ∧
        x.mailbox.phase = .stopped ∧ x.mailbox.redraw = true ∧
        Worker.committedFits x.mailbox x.worker.renderer = true := by
  decide +kernel

/- A snapshot that pacing holds back is drawn at the end. -/
example :
    let held :=
      (Exchange.start .minimal {}).run
        (Watch.drawn Watch.plain
          ++ [.submit Request.mended, .work false, .work false])
    let x := held.run (.stop :: List.replicate 7 (.work false))
    held.mailbox.pending = some Request.mended ∧
      x.mailbox.phase = .stopped ∧
        x.mailbox.lastCommitted = some Request.mended.seq := by
  decide +kernel

end Exchange

end Redraw
