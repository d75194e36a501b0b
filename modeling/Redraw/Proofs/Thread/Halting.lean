import Redraw.Proofs.Thread.Numbering
import Redraw.Proofs.Thread.Phases

/-
  Halting: a delivery that fails stops the thread until a reset.

  Whatever becomes of a snapshot is reported once, in order.  A
  thread that failed comes to no outcome, so that only a reset
  leads on, and since a reset has the screen forgotten the first
  frame after it draws everything.

  Key definitions include:
    * `Exchange.told`: the reports sent and the one on its way
    * `Exchange.outcomes`: the reports that an event makes sure of
    * `Exchange.failures`: deliveries that fail
    * `Exchange.Halted`: what a thread that halts leaves alone
    * `Watch.Tells`: which reports are on cycles under watch
    * `Exchange.HaltsUntilReset`, `Exchange.RepaintsAfterReset`

  Main declarations:
    * `Exchange.told_run`, `Exchange.told_of_distance`
    * `Exchange.Halted.run`
    * `Exchange.repaint_of_reset`
    * `Exchange.halts_on_failure`
-/

namespace Redraw

------------------------------------------------------------
-- Reports on Their Way
------------------------------------------------------------

/- The report on a delivery that failed. -/
def Report.undelivered (cause : SinkError) : Report :=
  .failed (.outputWriteFailure cause)

/- The report that is on its way at a stage. -/
def Stage.owed : Stage → List Report
  | .settling frame none =>
      [.committed frame.snapshot.seq frame.stats]
  | .settling _ (some cause) => [.undelivered cause]
  | .reporting report => [report]
  | _ => []

/- The steps of the thread until that report is sent. -/
def Stage.distance : Stage → Nat
  | .settling _ _ => 2
  | .reporting _ => 1
  | _ => 0

/- Whether an event is a step of the thread. -/
def Event.isWork : Event → Bool
  | .work _ => true
  | _ => false

namespace Exchange

/- The reports sent and the one on its way. -/
def told (x : Exchange) : List Report :=
  x.reports ++ x.worker.stage.owed

/- The report that an event makes sure of. -/
def outcomes (x : Exchange) : Event → List Report
  | .work _ =>
      match x.worker.stage with
      | .planning s force =>
          match x.worker.renderer.plan s force with
          | .ok _ => []
          | .error e => [.rejected s.seq e]
      | .writing frame =>
          match (x.worker.renderer.flushTo x.sink).1 with
          | .done => [.committed frame.snapshot.seq frame.stats]
          | .failed cause => [.undelivered cause]
          | .crashed => []
      | _ => []
  | _ => []

/- A write or a flush that fails. -/
def failures (x : Exchange) : Event → List SinkError
  | .work _ =>
      match x.worker.stage with
      | .writing _ =>
          match (x.worker.renderer.flushTo x.sink).1 with
          | .failed cause => [cause]
          | _ => []
      | _ => []
  | _ => []

/- Every report is sent that an event made sure of, in order. -/
theorem told_step
    (x : Exchange)
    (e : Event) :
    (x.step e).told = x.told ++ x.outcomes e := by
  by_cases hAsk : ∀ due, e ≠ .work due
  · rcases x.phase_of_ask hAsk with ⟨m, hStep, -⟩
    have hNone : x.outcomes e = [] := by
      cases e with
      | work due => exact absurd rfl (hAsk due)
      | _ => rfl
    rw [hStep, hNone, List.append_nil]
    rfl
  · rcases not_forall_not.mp hAsk with ⟨due, rfl⟩
    simp only [told, outcomes, step, work]
    cases hStage : x.worker.stage with
    | seeking =>
        simp only [Worker.seek]
        split <;> simp [Stage.owed, hStage]
    | planning s force =>
        simp only [Worker.planNext]
        cases x.worker.renderer.plan s force <;> simp [Stage.owed]
    | encoding s plan => simp [Worker.encodeNext, Stage.owed]
    | writing frame =>
        simp only [Worker.writeNext]
        rcases x.worker.renderer.flushTo x.sink with
          ⟨outcome, r, sink⟩
        cases outcome <;> simp [Stage.owed]
    | settling frame failure =>
        cases failure <;>
          simp [Worker.settleNext, Stage.owed, Report.undelivered]
    | reporting report => simp [Stage.owed]
    | stopped => simp [hStage, Stage.owed]
    | dead => simp [hStage, Stage.owed]

theorem told_run
    (x : Exchange)
    (events : List Event) :
    (x.run events).told = x.told ++ x.collect outcomes events := by
  induction events generalizing x with
  | nil => simp [run, collect]
  | cons e later ih =>
      rw [collect, ← List.append_assoc, ← told_step]
      exact ih (x.step e)

/- What fails is what is reported to have failed. -/
theorem failed_outcomes
    (x : Exchange)
    (e : Event) :
    (x.outcomes e).filter Report.isFailed =
      (x.failures e).map Report.undelivered := by
  cases e with
  | work due =>
      simp only [outcomes, failures]
      cases x.worker.stage with
      | planning s force =>
          simp only
          cases x.worker.renderer.plan s force <;> rfl
      | writing frame =>
          simp only
          cases (x.worker.renderer.flushTo x.sink).1 <;> rfl
      | _ => rfl
  | _ => rfl

theorem failed_collect
    (x : Exchange)
    (events : List Event) :
    (x.collect outcomes events).filter Report.isFailed =
      (x.collect failures events).map Report.undelivered := by
  induction events generalizing x with
  | nil => rfl
  | cons e later ih =>
      rw [collect, collect, List.filter_append, List.map_append,
        failed_outcomes, ih]

/- Reports that were sent stay sent. -/
theorem reports_step
    (x : Exchange)
    (e : Event) :
    x.reports <+: (x.step e).reports := by
  by_cases hAsk : ∀ due, e ≠ .work due
  · rcases x.phase_of_ask hAsk with ⟨m, hStep, -⟩
    exact hStep ▸ List.prefix_rfl
  · rcases not_forall_not.mp hAsk with ⟨due, rfl⟩
    simp only [step, work]
    cases x.worker.stage with
    | reporting report => exact List.prefix_append _ _
    | _ => exact List.prefix_rfl

theorem reports_run
    (x : Exchange)
    (events : List Event) :
    x.reports <+: (x.run events).reports := by
  induction events generalizing x with
  | nil => exact List.prefix_rfl
  | cons e later ih => exact (x.reports_step e).trans (ih (x.step e))

/- No report is on its way where none is to be sent. -/
theorem owed_of_distance
    {stage : Stage}
    (h : stage.distance = 0) :
    stage.owed = [] := by
  cases stage with
  | settling frame failure => cases h
  | reporting report => cases h
  | _ => rfl

/- Each step of the thread is a step towards the report. -/
theorem distance_step
    {x : Exchange}
    (h : x.worker.stage.distance ≠ 0)
    (e : Event) :
    (x.step e).worker.stage.distance +
        (if e.isWork then 1 else 0) =
      x.worker.stage.distance := by
  by_cases hAsk : ∀ due, e ≠ .work due
  · rcases x.phase_of_ask hAsk with ⟨m, hStep, -⟩
    have hIdle : e.isWork = false := by
      cases e with
      | work due => exact absurd rfl (hAsk due)
      | _ => rfl
    rw [hStep, hIdle]
    rfl
  · rcases not_forall_not.mp hAsk with ⟨due, rfl⟩
    simp only [step, work]
    cases hStage : x.worker.stage with
    | settling frame failure => cases failure <;> rfl
    | reporting report => rfl
    | _ =>
        rw [hStage] at h
        exact absurd rfl h

/- A report is sent once the thread has taken the steps to it. -/
theorem told_of_distance
    {x : Exchange}
    {events : List Event}
    (h : x.worker.stage.distance ≤ events.countP Event.isWork) :
    x.told <+: (x.run events).reports := by
  by_cases hNone : x.worker.stage.distance = 0
  · rw [told, owed_of_distance hNone, List.append_nil]
    exact x.reports_run events
  induction events generalizing x with
  | nil => exact absurd (Nat.le_zero.mp h) hNone
  | cons e later ih =>
      have hTold : x.told <+: (x.step e).told := by
        rw [told_step]
        exact List.prefix_append _ _
      have hStep := distance_step hNone e
      rw [List.countP_cons] at h
      have hLeft :
          (x.step e).worker.stage.distance ≤
            later.countP Event.isWork := by
        omega
      apply hTold.trans
      by_cases hSent : (x.step e).worker.stage.distance = 0
      · rw [told, owed_of_distance hSent, List.append_nil]
        exact (x.step e).reports_run later
      · exact ih hLeft hSent

------------------------------------------------------------
-- Halting
------------------------------------------------------------

/- No call to reset is granted among these events. -/
def Unreset
    (x : Exchange)
    (events : List Event) : Prop :=
  ∀ before after,
    events = before ++ .reset :: after →
      (x.run before).mailbox.reset.isOk = false

theorem Unreset.head
    {x : Exchange}
    {e : Event}
    {later : List Event}
    (h : x.Unreset (e :: later)) :
    e = .reset → x.mailbox.reset.isOk = false := by
  rintro rfl
  exact h [] later rfl

theorem Unreset.tail
    {x : Exchange}
    {e : Event}
    {later : List Event}
    (h : x.Unreset (e :: later)) :
    (x.step e).Unreset later := by
  intro before after hEvents
  exact h (e :: before) after (by rw [hEvents]; rfl)

/- A thread that halts or has ended is not drawing. -/
theorem outcomes_of_halted
    {x : Exchange}
    (h : x.InPhase)
    (hPhase : x.mailbox.phase = .failed ∨ x.mailbox.phase = .stopped)
    (e : Event) :
    x.outcomes e = [] := by
  have hShown := h.phase
  cases e with
  | work due =>
      simp only [outcomes]
      cases hStage : x.worker.stage with
      | planning s force =>
          rw [hStage] at hShown
          rw [show x.mailbox.phase = .diffing from hShown] at hPhase
          rcases hPhase with hPhase | hPhase <;> cases hPhase
      | writing frame =>
          rw [hStage] at hShown
          rw [show x.mailbox.phase = .writing from hShown] at hPhase
          rcases hPhase with hPhase | hPhase <;> cases hPhase
      | _ => rfl
  | _ => rfl

/- Only a reset leads on. -/
theorem Moves.of_halted
    {x : Exchange}
    {e : Event}
    {phase : Phase}
    (h : x.Moves e phase)
    (hPhase : x.mailbox.phase = .failed ∨ x.mailbox.phase = .stopped)
    (hReset : e = .reset → x.mailbox.reset.isOk = false) :
    phase = .failed ∨ phase = .stopped := by
  cases h with
  | stays => exact hPhase
  | resets event source granted =>
      cases granted.symm.trans (hReset event)
  | stops => exact Or.inr rfl
  | picks due event source
  | plans due event source
  | rejects due event source
  | encodes due event source
  | commits due event source
  | fails due event source =>
      rw [source] at hPhase
      rcases hPhase with hPhase | hPhase <;> cases hPhase

/- What a thread that halts leaves as it was. -/
structure Halted (x y : Exchange) : Prop where
  inPhase : y.InPhase
  phase : y.mailbox.phase = .failed ∨ y.mailbox.phase = .stopped
  sink : y.sink = x.sink
  lastCommitted : y.mailbox.lastCommitted = x.mailbox.lastCommitted
  told : y.told = x.told

theorem Halted.step
    {x y : Exchange}
    (h : x.Halted y)
    {e : Event}
    (hReset : e = .reset → y.mailbox.reset.isOk = false) :
    x.Halted (y.step e) := by
  rcases h.inPhase.step e with ⟨hMoves, hInPhase⟩
  have hQuiet : y.mailbox.phase ≠ .writing := by
    intro hWriting
    rcases h.phase with hPhase | hPhase <;>
      cases hWriting.symm.trans hPhase
  refine ⟨hInPhase, ?_, ?_, ?_, ?_⟩
  · exact hMoves.of_halted h.phase hReset
  · exact (h.inPhase.sink_step hQuiet e).trans h.sink
  · exact
      (h.inPhase.lastCommitted_step hQuiet e).trans h.lastCommitted
  · rw [told_step, outcomes_of_halted h.inPhase h.phase,
      List.append_nil, h.told]

theorem Halted.run
    {x y : Exchange}
    (h : x.Halted y)
    {events : List Event}
    (hReset : y.Unreset events) :
    x.Halted (y.run events) := by
  induction events generalizing y with
  | nil => exact h
  | cons e later ih => exact ih (h.step hReset.head) hReset.tail

end Exchange

------------------------------------------------------------
-- Recovery
------------------------------------------------------------

/-
  What was reported since a watch began: first what was on its
  way, which is no frame, and then the cycles of the log.
-/
structure Watch.Tells
    (earlier : List Report)
    (w : Watch) : Prop where
  reports :
    ∃ old,
      (∀ report ∈ old, report.isCommitted = false) ∧
        w.exchange.reports = earlier ++ (old ++ w.log.map Prod.snd)
  resting :
    w.cycle = none →
      w.exchange.worker.stage = .seeking ∨
        w.exchange.worker.stage = .stopped ∨
          (∃ e, w.exchange.worker.stage = .reporting (.failed e)) ∧
            w.log = []

namespace Watch.Tells

variable {earlier : List Report}
variable {w : Watch}

theorem seek
    (h : w.Tells earlier)
    (hStage : w.exchange.worker.stage = .seeking)
    (due : Bool) :
    (w.step (.work due)).Tells earlier := by
  rcases w.step_seeking hStage due with ⟨m, -, -, hStep⟩
  rcases hStep with ⟨hStep, -⟩ | ⟨hStep, -⟩ | ⟨s, hStep⟩
  · rw [hStep]
    exact ⟨h.reports, fun _ => Or.inl rfl⟩
  · rw [hStep]
    exact ⟨h.reports, fun _ => Or.inr (Or.inl rfl)⟩
  · rw [hStep]
    exact ⟨h.reports, nofun⟩

theorem draw
    (h : w.Tells earlier)
    (hDrawing : w.exchange.worker.stage.isDrawing = true)
    (due : Bool) :
    (w.step (.work due)).Tells earlier := by
  rw [w.step_drawing hDrawing]
  refine ⟨?_, fun hNone => ?_⟩
  · rw [w.exchange.reports_drawing hDrawing]
    exact h.reports
  · rcases h.resting hNone with hStage | hStage | ⟨⟨e, hStage⟩, -⟩ <;>
      (rw [hStage] at hDrawing
       cases hDrawing)

theorem report
    (h : w.Tells earlier)
    {report : Report}
    (hStage : w.exchange.worker.stage = .reporting report)
    (due : Bool) :
    (w.step (.work due)).Tells earlier := by
  rw [w.step_reporting hStage]
  rcases h.reports with ⟨old, hOld, hReports⟩
  refine ⟨?_, fun _ => Or.inl rfl⟩
  cases hCycle : w.cycle with
  | some c =>
      refine ⟨old, hOld, ?_⟩
      simp [hReports]
  | none =>
      rcases h.resting hCycle with hRest | hRest | ⟨⟨e, hRest⟩, hEmpty⟩
      · cases hStage.symm.trans hRest
      · cases hStage.symm.trans hRest
      · obtain rfl : report = .failed e := by
          simpa [hStage] using hRest
        refine ⟨old ++ [.failed e], ?_, ?_⟩
        · intro report hReport
          rcases List.mem_append.mp hReport with hBefore | hLast
          · exact hOld report hBefore
          · rw [List.mem_singleton.mp hLast]
            rfl
        · simp [hReports, hEmpty]

theorem step
    (h : w.Tells earlier)
    (e : Event) :
    (w.step e).Tells earlier := by
  apply Watch.step_cases h
  · exact fun m _ _ => ⟨h.reports, h.resting⟩
  · exact h.seek
  · exact h.draw
  · exact fun report => h.report

theorem run
    (h : w.Tells earlier)
    (events : List Event) :
    (w.run events).Tells earlier :=
  Watch.run_induction (fun e _ _ hTells => hTells.step e) h

/- A frame that was committed since is in the log. -/
theorem exists_prefix
    (h : w.Tells earlier)
    {between rest : List Report}
    {seq : Nat}
    {stats : FrameStats}
    (hReports :
      w.exchange.reports =
        earlier ++ (between ++ .committed seq stats :: rest))
    (hFirst : ∀ report ∈ between, report.isCommitted = false) :
    ∃ before c,
      before ++ [(c, .committed seq stats)] <+: w.log ∧
        ∀ entry ∈ before, entry.2.isCommitted = false := by
  rcases h.reports with ⟨old, hOld, hTold⟩
  have hSplit := List.append_cancel_left (hTold.symm.trans hReports)
  have hLog :
      ∃ part, between = old ++ part ∧
        w.log.map Prod.snd = part ++ .committed seq stats :: rest := by
    rcases List.append_eq_append_iff.mp hSplit with
      ⟨part, hBetween, hLog⟩ | ⟨part, hOldSplit, hRest⟩
    · exact ⟨part, hBetween, hLog⟩
    · cases part with
      | nil =>
          exact
            ⟨[], by simpa using hOldSplit.symm, by simpa using hRest.symm⟩
      | cons first part =>
          obtain rfl : .committed seq stats = first :=
            (List.cons.inj hRest).1
          have hNot := hOld (.committed seq stats) (by simp [hOldSplit])
          cases hNot
  rcases hLog with ⟨part, hBetween, hLog⟩
  rcases List.map_eq_append_iff.mp hLog with
    ⟨before, after, hEntries, hBefore, hAfter⟩
  rcases List.map_eq_cons_iff.mp hAfter with
    ⟨⟨c, report⟩, later, rfl, rfl, -⟩
  refine ⟨before, c, ⟨later, by simp [hEntries]⟩, ?_⟩
  intro entry hEntry
  apply hFirst
  rw [hBetween, ← hBefore]
  exact List.mem_append_right _ (List.mem_map_of_mem hEntry)

end Watch.Tells

namespace Exchange

/-
  The request to forget the screen is not lost on the way to a
  frame, whatever else is reported before it.
-/
theorem repaint_of_reset
    {x : Exchange}
    (h : x.InPhase)
    (hPhase : x.mailbox.phase = .failed)
    (hReset : x.mailbox.reset.isOk = true)
    {later : List Event}
    {between rest : List Report}
    {seq : Nat}
    {stats : FrameStats}
    (hReports :
      ((x.step .reset).run later).reports =
        x.reports ++ (between ++ .committed seq stats :: rest))
    (hFirst : ∀ report ∈ between, report.isCommitted = false) :
    stats.repaint = true := by
  let w := (Watch.start (x.step .reset)).run later
  have hExchange : w.exchange = (x.step .reset).run later :=
    Watch.exchange_run _ later
  have hKept : Request.Kept .reset w :=
    (Request.Kept.of_ask (q := .reset) hReset).run later
  have hTells : w.Tells x.reports := by
    apply Watch.Tells.run
    rcases x.phase_of_ask (e := .reset) nofun with ⟨m, hStep, -⟩
    rw [hStep]
    refine ⟨⟨[], by simp, by simp [Watch.start]⟩, fun _ => ?_⟩
    rcases h.stage_of_failed hPhase with hStage | hStage
    · exact Or.inl hStage
    · exact Or.inr (Or.inr ⟨hStage, rfl⟩)
  rw [← hExchange] at hReports
  rcases hTells.exists_prefix hReports hFirst with
    ⟨before, c, hPrefix, hBefore⟩
  rcases hKept.logged before c _ hPrefix with ⟨hReaches, hStats⟩
  rw [hStats seq stats rfl, Cycle.repaints, Renderer.needsRepaint,
    hReaches.owed ⟨hBefore, Or.inl rfl⟩]
  simp

------------------------------------------------------------
-- Failed Deliveries
------------------------------------------------------------

/-
  After a failure nothing happens until a reset is granted: the
  sink is not called, nothing is committed or accepted, and only
  the report on the failure is sent if it is still on its way.
-/
def HaltsUntilReset (x : Exchange) : Prop :=
  ∀ later,
    x.Unreset later →
      let y := x.run later
      y.sink = x.sink ∧
        y.mailbox.lastCommitted = x.mailbox.lastCommitted ∧
        (y.mailbox.phase = .failed ∨ y.mailbox.phase = .stopped) ∧
        (∃ sent,
          y.reports = x.reports ++ sent ∧
            sent <+: x.worker.stage.owed ∧
            ∀ report ∈ sent, report.isFailed = true) ∧
        ∀ s,
          y.mailbox.submit s =
            .error (if y.mailbox.shutdown then .shutDown else .failed)

/- After a reset the first frame to be committed draws everything. -/
def RepaintsAfterReset (x : Exchange) : Prop :=
  x.mailbox.reset.isOk = true →
    ∀ later between seq stats rest,
      ((x.step .reset).run later).reports =
          x.reports ++ (between ++ .committed seq stats :: rest) →
        (∀ report ∈ between, report.isCommitted = false) →
          stats.repaint = true

theorem Halted.submit
    {x y : Exchange}
    (h : x.Halted y)
    (s : Snapshot) :
    y.mailbox.submit s =
      .error (if y.mailbox.shutdown then .shutDown else .failed) := by
  rcases h.phase with hPhase | hPhase
  · cases hShutdown : y.mailbox.shutdown <;>
      simp [Mailbox.submit, hPhase, hShutdown]
  · have hShutdown := h.inPhase.stopped hPhase
    simp [Mailbox.submit, hShutdown]

theorem InPhase.haltsUntilReset
    {x : Exchange}
    (h : x.InPhase)
    (hPhase : x.mailbox.phase = .failed) :
    x.HaltsUntilReset := by
  intro later hReset
  have hHere : x.Halted x := ⟨h, Or.inl hPhase, rfl, rfl, rfl⟩
  have hHalted := hHere.run hReset
  refine
    ⟨hHalted.sink, hHalted.lastCommitted, hHalted.phase, ?_,
      hHalted.submit⟩
  rcases x.reports_run later with ⟨sent, hSent⟩
  have hTold := hHalted.told
  rw [told, told, ← hSent, List.append_assoc] at hTold
  have hOwed := List.append_cancel_left hTold
  have hPrefix : sent <+: x.worker.stage.owed := ⟨_, hOwed⟩
  refine ⟨sent, hSent.symm, hPrefix, fun report hReport => ?_⟩
  have hMember := hPrefix.subset hReport
  rcases h.stage_of_failed hPhase with hStage | ⟨e, hStage⟩
  · rw [hStage] at hMember
    cases hMember
  · rw [hStage] at hMember
    rw [List.mem_singleton.mp hMember]
    rfl

/-
  Whatever happens in whatever order: the phase moves along its
  ways, the sink is called in the writing phase only, and every
  delivery that fails is reported as failed once, within two
  further steps of the thread.  After it the thread halts until
  a reset, and the first frame after that draws everything.
-/
theorem halts_on_failure
    (caps : Capabilities)
    (sink : Sink)
    (events : List Event) :
    let start := Exchange.start caps sink
    let x := start.run events
    (∀ e, x.Moves e (x.step e).mailbox.phase) ∧
      (∀ e, x.mailbox.phase ≠ .writing → (x.step e).sink = x.sink) ∧
      x.told.filter Report.isFailed =
        (start.collect failures events).map Report.undelivered ∧
      (∀ later,
        2 ≤ later.countP Event.isWork →
          x.told <+: (x.run later).reports) ∧
      (x.mailbox.phase = .failed →
        x.HaltsUntilReset ∧ x.RepaintsAfterReset) := by
  intro start x
  have h : x.InPhase := (inPhase_start caps sink).run events
  refine
    ⟨fun e => (h.step e).1, fun e hPhase => h.sink_step hPhase e, ?_,
      ?_, fun hPhase => ⟨h.haltsUntilReset hPhase, ?_⟩⟩
  · have hTold : x.told = start.collect outcomes events :=
      start.told_run events
    rw [hTold]
    exact start.failed_collect events
  · intro later hSteps
    apply told_of_distance
    have hBound : x.worker.stage.distance ≤ 2 := by
      cases x.worker.stage <;> simp [Stage.distance]
    omega
  · intro hReset later between seq stats rest hReports hFirst
    exact repaint_of_reset h hPhase hReset hReports hFirst

/- The second of two frames is not delivered. -/
example :
    let x :=
      (Exchange.start .minimal { writes := [.all, .fail] }).run
        (Watch.drawn Watch.plain ++ Watch.drawn Request.mended)
    x.mailbox.phase = .failed ∧
      x.reports =
        [.committed 1 ⟨2, 2, 25, true⟩, .undelivered .wentAway] := by
  decide +kernel

end Exchange

end Redraw
