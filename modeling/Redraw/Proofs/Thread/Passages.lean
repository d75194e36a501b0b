import Redraw.Proofs.Thread.Halting

/-
  Passages: an exchange from which things are taken.

  Whoever drives an exchange may give its sink a new script,
  hand out the bytes that it received and take the reports that
  were sent.  None of this changes what happens.  It is the run
  of an exchange that is left alone, with a sink that knows all
  of its script from the start; there the bytes and the reports
  are still where they were.

  Key definitions include:
    * `Script`: the answers that a sink has to come
    * `Exchange.Leads`: events, and what is taken on the way
    * `Exchange.Retraces`: the same without taking anything
    * `Exchange.Works`: steps of the thread

  Main declarations:
    * `Exchange.exists_script_step`
    * `Exchange.Leads.exists_script`
    * `Exchange.Leads.exists_run`, `Exchange.Leads.holds_of_runs`
-/

namespace Redraw

------------------------------------------------------------
-- Scripts
------------------------------------------------------------

/- The answers that a sink has to come. -/
structure Script where
  writes : List WriteAnswer := []
  flushes : List FlushAnswer := []

namespace WriteLog

/-
  A write uses up some answers, and goes the same whatever is
  behind them.  A script that was too short is made longer by
  the answers that count when there are none.
-/
theorem exists_used
    (answers : List WriteAnswer)
    (bytes : List UInt8) :
    ∃ used, ∀ left,
      run (used ++ left) bytes =
        { run answers bytes with left := left } := by
  induction answers generalizing bytes with
  | nil =>
      cases bytes with
      | nil => exact ⟨[], run_nil⟩
      | cons b bytes => exact ⟨[.all], fun _ => rfl⟩
  | cons answer later ih =>
      cases bytes with
      | nil => exact ⟨[], run_nil⟩
      | cons b bytes =>
          cases answer with
          | all => exact ⟨[.all], fun _ => rfl⟩
          | atMost n =>
              cases n with
              | zero => exact ⟨[.atMost 0], fun _ => rfl⟩
              | succ n =>
                  rcases ih ((b :: bytes).drop (n + 1)) with
                    ⟨used, hUsed⟩
                  refine ⟨.atMost (n + 1) :: used, fun left => ?_⟩
                  simp only [List.cons_append, run, hUsed left,
                    after]
          | fail => exact ⟨[.fail], fun _ => rfl⟩
          | interrupt =>
              rcases ih (b :: bytes) with ⟨used, hUsed⟩
              refine ⟨.interrupt :: used, fun left => ?_⟩
              simp only [List.cons_append, run, hUsed left, after]
          | crash => exact ⟨[.crash], fun _ => rfl⟩

end WriteLog

------------------------------------------------------------
-- Sinks
------------------------------------------------------------

namespace Sink

/- What a sink is going to answer. -/
def script (k : Sink) : Script :=
  ⟨k.writes, k.flushes⟩

/- A sink that has received nothing yet. -/
def ofScript (script : Script) : Sink where
  writes := script.writes
  flushes := script.flushes

/-
  A sink in the place of another.  It received some bytes before
  those of the other, and has a script of its own; how often
  either was called is not compared.
-/
structure Replaces
    (l k : Sink)
    (sent : List UInt8)
    (script : Script) : Prop where
  follows : l.script = script
  received : l.received = sent ++ k.received

/-
  For every script that is to be left there is one that makes a
  sink in the place of another do the same.
-/
theorem exists_script_writeAll
    (k : Sink)
    (bytes : List UInt8)
    (later : Script) :
    ∃ script, ∀ {l : Sink} {sent : List UInt8},
      l.Replaces k sent script →
        (l.writeAll bytes).1 = (k.writeAll bytes).1 ∧
          (l.writeAll bytes).2.Replaces (k.writeAll bytes).2 sent
            later := by
  rcases WriteLog.exists_used k.writes bytes with ⟨used, hUsed⟩
  refine ⟨⟨used ++ later.writes, later.flushes⟩, ?_⟩
  rintro l sent ⟨hFollows, hReceived⟩
  obtain ⟨hWrites, hFlushes⟩ := Script.mk.inj hFollows
  have hRun := hUsed later.writes
  rw [← hWrites] at hRun
  rw [writeAll, hRun, hReceived]
  refine ⟨rfl, ?_, ?_⟩
  · rw [script, hFlushes]
  · exact List.append_assoc _ _ _

/- A flush asks for one answer, and leaves those behind it. -/
theorem flush_eq (s : Sink) :
    s.flush =
      (match s.flushes.headD .done with
        | .done => .done
        | .fail => .failed .wentAway
        | .interrupt => .failed .interrupted,
        { s with
          flushes := s.flushes.tail
          flushCalls := s.flushCalls + 1 }) := by
  rw [flush]
  cases s.flushes with
  | nil => rfl
  | cons answer later => cases answer <;> rfl

theorem exists_script_flush
    (k : Sink)
    (later : Script) :
    ∃ script, ∀ {l : Sink} {sent : List UInt8},
      l.Replaces k sent script →
        l.flush.1 = k.flush.1 ∧
          l.flush.2.Replaces k.flush.2 sent later := by
  refine
    ⟨⟨later.writes, k.flushes.headD .done :: later.flushes⟩, ?_⟩
  rintro l sent ⟨hFollows, hReceived⟩
  obtain ⟨hWrites, hFlushes⟩ := Script.mk.inj hFollows
  rw [flush_eq, flush_eq, hFlushes, hReceived]
  refine ⟨rfl, ?_, rfl⟩
  rw [script, hWrites, List.tail_cons]

theorem exists_script_deliver
    (k : Sink)
    (bytes : List UInt8)
    (later : Script) :
    ∃ script, ∀ {l : Sink} {sent : List UInt8},
      l.Replaces k sent script →
        (l.deliver bytes).1 = (k.deliver bytes).1 ∧
          (l.deliver bytes).2.Replaces (k.deliver bytes).2 sent
            later := by
  rcases (k.writeAll bytes).2.exists_script_flush later with
    ⟨ready, hFlush⟩
  rcases k.exists_script_writeAll bytes
      (if (k.writeAll bytes).1 = .done then ready else later) with
    ⟨script, hWrite⟩
  refine ⟨script, fun {l sent} h => ?_⟩
  rcases hWrite h with ⟨hSame, hReplaces⟩
  rw [deliver, deliver]
  rcases hLeft : l.writeAll bytes with ⟨outcome, l'⟩
  rcases hRight : k.writeAll bytes with ⟨outcome', k'⟩
  rw [hLeft, hRight] at hSame hReplaces
  rw [hRight] at hFlush
  obtain rfl : outcome = outcome' := hSame
  cases outcome with
  | done => exact hFlush hReplaces
  | failed cause => exact ⟨rfl, hReplaces⟩
  | crashed => exact ⟨rfl, hReplaces⟩

end Sink

theorem Outbox.exists_script_flushTo
    (o : Outbox)
    (k : Sink)
    (later : Script) :
    ∃ script, ∀ {l : Sink} {sent : List UInt8},
      l.Replaces k sent script →
        (o.flushTo l).1 = (o.flushTo k).1 ∧
          (o.flushTo l).2.1 = (o.flushTo k).2.1 ∧
            (o.flushTo l).2.2.Replaces (o.flushTo k).2.2 sent
              later := by
  by_cases hEmpty : o.isEmpty = true
  · refine ⟨later, fun {l sent} h => ?_⟩
    rw [flushTo, flushTo, if_pos hEmpty, if_pos hEmpty]
    exact ⟨rfl, rfl, h⟩
  · rcases k.exists_script_deliver o.frame later with
      ⟨script, hDeliver⟩
    refine ⟨script, fun {l sent} h => ?_⟩
    rcases hDeliver h with ⟨hSame, hReplaces⟩
    rw [flushTo, flushTo, if_neg hEmpty, if_neg hEmpty]
    rcases hLeft : l.deliver o.frame with ⟨outcome, l'⟩
    rcases hRight : k.deliver o.frame with ⟨outcome', k'⟩
    rw [hLeft, hRight] at hSame hReplaces
    obtain rfl : outcome = outcome' := hSame
    cases outcome <;> exact ⟨rfl, rfl, hReplaces⟩

theorem Worker.exists_script_writeNext
    (w : Worker)
    (frame : Frame)
    (k : Sink)
    (later : Script) :
    ∃ script, ∀ {l : Sink} {sent : List UInt8},
      l.Replaces k sent script →
        (w.writeNext frame l).1 = (w.writeNext frame k).1 ∧
          (w.writeNext frame l).2.Replaces (w.writeNext frame k).2
            sent later := by
  rcases w.renderer.outbox.exists_script_flushTo k later with
    ⟨script, hFlush⟩
  refine ⟨script, fun {l sent} h => ?_⟩
  rcases hFlush h with ⟨hSame, hOutbox, hReplaces⟩
  simp only [writeNext, Renderer.flushTo]
  rcases hLeft : w.renderer.outbox.flushTo l with
    ⟨outcome, left, l'⟩
  rcases hRight : w.renderer.outbox.flushTo k with
    ⟨outcome', left', k'⟩
  rw [hLeft, hRight] at hSame hOutbox hReplaces
  obtain rfl : outcome = outcome' := hSame
  obtain rfl : left = left' := hOutbox
  cases outcome <;> exact ⟨rfl, hReplaces⟩

------------------------------------------------------------
-- Exchanges
------------------------------------------------------------

namespace Exchange

/-
  An exchange that has come as far as another did from which
  reports and bytes were taken.  It still has all of them.
-/
structure Retraces
    (y x : Exchange)
    (taken : List Report)
    (sent : List UInt8)
    (script : Script) : Prop where
  mailbox : y.mailbox = x.mailbox
  worker : y.worker = x.worker
  reports : y.reports = taken ++ x.reports
  sink : y.sink.Replaces x.sink sent script

variable {x y : Exchange}
variable {taken : List Report}
variable {sent : List UInt8}
variable {script later : Script}

namespace Retraces

/- A sink is compared by what it received. -/
theorem withSink
    (h : y.Retraces x taken sent script)
    {k : Sink}
    (same : k.received = x.sink.received) :
    y.Retraces { x with sink := k } taken sent script := by
  refine ⟨h.mailbox, h.worker, h.reports, h.sink.follows, ?_⟩
  rw [same]
  exact h.sink.received

/- What is handed out on one side stays on the other. -/
theorem handOut
    (h : y.Retraces x taken sent script) :
    y.Retraces { x with sink := x.sink.settle } taken
      (sent ++ x.sink.received) script := by
  refine ⟨h.mailbox, h.worker, h.reports, h.sink.follows, ?_⟩
  rw [h.sink.received, Sink.settle, List.append_nil]

theorem take
    (h : y.Retraces x taken sent script)
    {more left : List Report}
    (parts : x.reports = more ++ left) :
    y.Retraces { x with reports := left } (taken ++ more) sent
      script := by
  refine ⟨h.mailbox, h.worker, ?_, h.sink⟩
  rw [h.reports, parts, List.append_assoc]

end Retraces

/- A call of a producer changes both mailboxes, or none. -/
theorem exists_script_update
    (x : Exchange)
    (change : Mailbox → Except Error Mailbox)
    (later : Script) :
    ∃ script, ∀ {y : Exchange} {taken : List Report}
        {sent : List UInt8},
      y.Retraces x taken sent script →
        (y.update (change y.mailbox)).Retraces
          (x.update (change x.mailbox)) taken sent later := by
  refine ⟨later, fun {y taken sent} h => ?_⟩
  rw [h.mailbox]
  cases change x.mailbox with
  | ok m => exact ⟨rfl, h.worker, h.reports, h.sink⟩
  | error e => exact h

/-
  A step of the thread.  Only that of a write calls the sink and
  depends on its script.
-/
theorem exists_script_work
    (x : Exchange)
    (due : Bool)
    (later : Script) :
    ∃ script, ∀ {y : Exchange} {taken : List Report}
        {sent : List UInt8},
      y.Retraces x taken sent script →
        (y.work due).Retraces (x.work due) taken sent later := by
  by_cases hWriting : ∃ frame, x.worker.stage = .writing frame
  · rcases hWriting with ⟨frame, hStage⟩
    rcases x.worker.exists_script_writeNext frame x.sink later with
      ⟨script, hWrite⟩
    refine ⟨script, fun {y taken sent} h => ?_⟩
    rcases hWrite h.sink with ⟨hSame, hReplaces⟩
    simp only [work, h.worker, hStage]
    exact ⟨h.mailbox, hSame, h.reports, hReplaces⟩
  · refine ⟨later, fun {y taken sent} h => ?_⟩
    simp only [work, h.worker, h.mailbox]
    cases hStage : x.worker.stage with
    | writing frame => exact absurd ⟨frame, hStage⟩ hWriting
    | reporting report =>
        refine ⟨rfl, rfl, ?_, h.sink⟩
        simp only [h.reports, List.append_assoc]
    | stopped => exact h
    | dead => exact h
    | _ => exact ⟨rfl, rfl, h.reports, h.sink⟩

/- One event, by a script that leaves what is to come later. -/
theorem exists_script_step
    (x : Exchange)
    (e : Event)
    (later : Script) :
    ∃ script, ∀ {y : Exchange} {taken : List Report}
        {sent : List UInt8},
      y.Retraces x taken sent script →
        (y.step e).Retraces (x.step e) taken sent later := by
  cases e with
  | work due => exact x.exists_script_work due later
  | stop =>
      refine ⟨later, fun {y taken sent} h => ?_⟩
      exact
        ⟨congrArg Mailbox.stop h.mailbox, h.worker, h.reports,
          h.sink⟩
  | submit s => exact x.exists_script_update (·.submit s) later
  | forceRepaint =>
      exact x.exists_script_update Mailbox.forceRepaint later
  | resize size => exact x.exists_script_update (·.resize size) later
  | reset => exact x.exists_script_update Mailbox.reset later

------------------------------------------------------------
-- Passages
------------------------------------------------------------

/-
  The events that lead from one exchange to another, with the
  reports that were taken and the bytes that were handed out on
  the way.  The sink may be given another script at any time,
  and its calls may be counted anew.
-/
inductive Leads (x : Exchange) :
    List Event → List Report → List UInt8 → Exchange → Prop
  | start : Leads x [] [] [] x
  | event
      {events : List Event}
      {taken : List Report}
      {sent : List UInt8}
      {x' : Exchange}
      (before : Leads x events taken sent x')
      (e : Event) :
      Leads x (events ++ [e]) taken sent (x'.step e)
  | sink
      {events : List Event}
      {taken : List Report}
      {sent : List UInt8}
      {x' : Exchange}
      (before : Leads x events taken sent x')
      {k : Sink}
      (same : k.received = x'.sink.received) :
      Leads x events taken sent { x' with sink := k }
  | handOut
      {events : List Event}
      {taken : List Report}
      {sent : List UInt8}
      {x' : Exchange}
      (before : Leads x events taken sent x') :
      Leads x events taken (sent ++ x'.sink.received)
        { x' with sink := x'.sink.settle }
  | take
      {events : List Event}
      {taken : List Report}
      {sent : List UInt8}
      {x' : Exchange}
      (before : Leads x events taken sent x')
      {more left : List Report}
      (parts : x'.reports = more ++ left) :
      Leads x events (taken ++ more) sent { x' with reports := left }

namespace Leads

variable {x' x'' : Exchange}
variable {events events' : List Event}
variable {taken taken' : List Report}
variable {sent sent' : List UInt8}

/- One passage after another. -/
theorem trans
    (h : x.Leads events taken sent x')
    (h' : x'.Leads events' taken' sent' x'') :
    x.Leads (events ++ events') (taken ++ taken') (sent ++ sent')
      x'' := by
  induction h' with
  | start =>
      simp only [List.append_nil]
      exact h
  | event _ e ih =>
      rw [← List.append_assoc]
      exact ih.event e
  | sink _ same ih => exact ih.sink same
  | handOut _ ih =>
      rw [← List.append_assoc]
      exact ih.handOut
  | take _ parts ih =>
      rw [← List.append_assoc]
      exact ih.take parts

/- One event is a passage. -/
theorem of_step
    (x : Exchange)
    (e : Event) :
    x.Leads [e] [] [] (x.step e) :=
  start.event e

/- No report gets lost that is not taken. -/
theorem prefix_reports
    (h : x.Leads events taken sent x') :
    x.reports <+: taken ++ x'.reports := by
  induction h with
  | start => exact List.prefix_rfl
  | @event _ _ _ x' _ e ih =>
      apply ih.trans
      rw [List.prefix_append_right_inj]
      exact x'.reports_step e
  | sink _ _ ih => exact ih
  | handOut _ ih => exact ih
  | take _ parts ih =>
      rw [List.append_assoc, ← parts]
      exact ih

/-
  A passage is a run from where it starts, whatever the sink is
  to answer after it.  By the passage; every part of it leaves a
  script, and the parts before it are to leave the one that it
  needs.
-/
theorem exists_script
    (h : x.Leads events taken sent x')
    (later : Script) :
    ∃ script, ∀ {y : Exchange} {taken₀ : List Report}
        {sent₀ : List UInt8},
      y.Retraces x taken₀ sent₀ script →
        (y.run events).Retraces x' (taken₀ ++ taken)
          (sent₀ ++ sent) later := by
  induction h generalizing later with
  | start =>
      refine ⟨later, fun {y taken₀ sent₀} hStart => ?_⟩
      simp only [List.append_nil]
      exact hStart
  | @event _ _ _ x' _ e ih =>
      rcases x'.exists_script_step e later with ⟨between, hStep⟩
      rcases ih between with ⟨script, hRun⟩
      refine ⟨script, fun {y taken₀ sent₀} hStart => ?_⟩
      rw [run, List.foldl_append]
      exact hStep (hRun hStart)
  | sink _ same ih =>
      rcases ih later with ⟨script, hRun⟩
      refine ⟨script, fun {y taken₀ sent₀} hStart => ?_⟩
      exact (hRun hStart).withSink same
  | handOut _ ih =>
      rcases ih later with ⟨script, hRun⟩
      refine ⟨script, fun {y taken₀ sent₀} hStart => ?_⟩
      rw [← List.append_assoc]
      exact (hRun hStart).handOut
  | take _ parts ih =>
      rcases ih later with ⟨script, hRun⟩
      refine ⟨script, fun {y taken₀ sent₀} hStart => ?_⟩
      rw [← List.append_assoc]
      exact (hRun hStart).take parts

/-
  Everything that an exchange came to since it was started is
  what a run comes to.
-/
theorem exists_run
    {caps : Capabilities}
    (h : (Exchange.start caps {}).Leads events taken sent x)
    (later : Script) :
    ∃ script,
      ((Exchange.start caps (.ofScript script)).run events).Retraces
        x taken sent later := by
  rcases h.exists_script later with ⟨script, hRun⟩
  have hStart :
      (Exchange.start caps (.ofScript script)).Retraces
        (Exchange.start caps {}) [] [] script :=
    ⟨rfl, rfl, rfl, rfl, rfl⟩
  exact ⟨script, hRun hStart⟩

/-
  So what every run comes to is what it comes to, too, as far as
  mailbox, thread and reports are concerned.
-/
theorem holds_of_runs
    {caps : Capabilities}
    {P : Mailbox → Worker → List Report → Prop}
    (hRuns :
      ∀ sink events,
        let y := (Exchange.start caps sink).run events
        P y.mailbox y.worker y.reports)
    (h : (Exchange.start caps {}).Leads events taken sent x) :
    P x.mailbox x.worker (taken ++ x.reports) := by
  rcases h.exists_run {} with ⟨script, hRun⟩
  have hHolds := hRuns (.ofScript script) events
  simp only [hRun.mailbox, hRun.worker, hRun.reports] at hHolds
  exact hHolds

/- The phase that is shown fits what the thread does. -/
theorem inPhase
    {caps : Capabilities}
    (h : (Exchange.start caps {}).Leads events taken sent x) :
    x.InPhase := by
  have hPhase :=
    h.holds_of_runs
      (P := fun m w _ =>
        w.stage.Shows m.phase ∧
          (m.phase = .stopped → m.shutdown = true))
      fun sink events =>
        have hRun := (inPhase_start caps sink).run events
        ⟨hRun.phase, hRun.stopped⟩
  exact ⟨hPhase.1, hPhase.2⟩

end Leads

------------------------------------------------------------
-- Steps of the Thread
------------------------------------------------------------

/- Steps of the thread lead from one exchange to another. -/
def Works (x x' : Exchange) : Prop :=
  ∃ dues : List Bool, x.Leads (dues.map .work) [] [] x'

namespace Works

variable {x' x'' : Exchange}

theorem refl (x : Exchange) : x.Works x :=
  ⟨[], .start⟩

theorem trans
    (h : x.Works x')
    (h' : x'.Works x'') :
    x.Works x'' := by
  rcases h with ⟨dues, hFirst⟩
  rcases h' with ⟨dues', hThen⟩
  refine ⟨dues ++ dues', ?_⟩
  rw [List.map_append]
  exact hFirst.trans hThen

theorem of_work
    (x : Exchange)
    (due : Bool) :
    x.Works (x.work due) :=
  ⟨[due], .of_step x (.work due)⟩

theorem of_repeat
    (x : Exchange)
    (due : Bool)
    (n : Nat) :
    x.Works (Nat.repeat (·.work due) n x) := by
  induction n with
  | zero => exact refl x
  | succ n ih => exact ih.trans (of_work _ due)

/- Nobody asks for the steps of the thread. -/
theorem exists_events
    (h : x.Works x') :
    ∃ events,
      x.Leads events [] [] x' ∧ events.filter (!·.isWork) = [] := by
  rcases h with ⟨dues, hLeads⟩
  refine ⟨_, hLeads, ?_⟩
  simp [List.filter_map, Event.isWork]

end Works

end Exchange

end Redraw
