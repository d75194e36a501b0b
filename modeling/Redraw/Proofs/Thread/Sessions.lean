import Redraw.Proofs.Thread.Passages
import Redraw.Proofs.Thread.Requests
import Redraw.Proofs.Thread.Resting
import Redraw.Thread.Session

/-
  Sessions: every one of them is a run of its exchange.

  A session drives an exchange on behalf of producers, with a
  gate in front of the sink.  What its mailbox, its worker and
  its reports come to is what the events come to that producers
  asked for, with steps of the thread between them; and what the
  sink received is what was handed out, in order.

  Key definitions include:
    * `Session.Act`, `Session.perform`
    * `Session.asked`, `Session.handedOut`, `Session.told`
    * `Session.Tells`: the reports that producers were given

  Main declarations:
    * `Session.advance_run`: a session is run until it rests
    * `Session.shutdown_ends`
    * `Session.leads_perform`, `Session.leads_performAll`
    * `Session.Tells.perform`
    * `Session.exists_run`, `Session.inPhase_performAll`
-/

namespace Redraw

/- The report that was waited for, if it came. -/
def Awaited.report? : Awaited → Option Report
  | .report r => some r
  | .closed => none
  | .timeout => none

namespace Session

------------------------------------------------------------
-- Acts
------------------------------------------------------------

/- What is done with a session. -/
inductive Act
  | submit (s : Snapshot)
  | ask (q : Request)
  | await (n : Nat)
  | run
  | gate (isOpen : Bool)
  | script (next : Script)
  | handOut
  | stop
  | shutdown
  | finish

/- The session after an act. -/
def perform
    (s : Session) :
    Act → Session
  | .submit snapshot => (s.request (·.submit snapshot)).2
  | .ask q => (s.request q.ask).2
  | .await n => (awaitMany n s).2
  | .run => s.run
  | .gate isOpen => { s with gateOpen := isOpen }
  | .script next => s.withSink (·.follow next.writes next.flushes)
  | .handOut => s.withSink Sink.settle
  | .stop => s.stop
  | .shutdown => s.shutdown.2
  | .finish => s.finish.2.2

def performAll
    (s : Session)
    (acts : List Act) : Session :=
  acts.foldl perform s

/- What an act asks of the mailbox, whether it is granted or not. -/
def asked
    (s : Session) :
    Act → List Event
  | .submit snapshot => [.submit snapshot]
  | .ask q => [q.event]
  | .stop => [.stop]
  | .shutdown => [.stop]
  | .finish => if s.owned then [.stop] else []
  | _ => []

/- The bytes that an act hands out. -/
def handedOut
    (s : Session) :
    Act → List UInt8
  | .handOut => s.exchange.sink.received
  | _ => []

/- The reports that an act gives. -/
def told
    (s : Session) :
    Act → List Report
  | .await n => (awaitMany n s).1.filterMap Awaited.report?
  | .finish => s.finish.2.1
  | _ => []

/- What acts amount to, one after another. -/
def collect
    {A : Type}
    (f : Session → Act → List A)
    (s : Session) :
    List Act → List A
  | [] => []
  | act :: later => f s act ++ (s.perform act).collect f later

variable {s s' : Session}

------------------------------------------------------------
-- Steps of the Thread
------------------------------------------------------------

/- A call that waits at the gate changes nothing but its count. -/
theorem works_park (s : Session) :
    s.exchange.Works s.park.exchange := by
  unfold park
  split
  · exact .refl s.exchange
  · exact ⟨[], .sink .start rfl⟩

theorem works_pass (s : Session) :
    s.exchange.Works s.pass.exchange := by
  have hStep := Exchange.Leads.of_step s.exchange (.work s.due)
  refine ⟨[s.due], ?_⟩
  unfold pass
  split
  · exact hStep.sink rfl
  · exact hStep

theorem works_advance (s : Session) :
    s.exchange.Works s.advance.exchange := by
  unfold advance
  split
  · exact works_park s
  · exact works_pass s

/- What a step keeps holds after a run. -/
theorem run_induction
    {P : Session → Prop}
    (hStep : ∀ s, P s → P s.advance)
    (h : P s) :
    P s.run := by
  have hRepeat : ∀ n, P (Nat.repeat advance n s) := by
    intro n
    induction n with
    | zero => exact h
    | succ n ih => exact hStep _ ih
  exact hRepeat 16

theorem works_run (s : Session) :
    s.exchange.Works s.run.exchange :=
  run_induction
    (P := fun t => s.exchange.Works t.exchange)
    (fun t h => h.trans (works_advance t)) (.refl s.exchange)

/- The thread changes the exchange, and stands at the gate or not. -/
theorem frame_run (s : Session) :
    ∃ x parked,
      s.run = { s with exchange := x, parked := parked } := by
  refine
    run_induction
      (P := fun t =>
        ∃ x parked, t = { s with exchange := x, parked := parked })
      ?_ ⟨_, _, rfl⟩
  rintro t ⟨x, parked, rfl⟩
  unfold advance park pass
  split <;> split <;> exact ⟨_, _, rfl⟩

theorem works_await (s : Session) :
    s.exchange.Works s.await.2.exchange := by
  have hRun := works_run s
  unfold await
  simp only
  split <;> exact hRun

theorem works_awaitMany
    (s : Session)
    (n : Nat) :
    s.exchange.Works (awaitMany n s).2.exchange := by
  induction n generalizing s with
  | zero => exact .refl s.exchange
  | succ n ih => exact (works_await s).trans (ih s.await.2)

------------------------------------------------------------
-- Rest
------------------------------------------------------------

/- A call that waits at the gate goes on waiting. -/
theorem advance_park
    (h : (s.atSink && !s.gateOpen) = true) :
    s.park.advance = s.park := by
  by_cases hParked : s.parked = true
  · rw [show s.park = s from if_pos hParked, advance, if_pos h]
    exact if_pos hParked
  · have hSame : (s.park.atSink && !s.park.gateOpen) = true := by
      rw [park, if_neg hParked]
      exact h
    have hWaits : s.park.parked = true := by
      rw [park, if_neg hParked]
    rw [advance, if_pos hSame]
    exact if_pos hWaits

/- A step through the gate is one of the exchange. -/
theorem pass_eq (s : Session) :
    ∃ k,
      s.pass =
        { s with
          exchange := { s.exchange.work s.due with sink := k }
          parked := false } := by
  unfold pass
  split
  · exact ⟨_, rfl⟩
  · rename_i hFree
    rw [Bool.not_eq_true] at hFree
    rw [← hFree]
    exact ⟨_, rfl⟩

theorem atSink_of_rests
    (h : s.exchange.Rests s.due) :
    s.atSink = false := by
  unfold atSink
  split
  · rename_i hStage
    rw [Exchange.Rests, hStage] at h
    exact h.elim
  · rfl

theorem advance_pass
    (h : (s.exchange.work s.due).Rests s.due) :
    s.pass.advance = s.pass := by
  rcases pass_eq s with ⟨k, hPass⟩
  have hRests : s.pass.exchange.Rests s.pass.due := by
    rw [hPass]
    exact h
  have hAway := atSink_of_rests hRests
  have hFree : ¬ s.pass.parked = true := by
    rw [hPass]
    exact Bool.false_ne_true
  rw [advance, hAway, Bool.false_and, if_neg Bool.false_ne_true]
  rw [pass, if_neg hFree, hRests.work_eq]

/- A session is run until the thread can go no further. -/
theorem advance_run (s : Session) :
    s.run.advance = s.run := by
  apply holds_repeat (fun s : Session => s.exchange.effort)
    (fun s : Session => s.advance = s)
  · intro s hRests
    rw [hRests]
    exact hRests
  · intro s
    unfold advance
    split
    case isTrue hHeld => exact Or.inl (advance_park hHeld)
    case isFalse =>
      apply (s.exchange.rests_or_lt s.due).imp advance_pass
      intro hLess
      rcases pass_eq s with ⟨k, hPass⟩
      rw [hPass]
      exact hLess
  · exact Nat.lt_of_le_of_lt s.exchange.effort_le (by decide)

/-
  What no step changes rests, if the gate is open: a step that
  does not come to rest lowers the effort.
-/
theorem rests_of_advance
    (h : s.advance = s)
    (hOpen : s.gateOpen = true) :
    s.exchange.Rests s.due := by
  have hAway : ¬ (s.atSink && !s.gateOpen) = true := by
    simp [hOpen]
  rw [advance, if_neg hAway] at h
  rcases pass_eq s with ⟨k, hPass⟩
  have hSame :
      s.exchange = { s.exchange.work s.due with sink := k } :=
    congrArg Session.exchange (h.symm.trans hPass)
  rcases s.exchange.rests_or_lt s.due with hRests | hLess
  · rw [hSame]
    exact hRests
  · have hEqual := congrArg Exchange.effort hSame
    change _ = (s.exchange.work s.due).effort at hEqual
    omega

/- So it is after a run. -/
theorem rests_run
    (h : s.gateOpen = true) :
    s.run.exchange.Rests s.run.due := by
  apply rests_of_advance (advance_run s)
  rcases s.frame_run with ⟨x, parked, hRun⟩
  rw [hRun]
  exact h

/- A run does not take back the wish to finish. -/
theorem shutdown_run (s : Session) :
    s.run.exchange.mailbox.shutdown =
      s.exchange.mailbox.shutdown := by
  refine
    run_induction
      (P := fun t =>
        t.exchange.mailbox.shutdown = s.exchange.mailbox.shutdown)
      ?_ rfl
  intro t h
  rw [← h]
  unfold advance
  split
  · unfold park
    split <;> rfl
  · rcases pass_eq t with ⟨k, hPass⟩
    rw [hPass]
    exact (t.exchange.mailbox_of_work t.due).2.1

/-
  Whoever waits for the thread to finish does not wait in vain,
  if the gate is open.
-/
theorem shutdown_ends
    (h : s.gateOpen = true) :
    s.shutdown.1 ≠ .error .shutdownTimeout := by
  have hRests := rests_run (s := s.stop) h
  have hStop : s.stop.run.exchange.mailbox.shutdown = true :=
    shutdown_run s.stop
  unfold shutdown
  rcases hRests.ended hStop with hStage | hStage <;>
    simp [hStage]

------------------------------------------------------------
-- Acts as Runs
------------------------------------------------------------

/- To finish is an event, and then the thread works. -/
theorem exists_events_stop
    (s : Session) :
    ∃ events,
      s.exchange.Leads events [] [] s.stop.run.exchange ∧
        events.filter (!·.isWork) = [.stop] := by
  rcases (works_run s.stop).exists_events with
    ⟨events, hLeads, hNone⟩
  have hStop : s.exchange.Leads [.stop] [] [] s.stop.exchange :=
    .of_step s.exchange .stop
  refine ⟨[.stop] ++ events, hStop.trans hLeads, ?_⟩
  rw [List.filter_append, hNone]
  rfl

theorem snd_shutdown (s : Session) :
    s.shutdown.2 = s.stop.run := by
  unfold shutdown
  simp only
  split <;> rfl

/- A session that has come to its end, before the last reports. -/
def ended (s : Session) : Session :=
  if s.owned then { s with gateOpen := true }.stop.run
  else { s with gateOpen := true }.run

/- Whoever finishes takes all reports that are left. -/
theorem snd_finish (s : Session) :
    s.finish.2 =
      (s.ended.unread,
        { s.ended with read := s.ended.exchange.reports.length }) := by
  unfold finish ended
  simp only
  split
  · rw [snd_shutdown]
  · rfl

/- A call of a producer is the event of that call. -/
theorem exchange_request
    (s : Session)
    (change : Mailbox → Except Error Mailbox) :
    (s.request change).2.exchange =
      s.exchange.update (change s.exchange.mailbox) := by
  unfold request
  split <;> rename_i hChange <;> rw [hChange] <;> rfl

/-
  An act leads to the next session by what it asks for and by
  steps of the thread.
-/
theorem leads_perform
    (s : Session)
    (act : Act) :
    ∃ events,
      s.exchange.Leads events [] (s.handedOut act)
          (s.perform act).exchange ∧
        events.filter (!·.isWork) = s.asked act := by
  cases act with
  | submit snapshot =>
      refine ⟨[.submit snapshot], ?_, rfl⟩
      rw [perform, exchange_request]
      exact .of_step s.exchange (.submit snapshot)
  | ask q =>
      refine ⟨[q.event], ?_, ?_⟩
      · have hStep := Exchange.Leads.of_step s.exchange q.event
        rw [perform, exchange_request]
        cases q <;> exact hStep
      · cases q <;> rfl
  | await n => exact (works_awaitMany s n).exists_events
  | run => exact (works_run s).exists_events
  | gate isOpen => exact ⟨[], .start, rfl⟩
  | script next => exact ⟨[], .sink .start rfl, rfl⟩
  | handOut => exact ⟨[], .handOut .start, rfl⟩
  | stop => exact ⟨[.stop], .of_step s.exchange .stop, rfl⟩
  | shutdown =>
      rw [perform, snd_shutdown]
      exact exists_events_stop s
  | finish =>
      rw [perform, snd_finish, asked]
      unfold ended
      split
      · exact exists_events_stop { s with gateOpen := true }
      · exact (works_run { s with gateOpen := true }).exists_events

/-
  So do acts one after another: their events are in order, and
  so are the bytes that were handed out.
-/
theorem leads_performAll
    (s : Session)
    (acts : List Act) :
    ∃ events,
      s.exchange.Leads events [] (s.collect handedOut acts)
          (s.performAll acts).exchange ∧
        events.filter (!·.isWork) = s.collect asked acts := by
  induction acts generalizing s with
  | nil => exact ⟨[], .start, rfl⟩
  | cons act later ih =>
      rcases leads_perform s act with ⟨events, hFirst, hAsked⟩
      rcases ih (s.perform act) with ⟨events', hThen, hLater⟩
      refine ⟨events ++ events', hFirst.trans hThen, ?_⟩
      rw [List.filter_append, hAsked, hLater, collect]

------------------------------------------------------------
-- Reports
------------------------------------------------------------

/- Producers were given these reports, the first that were sent. -/
structure Tells
    (s : Session)
    (given : List Report) : Prop where
  read : s.read = given.length
  first : given <+: s.exchange.reports

variable {given : List Report}

/- What was not given is not read yet. -/
theorem Tells.append_unread
    (h : s.Tells given) :
    given ++ s.unread = s.exchange.reports := by
  rcases h.first with ⟨rest, hRest⟩
  rw [unread, h.read, ← hRest, List.drop_left]

/- Steps of the thread take no report back. -/
theorem Tells.works
    (h : s.Tells given)
    (hWorks : s.exchange.Works s'.exchange)
    (hRead : s'.read = s.read) :
    s'.Tells given := by
  rcases hWorks with ⟨dues, hLeads⟩
  exact
    ⟨hRead.trans h.read, h.first.trans hLeads.prefix_reports⟩

theorem read_run (s : Session) :
    s.run.read = s.read := by
  rcases s.frame_run with ⟨x, parked, hRun⟩
  rw [hRun]

theorem Tells.run
    (h : s.Tells given) :
    s.run.Tells given :=
  h.works (works_run s) (read_run s)

/- The next report is the first one that is not read. -/
theorem Tells.await
    (h : s.Tells given) :
    s.await.2.Tells (given ++ s.await.1.report?.toList) := by
  have hRun := h.run
  have hUnread := hRun.append_unread
  unfold Session.await
  simp only
  split
  case h_1 r later hNext =>
    rw [hNext] at hUnread
    refine ⟨?_, later, ?_⟩
    · simp only [hRun.read, Awaited.report?, Option.toList_some,
        List.length_append, List.length_singleton]
    · rw [← hUnread, List.append_assoc]
      rfl
  case h_2 hNone =>
    have hAnswer :
        (if s.run.isClosed then Awaited.closed
          else .timeout).report? = none := by
      split <;> rfl
    rw [hAnswer, Option.toList_none, List.append_nil]
    exact hRun

theorem Tells.awaitMany
    (h : s.Tells given)
    (n : Nat) :
    (awaitMany n s).2.Tells
      (given ++ (awaitMany n s).1.filterMap Awaited.report?) := by
  induction n generalizing s given with
  | zero =>
      rw [Session.awaitMany, List.filterMap_nil, List.append_nil]
      exact h
  | succ n ih =>
      have hLater := ih h.await
      rw [List.append_assoc] at hLater
      rw [Session.awaitMany, List.filterMap_cons]
      cases hReport : s.await.1.report? with
      | none =>
          rw [hReport] at hLater
          exact hLater
      | some r =>
          rw [hReport] at hLater
          exact hLater

theorem Tells.stop
    (h : s.Tells given) :
    s.stop.Tells given :=
  ⟨h.read, h.first⟩

theorem Tells.finish
    (h : s.Tells given) :
    s.finish.2.2.Tells (given ++ s.finish.2.1) := by
  have hOpen : { s with gateOpen := true }.Tells given :=
    ⟨h.read, h.first⟩
  have hEnded : s.ended.Tells given := by
    unfold ended
    split
    · exact hOpen.stop.run
    · exact hOpen.run
  rw [snd_finish, hEnded.append_unread]
  exact ⟨rfl, List.prefix_rfl⟩

theorem Tells.request
    (h : s.Tells given)
    (change : Mailbox → Except Error Mailbox) :
    (s.request change).2.Tells given := by
  unfold Session.request
  split <;> exact ⟨h.read, h.first⟩

/- An act may give nothing. -/
theorem Tells.silent
    (h : s.Tells given) :
    s.Tells (given ++ []) := by
  rw [List.append_nil]
  exact h

/- What an act gives comes next among the reports. -/
theorem Tells.perform
    (h : s.Tells given)
    (act : Act) :
    (s.perform act).Tells (given ++ s.told act) := by
  cases act with
  | submit snapshot => exact (h.request _).silent
  | ask q => exact (h.request _).silent
  | await n => exact h.awaitMany n
  | run => exact h.run.silent
  | gate isOpen => exact Tells.silent ⟨h.read, h.first⟩
  | script next => exact Tells.silent ⟨h.read, h.first⟩
  | handOut => exact Tells.silent ⟨h.read, h.first⟩
  | stop => exact h.stop.silent
  | shutdown =>
      rw [Session.perform, snd_shutdown]
      exact h.stop.run.silent
  | finish => exact h.finish

theorem Tells.performAll
    (h : s.Tells given)
    (acts : List Act) :
    (s.performAll acts).Tells (given ++ s.collect told acts) := by
  induction acts generalizing s given with
  | nil => exact h.silent
  | cons act later ih =>
      rw [collect, ← List.append_assoc]
      exact ih (h.perform act)

------------------------------------------------------------
-- Runs
------------------------------------------------------------

/-
  Whatever is done with a session, there is a sink and there are
  events with which an exchange that is left alone comes to the
  same mailbox, the same thread and the same reports.  What was
  asked for is in order among the events, the bytes handed out
  are the first that the sink receives, and the reports that
  producers were given are the first that are sent.
-/
theorem exists_run
    (caps : Capabilities)
    (pacing timeout : Nat)
    (acts : List Act)
    (later : Script) :
    let s := start caps pacing timeout
    ∃ events script,
      let x := (Exchange.start caps (.ofScript script)).run events
      x.Retraces (s.performAll acts).exchange []
          (s.collect handedOut acts) later ∧
        events.filter (!·.isWork) = s.collect asked acts ∧
          s.collect told acts <+: x.reports := by
  intro s
  rcases leads_performAll s acts with ⟨events, hLeads, hAsked⟩
  rcases hLeads.exists_run later with ⟨script, hRun⟩
  have hStart : s.Tells [] := ⟨rfl, List.nil_prefix⟩
  have hTold := (hStart.performAll acts).first
  refine ⟨events, script, hRun, hAsked, ?_⟩
  rw [hRun.reports]
  exact hTold

/- So a session shows the phase that its thread is in. -/
theorem inPhase_performAll
    (caps : Capabilities)
    (pacing timeout : Nat)
    (acts : List Act) :
    ((start caps pacing timeout).performAll acts).exchange.InPhase := by
  rcases leads_performAll (start caps pacing timeout) acts with
    ⟨events, hLeads, -⟩
  exact hLeads.inPhase

end Session

end Redraw
