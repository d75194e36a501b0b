import Redraw.Program
import Redraw.Proofs.Thread.Passages
import Redraw.Proofs.Thread.Resting

/-
  Turns: the program is a run of its exchange.

  In every turn the program tells the thread a new size if there
  is one, submits a screen under the next number, takes the
  reports that were sent and hands out what the thread wrote.
  So its output is what a sink receives from an exchange that is
  run with just these requests, between the commands that set up
  the terminal and those that restore it.

  Key definitions include:
    * `Turn`, `Program.after`, `Program.shown`
    * `Program.asked`, `Program.asking`: what a turn asks for
    * `Program.Counts`: what the program knows of its reports
    * `Program.output`

  Main declarations:
    * `Compositor.exists_taken`
    * `Program.leads_after`, `Program.leads_turns`
    * `Program.exists_run`
    * `Program.exists_run_output`
-/

namespace Redraw

------------------------------------------------------------
-- Reports
------------------------------------------------------------

/- What failed, by a report. -/
def Report.failure? : Report → Option Error
  | .committed _ _ => none
  | .rejected _ _ => none
  | .failed e => some e

/-
  The first reports are taken, up to a failure if there is one.
  Frames that were committed are counted.
-/
theorem Compositor.exists_taken
    (c : Compositor)
    (reports : List Report) :
    ∃ taken,
      reports = taken ++ (c.take reports).2.1 ∧
        (c.take reports).1 = taken.findSome? Report.failure? ∧
        (c.take reports).2.2.committed =
          c.committed + taken.countP Report.isCommitted ∧
        ((c.take reports).1 = none → (c.take reports).2.1 = []) := by
  induction reports generalizing c with
  | nil => exact ⟨[], rfl, rfl, rfl, fun _ => rfl⟩
  | cons report later ih =>
      cases report with
      | committed seq stats =>
          rcases ih { c with committed := c.committed + 1 } with
            ⟨taken, hParts, hFailure, hCount, hAll⟩
          refine ⟨.committed seq stats :: taken, ?_, hFailure, ?_, hAll⟩
          · exact congrArg (_ :: ·) hParts
          · rw [take, hCount, List.countP_cons_of_pos rfl]
            exact Nat.add_right_comm _ _ _
      | rejected seq e =>
          rcases ih c with ⟨taken, hParts, hFailure, hCount, hAll⟩
          refine ⟨.rejected seq e :: taken, ?_, hFailure, ?_, hAll⟩
          · exact congrArg (_ :: ·) hParts
          · rw [take, hCount, List.countP_cons_of_neg Bool.false_ne_true]
      | failed e =>
          exact ⟨[.failed e], rfl, rfl, rfl, nofun⟩

------------------------------------------------------------
-- Turns
------------------------------------------------------------

/-
  What is given to a turn: the size that the terminal has, the
  time, and whether another frame is due.
-/
structure Turn where
  now : Option Size
  tenths : Nat
  due : Bool

namespace Program

/- The program after a turn, and what the turn hands out. -/
def after
    (p : Program)
    (t : Turn) : Program :=
  (p.turn t.now t.tenths t.due).2

def shown
    (p : Program)
    (t : Turn) : List UInt8 :=
  (p.turn t.now t.tenths t.due).1

/- The size and the screen of a turn. -/
def sizeAt
    (p : Program)
    (t : Turn) : Size :=
  (p.terminal.pollResize t.now).2.size

def screenAt
    (p : Program)
    (t : Turn) : Grid :=
  let size := p.sizeAt t
  (p.compositor.compose ⟨size.rows, size.cols⟩ t.tenths).1

/- What a turn asks of the thread. -/
def asked
    (p : Program)
    (t : Turn) : List Event :=
  (p.terminal.pollResize t.now).1.toList.map .resize
    ++ [.submit ⟨p.seq + 1, p.screenAt t⟩]

/-
  What the program knows of the reports that it has taken: how
  many frames were committed, and the first failure.
-/
structure Counts
    (p : Program)
    (taken : List Report) : Prop where
  committed : p.compositor.committed = taken.countP Report.isCommitted
  failure : p.failure = taken.findSome? Report.failure?

variable {p : Program}
variable {taken : List Report}

/- To take reports is to take the first of them. -/
theorem Counts.takeReports
    (h : p.Counts taken) :
    ∃ more,
      p.exchange.Leads [] more [] p.takeReports.exchange ∧
        p.takeReports.Counts (taken ++ more) := by
  rcases p.compositor.exists_taken p.exchange.reports with
    ⟨more, hParts, hFailure, hCount, -⟩
  refine ⟨more, .take .start hParts, ?_, ?_⟩
  · rw [List.countP_append, ← h.committed]
    exact hCount
  · rw [List.findSome?_append, ← h.failure, ← hFailure]
    rfl

/- The program when a turn has asked for its screen. -/
def asking
    (p : Program)
    (t : Turn) : Program :=
  let resized := p.terminal.pollResize t.now
  let size := p.sizeAt t
  let x :=
    resized.1.elim p.exchange fun size =>
      p.exchange.step (.resize size)
  { p with
    terminal := resized.2
    exchange := x.step (.submit ⟨p.seq + 1, p.screenAt t⟩)
    compositor :=
      (p.compositor.compose ⟨size.rows, size.cols⟩ t.tenths).2
    seq := p.seq + 1 }

/- The rest of a turn is to take reports, to work and to hand out. -/
theorem turn_eq
    (p : Program)
    (t : Turn) :
    p.turn t.now t.tenths t.due =
      ((p.asking t).takeReports.work t.due).handOut :=
  rfl

theorem leads_asking
    (p : Program)
    (t : Turn) :
    p.exchange.Leads (p.asked t) [] [] (p.asking t).exchange := by
  apply Exchange.Leads.event
  cases (p.terminal.pollResize t.now).1 with
  | none => exact .start
  | some size => exact .of_step p.exchange (.resize size)

/- The thread works by itself. -/
theorem filter_asked
    (p : Program)
    (t : Turn) :
    (p.asked t).filter (!·.isWork) = p.asked t := by
  apply List.filter_eq_self.mpr
  intro e he
  rcases List.mem_append.mp he with hResize | hSubmit
  · rcases List.mem_map.mp hResize with ⟨size, -, rfl⟩
    rfl
  · obtain rfl := List.mem_singleton.mp hSubmit
    rfl

/-
  A turn leads to the next one by what it asks for, by taking
  reports and by steps of the thread.
-/
theorem leads_after
    (h : p.Counts taken)
    (t : Turn) :
    ∃ events more,
      p.exchange.Leads events more (p.shown t) (p.after t).exchange ∧
        events.filter (!·.isWork) = p.asked t ∧
          (p.after t).Counts (taken ++ more) := by
  have hCounts : (p.asking t).Counts taken :=
    ⟨h.committed, h.failure⟩
  rcases hCounts.takeReports with ⟨more, hTaken, hKnown⟩
  rcases (Exchange.Works.of_repeat (p.asking t).takeReports.exchange
      t.due 16).exists_events with
    ⟨events, hWorked, hNone⟩
  have hLeads :=
    (((p.leads_asking t).trans hTaken).trans hWorked).handOut
  simp only [List.append_nil, List.nil_append] at hLeads
  refine ⟨p.asked t ++ events, more, ?_, ?_, ?_⟩
  · rw [shown, after, turn_eq]
    exact hLeads
  · rw [List.filter_append, hNone, filter_asked, List.append_nil]
  · exact ⟨hKnown.committed, hKnown.failure⟩

/- A turn uses up a number, and the terminal stays held. -/
theorem frame_after
    (p : Program)
    (t : Turn) :
    (p.after t).seq = p.seq + 1 ∧
      (p.after t).terminal.active = p.terminal.active := by
  have hHeld :
      (p.terminal.pollResize t.now).2.active = p.terminal.active := by
    unfold Terminal.pollResize
    split
    · rfl
    · split <;> rfl
  rw [after, turn_eq]
  exact ⟨rfl, hHeld⟩

------------------------------------------------------------
-- One Turn After Another
------------------------------------------------------------

/- The program after turns. -/
def turns
    (p : Program)
    (ts : List Turn) : Program :=
  ts.foldl after p

/- What turns amount to, one after another. -/
def collect
    {A : Type}
    (f : Program → Turn → List A)
    (p : Program) :
    List Turn → List A
  | [] => []
  | t :: later => f p t ++ (p.after t).collect f later

theorem leads_turns
    (h : p.Counts taken)
    (ts : List Turn) :
    ∃ events more,
      p.exchange.Leads events more (p.collect shown ts)
          (p.turns ts).exchange ∧
        events.filter (!·.isWork) = p.collect asked ts ∧
          (p.turns ts).Counts (taken ++ more) := by
  induction ts generalizing p taken with
  | nil =>
      refine ⟨[], [], .start, rfl, ?_⟩
      rw [List.append_nil]
      exact h
  | cons t later ih =>
      rcases leads_after h t with ⟨events, more, hFirst, hAsked, hNext⟩
      rcases ih hNext with ⟨events', more', hThen, hLater, hKnown⟩
      refine
        ⟨events ++ events', more ++ more', hFirst.trans hThen, ?_, ?_⟩
      · rw [List.filter_append, hAsked, hLater, collect]
      · rw [← List.append_assoc]
        exact hKnown

theorem frame_turns
    (p : Program)
    (ts : List Turn) :
    (p.turns ts).seq = p.seq + ts.length ∧
      (p.turns ts).terminal.active = p.terminal.active := by
  induction ts generalizing p with
  | nil => exact ⟨rfl, rfl⟩
  | cons t later ih =>
      rcases ih (p.after t) with ⟨hSeq, hActive⟩
      rcases p.frame_after t with ⟨hNext, hHeld⟩
      refine ⟨?_, hActive.trans hHeld⟩
      rw [hNext, Nat.add_assoc, Nat.add_comm 1] at hSeq
      exact hSeq

------------------------------------------------------------
-- Runs
------------------------------------------------------------

/- The thread is told the size before anything else. -/
theorem leads_start
    (settings : Settings)
    (size : Option Size) :
    (Exchange.start settings.capabilities {}).Leads
      [.resize (Terminal.create size).size] [] []
      (start settings size).2.exchange :=
  .of_step _ _

/-
  However many turns the program takes, there is a sink and there
  are events with which an exchange that is left alone comes to
  the same mailbox and the same thread.  It is asked for just
  what the turns ask for, its first reports are those that the
  program has taken and counted, and the bytes that were handed
  out are the first that its sink receives.
-/
theorem exists_run
    (settings : Settings)
    (size : Option Size)
    (ts : List Turn)
    (later : Script) :
    let p := (start settings size).2
    ∃ events script taken,
      let x :=
        (Exchange.start settings.capabilities
          (.ofScript script)).run events
      x.Retraces (p.turns ts).exchange taken (p.collect shown ts)
          later ∧
        events.filter (!·.isWork) =
            .resize (Terminal.create size).size
              :: p.collect asked ts ∧
          (p.turns ts).Counts taken ∧
            (p.turns ts).seq = ts.length := by
  intro p
  have hFresh : p.Counts [] := ⟨rfl, rfl⟩
  rcases leads_turns hFresh ts with
    ⟨events, taken, hLeads, hAsked, hKnown⟩
  rcases ((leads_start settings size).trans hLeads).exists_run later
    with ⟨script, hRun⟩
  refine ⟨_, script, taken, hRun, ?_, hKnown, ?_⟩
  · rw [List.filter_append, hAsked]
    rfl
  · exact (p.frame_turns ts).1.trans (Nat.zero_add _)

/- All that a program hands out, if it takes these turns. -/
def output
    (settings : Settings)
    (size : Option Size)
    (ts : List Turn) : List UInt8 :=
  let (setup, p) := start settings size
  setup ++ p.collect shown ts ++ (p.turns ts).stop.1

theorem startAndStop_eq (settings : Settings) :
    startAndStop settings = output settings none [] := by
  simp only [output, collect, List.append_nil]
  rfl

/- The program when the thread was let finish. -/
def ended (p : Program) : Program :=
  work { p with exchange := p.exchange.step .stop } true

theorem leads_ended (p : Program) :
    ∃ events,
      p.exchange.Leads events [] [] p.ended.exchange ∧
        events.filter (!·.isWork) = [.stop] := by
  have hStop := Exchange.Leads.of_step p.exchange .stop
  rcases (Exchange.Works.of_repeat (p.exchange.step .stop) true
      16).exists_events with
    ⟨events, hWorked, hNone⟩
  refine ⟨[.stop] ++ events, hStop.trans hWorked, ?_⟩
  rw [List.filter_append, hNone]
  rfl

/-
  What a program hands out is what a sink receives from an
  exchange that is left alone, asked for what the turns ask for
  and then to finish, between the commands for the terminal.  In
  the end the thread has ended.
-/
theorem exists_run_output
    (settings : Settings)
    (size : Option Size)
    (ts : List Turn) :
    ∃ events script,
      let x :=
        (Exchange.start settings.capabilities
          (.ofScript script)).run events
      output settings size ts =
          bytesOf Terminal.setup ++ x.sink.received
            ++ bytesOf Terminal.restore ∧
        events.filter (!·.isWork) =
            .resize (Terminal.create size).size
              :: ((start settings size).2.collect asked ts
                ++ [.stop]) ∧
          (x.worker.stage = .stopped ∨ x.worker.stage = .dead) := by
  let p := (start settings size).2
  have hFresh : p.Counts [] := ⟨rfl, rfl⟩
  rcases leads_turns hFresh ts with
    ⟨events, taken, hTurns, hAsked, -⟩
  rcases (p.turns ts).leads_ended with ⟨last, hEnded, hStop⟩
  have hLeads :=
    ((leads_start settings size).trans hTurns).trans hEnded
  rcases hLeads.exists_run {} with ⟨script, hRun⟩
  have hLeave : (p.turns ts).terminal.leave.1 = Terminal.restore := by
    rw [Terminal.leave, (p.frame_turns ts).2]
    rfl
  refine
    ⟨[.resize (Terminal.create size).size] ++ events ++ last, script,
      ?_, ?_, ?_⟩
  · simp only [hRun.sink.received, List.append_nil, List.nil_append]
    rw [← hLeave, output]
    simp only [List.append_assoc]
    rfl
  · rw [List.filter_append, List.filter_append, hAsked, hStop]
    rfl
  · rw [hRun.worker]
    exact Exchange.ended_repeat rfl true

end Program

end Redraw
