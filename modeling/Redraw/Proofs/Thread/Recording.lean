import Redraw.Proofs.Renderer.Convergence
import Redraw.Proofs.Thread.Requests

/-
  Recording: what a run has seen of snapshots.

  A watch knows the cycles of a run.  What happens to snapshots
  that do not reach a cycle is recorded beside it, event by
  event: which were accepted, which were replaced in the slot,
  and which were dropped for their size.  So are the calls that
  the drawing thread owes to its renderer.

  Key definitions include:
    * `Exchange.collect`: what is seen at the events of a run
    * `Exchange.accepted`, `Exchange.replaced`,
      `Exchange.dropped`
    * `Exchange.calls`: what was picked, as calls to a renderer
    * `Watch.picked`: every cycle that has begun
    * `Cycle.isRedraw`: a cycle for the committed snapshot
    * `Exchange.Offers`: what a search for work can pick
    * `Watch.afterPick`, `Watch.afterReport`: cycles begin and end
    * `Watch.Turns`: all that one event can do

  Main declarations:
    * `Watch.turns_step`
-/

namespace Redraw

------------------------------------------------------------
-- Observations
------------------------------------------------------------

/- The call to forget the screen, if there is one. -/
def Mailbox.forgetting (m : Mailbox) : List Call :=
  if m.invalidate then [.invalidate] else []

/- The call to render what was picked. -/
def Work.calls : Work → List Call
  | .draw snapshot force => [.render snapshot force]
  | _ => []

namespace Exchange

/- What is seen at each event of a run, in order. -/
def collect {α : Type}
    (see : Exchange → Event → List α)
    (x : Exchange) :
    List Event → List α
  | [] => []
  | e :: later => see x e ++ (x.step e).collect see later

/- What is seen in a run is seen at one of its events. -/
theorem mem_collect {α : Type}
    {see : Exchange → Event → List α}
    {x : Exchange}
    {events : List Event}
    {a : α}
    (h : a ∈ x.collect see events) :
    ∃ before e after,
      events = before ++ e :: after ∧ a ∈ see (x.run before) e := by
  induction events generalizing x with
  | nil => simp [collect] at h
  | cons first later ih =>
      rcases List.mem_append.mp h with hFirst | hLater
      · exact ⟨[], first, later, rfl, hFirst⟩
      · rcases ih hLater with ⟨before, e, after, rfl, hSeen⟩
        exact ⟨first :: before, e, after, rfl, hSeen⟩

/- A submission that is granted. -/
def accepted (x : Exchange) : Event → List Snapshot
  | .submit s => if (x.mailbox.submit s).isOk then [s] else []
  | _ => []

/- A pending snapshot and the one that takes its place. -/
def replaced (x : Exchange) : Event → List (Snapshot × Snapshot)
  | .submit s =>
      if (x.mailbox.submit s).isOk then
        x.mailbox.pending.toList.map (·, s)
      else []
  | _ => []

/- A pending snapshot and the declared size that it lacks. -/
def dropped (x : Exchange) : Event → List (Snapshot × Size)
  | .resize size =>
      if (x.mailbox.resize size).isOk then
        (x.mailbox.pending.toList.filter (·.size ≠ size)).map
          (·, size)
      else []
  | _ => []

/-
  A search for work comes to a call to forget the screen if that
  was asked for, and to a call to render what it picks.
-/
def calls (x : Exchange) : Event → List Call
  | .work due =>
      if x.worker.stage = .seeking then
        x.mailbox.forgetting
          ++ (Worker.pick x.worker.started due x.mailbox
                x.worker.renderer).1.calls
      else []
  | _ => []

/- A call to draw the committed snapshot again is granted. -/
def AsksRedraw
    (x : Exchange)
    (e : Event) : Prop :=
  ∃ q : Request,
    (∀ size, q ≠ .resize size) ∧ e = q.event ∧
      (q.ask x.mailbox).isOk = true

end Exchange

------------------------------------------------------------
-- Cycles That Have Begun
------------------------------------------------------------

/- The committed snapshot is drawn again. -/
def Cycle.isRedraw (c : Cycle) : Bool :=
  c.renderer.committed = some c.snapshot

namespace Watch

/- The cycles that have begun under watch, in order. -/
def picked (w : Watch) : List Cycle :=
  w.log.map Prod.fst ++ w.cycle.toList

theorem run_concat
    (w : Watch)
    (events : List Event)
    (e : Event) :
    w.run (events ++ [e]) = (w.run events).step e := by
  simp [run]

end Watch

------------------------------------------------------------
-- Turns
------------------------------------------------------------

/- A snapshot that a search for work can pick. -/
def Exchange.Offers
    (x : Exchange)
    (s : Snapshot) : Prop :=
  x.mailbox.pending = some s ∨
    x.mailbox.pending = none ∧ x.mailbox.redraw = true ∧
      x.worker.renderer.committed = some s

namespace Watch

/- The mailbox alone has changed. -/
def withMailbox
    (w : Watch)
    (m : Mailbox) : Watch :=
  { w with exchange := { w.exchange with mailbox := m } }

/- A snapshot was picked, and its cycle begins. -/
def afterPick
    (w : Watch)
    (s : Snapshot) : Watch :=
  let m := w.exchange.mailbox
  { w with
    exchange :=
      w.exchange.sought (Worker.afterPick m) (.planning s m.force)
    cycle :=
      some
        ⟨s, m.force,
          (Worker.takeInvalidate m w.exchange.worker.renderer).2⟩ }

/- A report was sent, and the cycle under way has ended. -/
def afterReport
    (w : Watch)
    (report : Report) : Watch where
  exchange :=
    { w.exchange with
      worker := { w.exchange.worker with stage := .seeking }
      reports := w.exchange.reports ++ [report] }
  log := w.log ++ (w.cycle.map (·, report)).toList

/- A cycle that begins comes after all others. -/
theorem picked_afterPick
    {w : Watch}
    (hNone : w.cycle = none)
    (s : Snapshot) :
    (w.afterPick s).picked =
      w.picked ++
        [⟨s, w.exchange.mailbox.force,
          (Worker.takeInvalidate w.exchange.mailbox
            w.exchange.worker.renderer).2⟩] := by
  simp [picked, afterPick, hNone]

/- A cycle that ends is among those that have begun. -/
theorem picked_afterReport
    (w : Watch)
    (report : Report) :
    (w.afterReport report).picked = w.picked := by
  cases hCycle : w.cycle <;> simp [picked, afterReport, hCycle]

end Watch

/- Snapshots and numbers of a mailbox are those of another. -/
structure Mailbox.SameSnapshots (m m' : Mailbox) : Prop where
  pending : m'.pending = m.pending
  latest : m'.latest = m.latest
  lastCommitted : m'.lastCommitted = m.lastCommitted

/-
  All that one event can do: flags change, a snapshot is
  accepted, a size is declared, a search for work ends without a
  snapshot or with one, or the thread draws or reports.
-/
inductive Watch.Turns
    (w : Watch)
    (e : Event) :
    Watch → Prop
  | quiet
      (m : Mailbox)
      (snapshots : w.exchange.mailbox.SameSnapshots m)
      (asked :
        m.redraw = true →
          w.exchange.mailbox.redraw = true ∨
            w.exchange.AsksRedraw e)
      (accepted : w.exchange.accepted e = [])
      (replaced : w.exchange.replaced e = [])
      (dropped : w.exchange.dropped e = [])
      (calls : w.exchange.calls e = []) :
      Turns w e (w.withMailbox m)
  | rested
      (due : Bool)
      (event : e = .work due)
      (stage : w.exchange.worker.stage = .seeking)
      (m : Mailbox)
      (next : Stage)
      (ends : next = .seeking ∨ next = .stopped)
      (snapshots : w.exchange.mailbox.SameSnapshots m)
      (asked : m.redraw = true → w.exchange.mailbox.redraw = true)
      (calls : w.exchange.calls e = w.exchange.mailbox.forgetting) :
      Turns w e { w with exchange := w.exchange.sought m next }
  | submitted
      (s : Snapshot)
      (event : e = .submit s)
      (granted : (w.exchange.mailbox.submit s).isOk = true)
      (newer : ∀ n ∈ w.exchange.mailbox.latest, n < s.seq) :
      Turns w e (w.withMailbox (w.exchange.mailbox.afterSubmit s))
  | resized
      (size : Size)
      (event : e = .resize size)
      (granted : (w.exchange.mailbox.resize size).isOk = true) :
      Turns w e
        (w.withMailbox (w.exchange.mailbox.afterResize size))
  | picked
      (due : Bool)
      (event : e = .work due)
      (stage : w.exchange.worker.stage = .seeking)
      (s : Snapshot)
      (source : w.exchange.Offers s)
      (calls :
        w.exchange.calls e =
          w.exchange.mailbox.forgetting
            ++ [.render s w.exchange.mailbox.force]) :
      Turns w e (w.afterPick s)
  | drew
      (due : Bool)
      (event : e = .work due)
      (drawing : w.exchange.worker.stage.isDrawing = true) :
      Turns w e { w with exchange := w.exchange.work due }
  | reported
      (due : Bool)
      (event : e = .work due)
      (report : Report)
      (stage : w.exchange.worker.stage = .reporting report) :
      Turns w e (w.afterReport report)

namespace Watch

variable {w : Watch}
variable {e : Event}

/- Nothing happens. -/
theorem turns_self
    (hStep : w.step e = w)
    (hAccepted : w.exchange.accepted e = [])
    (hReplaced : w.exchange.replaced e = [])
    (hDropped : w.exchange.dropped e = [])
    (hCalls : w.exchange.calls e = []) :
    w.Turns e (w.step e) := by
  have hQuiet :=
    Turns.quiet (w := w) (e := e) w.exchange.mailbox ⟨rfl, rfl, rfl⟩
      Or.inl hAccepted hReplaced hDropped hCalls
  rw [hStep]
  exact hQuiet

/- A call is refused and nothing happens, or it is granted. -/
theorem step_of_update
    (w : Watch)
    {e : Event}
    {answer : Except Error Mailbox}
    (h : w.exchange.step e = w.exchange.update answer) :
    (answer.isOk = false ∧ w.step e = w) ∨
      ∃ m, answer = .ok m ∧ w.step e = w.withMailbox m := by
  cases answer with
  | error err => exact Or.inl ⟨rfl, w.step_of_mailbox h⟩
  | ok m => exact Or.inr ⟨m, rfl, w.step_of_mailbox h⟩

/- A request that changes flags alone, or is refused. -/
theorem turns_request
    {q : Request}
    (hRedraw : ∀ size, q ≠ .resize size)
    (hFlags :
      ∀ m, q.ask w.exchange.mailbox = .ok m →
        w.exchange.mailbox.SameSnapshots m) :
    w.Turns q.event (w.step q.event) := by
  have hUnseen :
      w.exchange.accepted q.event = [] ∧
        w.exchange.replaced q.event = [] ∧
          w.exchange.dropped q.event = [] ∧
            w.exchange.calls q.event = [] := by
    cases q with
    | resize size => exact absurd rfl (hRedraw size)
    | _ => exact ⟨rfl, rfl, rfl, rfl⟩
  have hUpdate :
      w.exchange.step q.event =
        w.exchange.update (q.ask w.exchange.mailbox) := by
    cases q <;> rfl
  rcases hUnseen with ⟨hAccepted, hReplaced, hDropped, hCalls⟩
  rcases w.step_of_update hUpdate with
    ⟨_, hSame⟩ | ⟨m, hAnswer, hStep⟩
  · exact turns_self hSame hAccepted hReplaced hDropped hCalls
  · rw [hStep]
    exact
      .quiet _ (hFlags m hAnswer)
        (fun _ => Or.inr ⟨q, hRedraw, rfl, by rw [hAnswer]; rfl⟩)
        hAccepted hReplaced hDropped hCalls

/- The thread waits, ends or picks a snapshot. -/
theorem turns_seeking
    (hStage : w.exchange.worker.stage = .seeking)
    (due : Bool) :
    w.Turns (.work due) (w.step (.work due)) := by
  rcases Worker.pick_eq w.exchange.worker.started due
      w.exchange.mailbox w.exchange.worker.renderer with
    ⟨work, m, hPick, hCases⟩
  have hCalls :
      w.exchange.calls (.work due) =
        w.exchange.mailbox.forgetting ++ work.calls := by
    rw [Exchange.calls, if_pos hStage, hPick]
  rcases hCases with
    ⟨redraw, rfl, rfl, hAsked, _⟩ | ⟨redraw, rfl, rfl, hAsked, _⟩ |
      ⟨s, rfl, rfl, _, hSource⟩
  · have hStep :
        w.step (.work due) =
          { w with
            exchange :=
              w.exchange.sought
                { w.exchange.mailbox with
                  invalidate := false
                  redraw := redraw }
                .seeking } := by
      simp [step, Exchange.step, Exchange.work, hStage, Worker.seek,
        hPick, Exchange.sought]
    rw [hStep]
    exact
      .rested due rfl hStage _ _ (Or.inl rfl) ⟨rfl, rfl, rfl⟩ hAsked
        (hCalls.trans (List.append_nil _))
  · have hStep :
        w.step (.work due) =
          { w with
            exchange :=
              w.exchange.sought
                { w.exchange.mailbox with
                  invalidate := false
                  redraw := redraw
                  phase := .stopped }
                .stopped } := by
      simp [step, Exchange.step, Exchange.work, hStage, Worker.seek,
        hPick, Exchange.sought]
    rw [hStep]
    exact
      .rested due rfl hStage _ _ (Or.inr rfl) ⟨rfl, rfl, rfl⟩ hAsked
        (hCalls.trans (List.append_nil _))
  · have hStep : w.step (.work due) = w.afterPick s := by
      simp [step, Exchange.step, Exchange.work, hStage, Worker.seek,
        hPick, Exchange.sought, afterPick]
    rw [hStep]
    exact .picked due rfl hStage s hSource hCalls

/- Nothing else can happen. -/
theorem turns_step
    (w : Watch)
    (e : Event) :
    w.Turns e (w.step e) := by
  cases e with
  | submit s =>
      rcases w.step_of_update (e := .submit s) rfl with
        ⟨hRefused, hSame⟩ | ⟨m, hAnswer, hStep⟩
      · exact
          turns_self hSame (by simp [Exchange.accepted, hRefused])
            (by simp [Exchange.replaced, hRefused]) rfl rfl
      · rcases Mailbox.submit_eq_ok hAnswer with ⟨hMailbox, hNewer, _⟩
        rw [hStep, hMailbox]
        exact .submitted s rfl (by rw [hAnswer]; rfl) hNewer
  | forceRepaint =>
      refine turns_request (q := .forceRepaint) nofun fun m hOk => ?_
      rw [(Mailbox.forceRepaint_eq_ok hOk).1]
      exact ⟨rfl, rfl, rfl⟩
  | resize size =>
      rcases w.step_of_update (e := .resize size) rfl with
        ⟨hRefused, hSame⟩ | ⟨m, hAnswer, hStep⟩
      · exact
          turns_self hSame rfl rfl
            (by simp [Exchange.dropped, hRefused]) rfl
      · rw [hStep, (Mailbox.resize_eq_ok hAnswer).1]
        exact .resized size rfl (by rw [hAnswer]; rfl)
  | reset =>
      refine turns_request (q := .reset) nofun fun m hOk => ?_
      rw [(Mailbox.reset_eq_ok hOk).1]
      exact ⟨rfl, rfl, rfl⟩
  | stop =>
      rw [w.step_of_mailbox (m := w.exchange.mailbox.stop) rfl]
      exact .quiet _ ⟨rfl, rfl, rfl⟩ Or.inl rfl rfl rfl rfl
  | work due =>
      rcases w.exchange.worker.stage.kinds with
        hStage | hStage | ⟨report, hStage⟩ | hStage
      · exact turns_seeking hStage due
      · rw [w.step_drawing hStage]
        exact .drew due rfl hStage
      · rw [w.step_reporting hStage]
        exact .reported due rfl report hStage
      · refine turns_self (w.step_ended hStage due) rfl rfl rfl ?_
        rcases hStage with hStage | hStage <;>
          simp [Exchange.calls, hStage]

end Watch

end Redraw
