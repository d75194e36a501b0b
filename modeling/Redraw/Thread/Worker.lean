import Redraw.Thread.Mailbox

/-
  The drawing thread: from the mailbox to the sink and back.

  The thread moves from stage to stage.  A step touches the
  mailbox once at most, so that producers may act between any
  two steps.

  Key definitions include:
    * `Report`: what became of a snapshot
    * `Stage`, `Worker`
    * `Worker.pick`: what to draw next
    * `Worker.step`: one step
-/

namespace Redraw

------------------------------------------------------------
-- Reports and Stages
------------------------------------------------------------

/- What became of a snapshot that was picked. -/
inductive Report
  | committed (seq : Nat) (stats : FrameStats)
  | rejected (seq : Nat) (error : Error)
  | failed (error : Error)
  deriving DecidableEq

/- How far the thread is with the snapshot it picked. -/
inductive Stage
  | seeking
  | planning (snapshot : Snapshot) (force : Bool)
  | encoding (snapshot : Snapshot) (plan : Plan)
  | writing (frame : Frame)
  | settling (frame : Frame) (failure : Option SinkError)
  | reporting (report : Report)
  | stopped
  | dead
  deriving DecidableEq

/-
  The thread's own state.  `started` holds once a frame has been
  sent on its way; from then on frames are paced.
-/
structure Worker where
  renderer : Renderer
  stage : Stage := .seeking
  started : Bool := false
  deriving DecidableEq

/- What to do next. -/
inductive Work
  | wait
  | stop
  | draw (snapshot : Snapshot) (force : Bool)
  deriving DecidableEq

namespace Worker

------------------------------------------------------------
-- Picking
------------------------------------------------------------

/- Forget the screen if the mailbox says so. -/
def takeInvalidate
    (m : Mailbox)
    (r : Renderer) : Mailbox × Renderer :=
  if m.invalidate then
    ({ m with invalidate := false }, r.invalidate)
  else (m, r)

/- Whether the committed snapshot has the declared size. -/
def committedFits
    (m : Mailbox)
    (r : Renderer) : Bool :=
  r.committed.any fun s => m.size.all (· = s.size)

/- Drop a request to redraw what no longer fits. -/
def dropRedraw
    (m : Mailbox)
    (r : Renderer) : Mailbox :=
  if !committedFits m r && m.pending.isNone then
    { m with redraw := false }
  else m

/- Take the pending snapshot, or the committed one to redraw. -/
def take
    (m : Mailbox)
    (r : Renderer) : Work × Mailbox :=
  match m.pending.or r.committed with
  | none => (.wait, { m with redraw := false })
  | some s =>
      (.draw s m.force,
        { m with
          pending := none
          redraw := false
          force := false
          phase := .diffing })

/-
  Look for something to draw.  `due` tells whether pacing allows
  another frame; it is not asked when finishing.
-/
def pick
    (started due : Bool)
    (m : Mailbox)
    (r : Renderer) : Work × Mailbox × Renderer :=
  let (m, r) := takeInvalidate m r
  let m := dropRedraw m r
  if m.phase ≠ .failed ∧ (m.pending.isSome ∨ m.redraw) then
    if !m.shutdown && started && !due then (.wait, m, r)
    else
      let (work, m) := take m r
      (work, m, r)
  else if m.shutdown then
    (.stop, m.enter .stopped, r)
  else
    (.wait, m, r)

------------------------------------------------------------
-- Stepping
------------------------------------------------------------

/- Look for work and begin it. -/
def seek
    (w : Worker)
    (due : Bool)
    (m : Mailbox) : Worker × Mailbox :=
  match pick w.started due m w.renderer with
  | (.wait, m, r) => ({ w with renderer := r }, m)
  | (.stop, m, r) => ({ w with renderer := r, stage := .stopped }, m)
  | (.draw s force, m, r) =>
      ({ w with renderer := r, stage := .planning s force }, m)

/- Plan the snapshot, or reject it. -/
def planNext
    (w : Worker)
    (snapshot : Snapshot)
    (force : Bool)
    (m : Mailbox) : Worker × Mailbox :=
  match w.renderer.plan snapshot force with
  | .ok plan =>
      ({ w with stage := .encoding snapshot plan }, m.enter .encoding)
  | .error e =>
      ({ w with stage := .reporting (.rejected snapshot.seq e) },
        m.enter .idle)

/- Encode the plan. -/
def encodeNext
    (w : Worker)
    (snapshot : Snapshot)
    (plan : Plan)
    (m : Mailbox) : Worker × Mailbox :=
  let (frame, r) := w.renderer.encode snapshot plan
  ({ renderer := r, stage := .writing frame, started := true },
    m.enter .writing)

/- Deliver the frame, then commit it or forget the screen. -/
def writeNext
    (w : Worker)
    (frame : Frame)
    (sink : Sink) : Worker × Sink :=
  match w.renderer.flushTo sink with
  | (.done, r, sink) =>
      ({ w with
          renderer := r.commit frame
          stage := .settling frame none }, sink)
  | (.failed cause, r, sink) =>
      ({ w with
          renderer := r.invalidate
          stage := .settling frame (some cause) }, sink)
  | (.crashed, r, sink) => ({ w with renderer := r, stage := .dead }, sink)

/- Tell the mailbox how the delivery ended. -/
def settleNext
    (w : Worker)
    (frame : Frame)
    (failure : Option SinkError)
    (m : Mailbox) : Worker × Mailbox :=
  let seq := frame.snapshot.seq
  match failure with
  | none =>
      ({ w with stage := .reporting (.committed seq frame.stats) },
        m.committed seq)
  | some cause =>
      ({ w with
          stage := .reporting (.failed (.outputWriteFailure cause)) },
        m.enter .failed)

end Worker

------------------------------------------------------------
-- The Whole
------------------------------------------------------------

/- Everything producers, the thread and the sink share. -/
structure Exchange where
  mailbox : Mailbox := {}
  worker : Worker
  sink : Sink := {}
  reports : List Report := []
  deriving DecidableEq

/- Something that happens. -/
inductive Event
  | submit (s : Snapshot)
  | forceRepaint
  | resize (size : Size)
  | reset
  | stop
  | work (due : Bool)
  deriving DecidableEq

namespace Exchange

/- Nothing has happened yet. -/
def start
    (caps : Capabilities)
    (sink : Sink) : Exchange where
  worker := { renderer := { caps := caps } }
  sink := sink

/- One step of the drawing thread. -/
def work
    (x : Exchange)
    (due : Bool) : Exchange :=
  match x.worker.stage with
  | .seeking =>
      let (w, m) := x.worker.seek due x.mailbox
      { x with worker := w, mailbox := m }
  | .planning s force =>
      let (w, m) := x.worker.planNext s force x.mailbox
      { x with worker := w, mailbox := m }
  | .encoding s plan =>
      let (w, m) := x.worker.encodeNext s plan x.mailbox
      { x with worker := w, mailbox := m }
  | .writing frame =>
      let (w, sink) := x.worker.writeNext frame x.sink
      { x with worker := w, sink := sink }
  | .settling frame failure =>
      let (w, m) := x.worker.settleNext frame failure x.mailbox
      { x with worker := w, mailbox := m }
  | .reporting report =>
      { x with
        worker := { x.worker with stage := .seeking }
        reports := x.reports ++ [report] }
  | .stopped => x
  | .dead => x

/- The exchange with a mailbox, unless the change was refused. -/
def update
    (x : Exchange) :
    Except Error Mailbox → Exchange
  | .ok m => { x with mailbox := m }
  | .error _ => x

/- One event. -/
def step
    (x : Exchange) :
    Event → Exchange
  | .submit s => x.update (x.mailbox.submit s)
  | .forceRepaint => x.update x.mailbox.forceRepaint
  | .resize size => x.update (x.mailbox.resize size)
  | .reset => x.update x.mailbox.reset
  | .stop => { x with mailbox := x.mailbox.stop }
  | .work due => x.work due

/- Events one after another. -/
def run
    (x : Exchange)
    (events : List Event) : Exchange :=
  events.foldl step x

end Exchange

end Redraw
