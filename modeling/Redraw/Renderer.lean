import Redraw.Frame
import Redraw.Outbox
import Redraw.Plan.Diff

/-
  Renderers: the way of a snapshot to the screen.

  A snapshot is planned and encoded into the outbox, delivered,
  and only then committed.  After a delivery that failed the
  screen is unknown and the next frame draws everything.

  Key definitions include:
    * `FrameStats`, `Frame`
    * `Renderer`
    * `Renderer.plan`, `Renderer.encode`, `Renderer.flushTo`
    * `Renderer.commit`, `Renderer.invalidate`
    * `Renderer.renderTo`: all of them in order
-/

namespace Redraw

------------------------------------------------------------
-- Frames
------------------------------------------------------------

/- What a frame drew and how many bytes it took. -/
structure FrameStats where
  rendered : Nat := 0
  skipped : Nat := 0
  bytes : Nat := 0
  repaint : Bool := false
  deriving DecidableEq, Repr

namespace FrameStats

/- All cells, drawn or not. -/
def total (s : FrameStats) : Nat :=
  s.rendered + s.skipped

end FrameStats

/- A frame in the outbox that is not committed yet. -/
structure Frame where
  snapshot : Snapshot
  after : Belief
  stats : FrameStats
  deriving DecidableEq

------------------------------------------------------------
-- Renderers
------------------------------------------------------------

/-
  What is known of a terminal: the last snapshot drawn on it,
  its cursor, and whether it still shows that snapshot.
-/
structure Renderer where
  caps : Capabilities
  outbox : Outbox := {}
  committed : Option Snapshot := none
  belief : Belief := .unknown
  screenKnown : Bool := false
  deriving DecidableEq

namespace Renderer

/- Whether the next frame of a size draws everything. -/
def needsRepaint
    (r : Renderer)
    (size : Size) : Bool :=
  !r.screenKnown || r.committed.all fun s => s.size ≠ size

/- The plan for a snapshot; `force` draws everything. -/
def plan
    (r : Renderer)
    (snapshot : Snapshot)
    (force : Bool) : Except Error Plan :=
  match r.committed with
  | some prev =>
      if r.screenKnown && !force && prev.size = snapshot.size then
        Plan.diff prev snapshot r.belief
      else
        Plan.repaint snapshot
  | none => Plan.repaint snapshot

/- Encode a plan into the outbox. -/
def encode
    (r : Renderer)
    (snapshot : Snapshot)
    (plan : Plan) : Frame × Renderer :=
  let outbox := r.outbox.clear.write (plan.encode r.caps)
  ({ snapshot := snapshot
     after := plan.after
     stats := {
       rendered := plan.stats.rendered
       skipped := plan.stats.skipped
       bytes := outbox.size
       repaint := plan.isRepaint } },
    { r with outbox := outbox })

/- Plan and encode a snapshot. -/
def prepare
    (r : Renderer)
    (snapshot : Snapshot)
    (force : Bool) : Except Error Frame × Renderer :=
  let r := { r with outbox := r.outbox.clear }
  match r.plan snapshot force with
  | .error e => (.error e, r)
  | .ok plan =>
      let (frame, r) := r.encode snapshot plan
      (.ok frame, r)

/-
  Deliver the frame in the outbox, and drop it however that
  ended.  A sink that breaks leaves no time to drop it.
-/
def flushTo
    (r : Renderer)
    (sink : Sink) : Delivery × Renderer × Sink :=
  let (outcome, outbox, sink) := r.outbox.flushTo sink
  let left := if outcome = .crashed then outbox else outbox.clear
  (outcome, { r with outbox := left }, sink)

/- Take a delivered frame for what the terminal shows. -/
def commit
    (r : Renderer)
    (frame : Frame) : Renderer :=
  { r with
    committed := some frame.snapshot
    belief := frame.after
    screenKnown := true }

/- Forget what the terminal shows. -/
def invalidate (r : Renderer) : Renderer :=
  { r with
    outbox := r.outbox.clear
    belief := .unknown
    screenKnown := false }

/-
  How a rendering ended: drawn, refused, not delivered, or with
  the sink broken in the middle of a call.
-/
inductive Rendering
  | drawn (stats : FrameStats)
  | refused (error : Error)
  | undelivered (cause : SinkError)
  | crashed
  deriving DecidableEq

/- Draw a snapshot: prepare it, deliver it and commit it. -/
def renderTo
    (r : Renderer)
    (snapshot : Snapshot)
    (force : Bool)
    (sink : Sink) : Rendering × Renderer × Sink :=
  match r.prepare snapshot force with
  | (.error e, r) => (.refused e, r, sink)
  | (.ok frame, r) =>
      match r.flushTo sink with
      | (.done, r, sink) =>
          (.drawn frame.stats, r.commit frame, sink)
      | (.failed cause, r, sink) =>
          (.undelivered cause, r.invalidate, sink)
      | (.crashed, r, sink) => (.crashed, r, sink)

/- A renderer in words. -/
def describe (r : Renderer) : String :=
  "Renderer \x7b committed: "
    ++ Belief.describeOption (fun s => toString s.seq) r.committed
    ++ ", terminal: " ++ r.belief.describe
    ++ ", screen_known: " ++ toString r.screenKnown
    ++ ", frames_sent: " ++ toString r.outbox.framesSent
    ++ ", bytes_sent: " ++ toString r.outbox.bytesSent
    ++ ", .. \x7d"

end Renderer

end Redraw
