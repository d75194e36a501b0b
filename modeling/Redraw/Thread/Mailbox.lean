import Redraw.Renderer

/-
  Mailboxes: how producers hand snapshots to the drawing thread.

  There is one slot.  A newer snapshot replaces the one in it,
  so that a slow terminal sees fewer and newer frames.

  Key definitions include:
    * `Phase`: what the drawing thread is doing
    * `Mailbox`
    * `Mailbox.submit`, `Mailbox.forceRepaint`
    * `Mailbox.resize`, `Mailbox.reset`, `Mailbox.stop`
-/

namespace Redraw

/- What the drawing thread is doing. -/
inductive Phase
  | idle
  | diffing
  | encoding
  | writing
  | failed
  | stopped
  deriving DecidableEq, Repr

namespace Phase

/- The name of a phase. -/
def name : Phase → String
  | .idle => "Idle"
  | .diffing => "Diffing"
  | .encoding => "Encoding"
  | .writing => "Writing"
  | .failed => "Failed"
  | .stopped => "Stopped"

end Phase

/-
  What producers and the drawing thread share.

  `latest` is the newest number accepted.  `size`, once it is
  declared, is the only one accepted.  `force` asks for the next
  frame to draw everything, `redraw` for the committed snapshot
  to be drawn again, `invalidate` to forget the screen first.
-/
structure Mailbox where
  pending : Option Snapshot := none
  latest : Option Nat := none
  lastCommitted : Option Nat := none
  size : Option Size := none
  force : Bool := false
  redraw : Bool := false
  invalidate : Bool := false
  shutdown : Bool := false
  phase : Phase := .idle
  deriving DecidableEq

namespace Mailbox

------------------------------------------------------------
-- Producers
------------------------------------------------------------

/-
  Offer a snapshot.  It must be newer than every one accepted
  before and have the declared size.
-/
def submit
    (m : Mailbox)
    (s : Snapshot) : Except Error Mailbox :=
  let accepted : Mailbox :=
    { m with pending := some s, latest := some s.seq }
  if m.shutdown || m.phase = .stopped then
    .error .shutDown
  else if m.phase = .failed then
    .error .failed
  else
    match m.latest.filter (s.seq ≤ ·), m.size.filter (s.size ≠ ·) with
    | some latest, _ => .error (.staleSnapshot s.seq latest)
    | none, some size => .error (.dimensionMismatch size s.size)
    | none, none => .ok accepted

/- Draw everything next, the committed snapshot if need be. -/
def forceRepaint (m : Mailbox) : Except Error Mailbox :=
  if m.shutdown then .error .shutDown
  else .ok { m with force := true, redraw := true }

/-
  Declare a size.  A pending snapshot of another size is
  dropped, and the next frame draws everything.
-/
def resize
    (m : Mailbox)
    (size : Size) : Except Error Mailbox :=
  if m.shutdown then .error .shutDown
  else
    .ok
      { m with
        size := some size
        pending := m.pending.filter (·.size = size)
        force := true }

/- Leave the failed phase: forget the screen and draw it again. -/
def reset (m : Mailbox) : Except Error Mailbox :=
  if m.shutdown then .error .shutDown
  else
    .ok
      { m with
        phase := if m.phase = .failed then .idle else m.phase
        invalidate := true
        force := true
        redraw := true }

/- Ask the drawing thread to finish. -/
def stop (m : Mailbox) : Mailbox :=
  { m with shutdown := true }

------------------------------------------------------------
-- The Drawing Thread
------------------------------------------------------------

/- The mailbox in another phase. -/
def enter
    (m : Mailbox)
    (phase : Phase) : Mailbox :=
  { m with phase := phase }

/- A frame was committed. -/
def committed
    (m : Mailbox)
    (seq : Nat) : Mailbox :=
  { m with lastCommitted := some seq, phase := .idle }

/- A mailbox in words. -/
def describe (m : Mailbox) : String :=
  "RenderHandle \x7b state: " ++ m.phase.name
    ++ ", pending: "
    ++ Belief.describeOption (fun s => toString s.seq) m.pending
    ++ ", last_committed: "
    ++ Belief.describeOption toString m.lastCommitted
    ++ ", .. \x7d"

end Mailbox

end Redraw
