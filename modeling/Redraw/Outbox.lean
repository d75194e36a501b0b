import Redraw.Sink

/-
  Outboxes: the frame being built, and what was sent so far.

  A frame leaves as a whole or the delivery fails; a frame that
  failed is kept.

  Key definitions include:
    * `Outbox`
    * `Outbox.write`, `Outbox.clear`
    * `Outbox.flushTo`
-/

namespace Redraw

/- The pending frame and totals of what was delivered. -/
structure Outbox where
  frame : List UInt8 := []
  framesSent : Nat := 0
  bytesSent : Nat := 0
  deriving DecidableEq

namespace Outbox

/- Add bytes to the frame. -/
def write
    (o : Outbox)
    (bytes : List UInt8) : Outbox :=
  { o with frame := o.frame ++ bytes }

/- Drop the frame. -/
def clear (o : Outbox) : Outbox :=
  { o with frame := [] }

/- The length of the frame. -/
def size (o : Outbox) : Nat :=
  o.frame.length

/- Whether there is nothing to send. -/
def isEmpty (o : Outbox) : Bool :=
  o.frame.isEmpty

/- Count the frame as sent and drop it. -/
def sent (o : Outbox) : Outbox where
  frame := []
  framesSent := o.framesSent + 1
  bytesSent := o.bytesSent + o.frame.length

/-
  Deliver the frame to a sink.  An empty frame is delivered
  without calling the sink.
-/
def flushTo
    (o : Outbox)
    (sink : Sink) : Delivery × Outbox × Sink :=
  if o.isEmpty then
    (.done, o, sink)
  else
    match sink.deliver o.frame with
    | (.done, sink') => (.done, o.sent, sink')
    | (failure, sink') => (failure, o, sink')

/- An outbox in words. -/
def describe (o : Outbox) : String :=
  "OutputBuffer \x7b pending: " ++ toString o.size
    ++ ", frames_sent: " ++ toString o.framesSent
    ++ ", bytes_sent: " ++ toString o.bytesSent ++ " \x7d"

end Outbox

end Redraw
