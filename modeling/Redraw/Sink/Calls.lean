import Redraw.Sink

/-
  Calls: writing to a sink one call at a time.

  A sink is offered bytes, and then what it did not take of
  them, until nothing is left or a call fails.  An interrupted
  call is made again; one that takes nothing is a failure.

  Key definitions include:
    * `WriteReply`, `Sink.offer`: a single call
    * `Sink.Writes`: calls until all is taken
-/

namespace Redraw

/- What a single call to write came to. -/
inductive WriteReply
  | took (bytes : List UInt8)
  | failed
  | interrupted
  | crashed
  deriving DecidableEq, Repr

namespace WriteReply

/- The bytes that a call took. -/
def taken : WriteReply → List UInt8
  | .took bytes => bytes
  | .failed => []
  | .interrupted => []
  | .crashed => []

/- What an answer means for the bytes that were offered. -/
def of
    (bytes : List UInt8) :
    WriteAnswer → WriteReply
  | .all => .took bytes
  | .atMost n => .took (bytes.take n)
  | .fail => .failed
  | .interrupt => .interrupted
  | .crash => .crashed

end WriteReply

namespace Sink

/- Offer bytes once. -/
def offer
    (s : Sink)
    (bytes : List UInt8) : WriteReply × Sink :=
  let reply := WriteReply.of bytes (s.writes.headD .all)
  (reply,
    { s with
      writes := s.writes.tail
      received := s.received ++ reply.taken
      writeCalls := s.writeCalls + 1 })

/-
  A sink is called until it has taken some bytes, or fails.  The
  calls are listed by what was offered with each.
-/
inductive Writes :
    Sink → List UInt8 → List (List UInt8) → Delivery → Sink → Prop
  | done
      (s : Sink) :
      Writes s [] [] .done s
  | took
      {s s' s'' : Sink}
      {bytes taken : List UInt8}
      {offers : List (List UInt8)}
      {outcome : Delivery}
      (progress : taken ≠ [])
      (call : s.offer bytes = (.took taken, s'))
      (more :
        Writes s' (bytes.drop taken.length) offers outcome s'') :
      Writes s bytes (bytes :: offers) outcome s''
  | again
      {s s' s'' : Sink}
      {bytes : List UInt8}
      {offers : List (List UInt8)}
      {outcome : Delivery}
      (left : bytes ≠ [])
      (call : s.offer bytes = (.interrupted, s'))
      (more : Writes s' bytes offers outcome s'') :
      Writes s bytes (bytes :: offers) outcome s''
  | nothing
      {s s' : Sink}
      {bytes : List UInt8}
      (left : bytes ≠ [])
      (call : s.offer bytes = (.took [], s')) :
      Writes s bytes [bytes] (.failed .tookNothing) s'
  | failed
      {s s' : Sink}
      {bytes : List UInt8}
      (left : bytes ≠ [])
      (call : s.offer bytes = (.failed, s')) :
      Writes s bytes [bytes] (.failed .wentAway) s'
  | crashed
      {s s' : Sink}
      {bytes : List UInt8}
      (left : bytes ≠ [])
      (call : s.offer bytes = (.crashed, s')) :
      Writes s bytes [bytes] .crashed s'

end Sink

end Redraw
