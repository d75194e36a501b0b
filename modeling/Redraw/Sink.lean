import Redraw.Error

/-
  Sinks: where bytes go, and how that can fail.

  A sink answers each call from a script: it takes everything,
  takes a part, fails, or asks to be called again.  When the
  script is used up it takes everything.

  Key definitions include:
    * `WriteAnswer`, `FlushAnswer`
    * `Sink`
    * `Sink.writeAll`: write until everything is taken
    * `Sink.flush`
-/

namespace Redraw

------------------------------------------------------------
-- Answers
------------------------------------------------------------

/- How a sink answers a write. -/
inductive WriteAnswer
  | all
  | atMost (n : Nat)
  | fail
  | interrupt
  | crash
  deriving DecidableEq, Repr

/- How a sink answers a flush. -/
inductive FlushAnswer
  | done
  | fail
  | interrupt
  deriving DecidableEq, Repr

/- How a dealing with a sink ends. -/
inductive Delivery
  | done
  | failed (cause : SinkError)
  | crashed
  deriving DecidableEq, Repr

/-
  A sink: the answers to come, what arrived, and how often it
  was called.
-/
structure Sink where
  writes : List WriteAnswer := []
  flushes : List FlushAnswer := []
  received : List UInt8 := []
  writeCalls : Nat := 0
  flushCalls : Nat := 0
  deriving DecidableEq

------------------------------------------------------------
-- Writing
------------------------------------------------------------

/- What a write of many calls came to. -/
structure WriteLog where
  outcome : Delivery
  taken : List UInt8
  calls : Nat
  left : List WriteAnswer
  deriving DecidableEq

namespace WriteLog

/- A log with one more call, which took some bytes, before it. -/
def after
    (log : WriteLog)
    (taken : List UInt8) : WriteLog :=
  { log with taken := taken ++ log.taken, calls := log.calls + 1 }

/-
  Offer bytes again and again until they are all taken.  An
  interrupted call is repeated; one that takes nothing fails.
-/
def run :
    List WriteAnswer → List UInt8 → WriteLog
  | [], [] => ⟨.done, [], 0, []⟩
  | [], bytes => ⟨.done, bytes, 1, []⟩
  | answers, [] => ⟨.done, [], 0, answers⟩
  | .all :: left, bytes => ⟨.done, bytes, 1, left⟩
  | .atMost 0 :: left, _ => ⟨.failed .tookNothing, [], 1, left⟩
  | .atMost (n + 1) :: left, bytes =>
      (run left (bytes.drop (n + 1))).after (bytes.take (n + 1))
  | .fail :: left, _ => ⟨.failed .wentAway, [], 1, left⟩
  | .interrupt :: left, bytes => (run left bytes).after []
  | .crash :: left, _ => ⟨.crashed, [], 1, left⟩

end WriteLog

namespace Sink

/- Write until everything is taken or the sink fails. -/
def writeAll
    (s : Sink)
    (bytes : List UInt8) : Delivery × Sink :=
  let log := WriteLog.run s.writes bytes
  (log.outcome,
    { s with
      writes := log.left
      received := s.received ++ log.taken
      writeCalls := s.writeCalls + log.calls })

/- Flush once. -/
def flush (s : Sink) : Delivery × Sink :=
  let s' := { s with flushes := s.flushes.tail, flushCalls := s.flushCalls + 1 }
  match s.flushes with
  | [] => (.done, s')
  | .done :: _ => (.done, s')
  | .fail :: _ => (.failed .wentAway, s')
  | .interrupt :: _ => (.failed .interrupted, s')

/- Write everything, then flush if that went well. -/
def deliver
    (s : Sink)
    (bytes : List UInt8) : Delivery × Sink :=
  match s.writeAll bytes with
  | (.done, s') => s'.flush
  | failure => failure

/- Give the sink a new script. -/
def follow
    (s : Sink)
    (writes : List WriteAnswer)
    (flushes : List FlushAnswer) : Sink :=
  { s with writes := writes, flushes := flushes }

/- Forget what arrived and how often the sink was called. -/
def settle (s : Sink) : Sink :=
  { s with received := [], writeCalls := 0, flushCalls := 0 }

end Sink

end Redraw
