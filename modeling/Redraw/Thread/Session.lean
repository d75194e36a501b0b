import Redraw.Thread.Worker

/-
  Sessions: producers and the drawing thread in lockstep.

  Between two requests the thread runs until it can go no
  further: there is nothing to draw, pacing holds it back, it
  has ended, or its sink is behind a closed gate.

  Key definitions include:
    * `Session`
    * `Session.run`: let the thread go as far as it can
    * `Session.await`, `Session.shutdown`, `Session.finish`
-/

namespace Redraw

/-
  An exchange with the means to observe it.  `owned` holds while
  somebody can still shut the thread down, `parked` while a
  write waits at the gate, and `read` counts the reports that
  were taken.
-/
structure Session where
  exchange : Exchange
  pacing : Nat
  timeout : Nat
  owned : Bool := true
  gateOpen : Bool := true
  parked : Bool := false
  read : Nat := 0

/- What waiting for a report gives. -/
inductive Awaited
  | report (r : Report)
  | closed
  | timeout

namespace Session

/- How long a report is waited for, in milliseconds. -/
def patience : Nat := 5000

/- A session with a thread that has just been started. -/
def start
    (caps : Capabilities)
    (pacing timeout : Nat) : Session where
  exchange := .start caps {}
  pacing := pacing
  timeout := timeout

/- Whether pacing lets a further frame through in time. -/
def due (s : Session) : Bool :=
  s.pacing < patience

/- Whether the thread is about to call its sink. -/
def atSink (s : Session) : Bool :=
  match s.exchange.worker.stage with
  | .writing _ => !s.exchange.worker.renderer.outbox.isEmpty
  | _ => false

/- The session with another sink. -/
def withSink
    (s : Session)
    (change : Sink → Sink) : Session :=
  { s with
    exchange := { s.exchange with sink := change s.exchange.sink } }

/- Arrive at the closed gate; the call counts from here on. -/
def park (s : Session) : Session :=
  if s.parked then s
  else
    { s.withSink fun k => { k with writeCalls := k.writeCalls + 1 } with
      parked := true }

/- One step of the thread through an open gate. -/
def pass (s : Session) : Session :=
  let moved := { s with exchange := s.exchange.work s.due }
  if s.parked then
    { moved.withSink fun k => { k with writeCalls := k.writeCalls - 1 }
      with parked := false }
  else moved

/- One step of the thread, if the gate allows it. -/
def advance (s : Session) : Session :=
  if s.atSink && !s.gateOpen then s.park else s.pass

/-
  Let the thread go as far as it can.  A frame takes six steps
  from being picked to being reported, and none is left to draw
  after the one under way and the one after it.
-/
def run (s : Session) : Session :=
  Nat.repeat advance 16 s

/- Change the mailbox, unless the change is refused. -/
def request
    (s : Session)
    (change : Mailbox → Except Error Mailbox) :
    Except Error Unit × Session :=
  match change s.exchange.mailbox with
  | .ok m => (.ok (), { s with exchange := { s.exchange with mailbox := m } })
  | .error e => (.error e, s)

/- Whether no further report can come. -/
def isClosed (s : Session) : Bool :=
  match s.exchange.worker.stage with
  | .stopped => true
  | .dead => true
  | _ => false

/- Reports that nobody has taken yet. -/
def unread (s : Session) : List Report :=
  s.exchange.reports.drop s.read

/- Wait for the next report. -/
def await (s : Session) : Awaited × Session :=
  let s := s.run
  match s.unread with
  | r :: _ => (.report r, { s with read := s.read + 1 })
  | [] => (if s.isClosed then .closed else .timeout, s)

/- Wait for several reports. -/
def awaitMany :
    Nat → Session → List Awaited × Session
  | 0, s => ([], s)
  | n + 1, s =>
      let (a, s) := s.await
      let (later, s) := awaitMany n s
      (a :: later, s)

/- Ask the thread to finish without waiting for it. -/
def stop (s : Session) : Session :=
  { s with
    owned := false
    exchange :=
      { s.exchange with mailbox := s.exchange.mailbox.stop } }

/-
  Ask the thread to finish and wait for that.  A thread that is
  held up is left to finish by itself.
-/
def shutdown (s : Session) : Except Error Unit × Session :=
  let s := s.stop.run
  match s.exchange.worker.stage with
  | .stopped => (.ok (), s)
  | .dead => (.error .failed, s)
  | _ => (.error .shutdownTimeout, s)

/- Open the gate, finish, and take the reports that are left. -/
def finish
    (s : Session) :
    Option (Except Error Unit) × List Report × Session :=
  let s := { s with gateOpen := true }
  let (result, s) :=
    if s.owned then
      let (r, s) := s.shutdown
      (some r, s)
    else (none, s.run)
  (result, s.unread, { s with read := s.exchange.reports.length })

/- A time of so many milliseconds in words. -/
def describeTime (ms : Nat) : String :=
  let fraction (n : Nat) : List Char :=
    (String.ofList ['0', '0', '0']
      ++ toString n).toList.reverse.take 3 |>.reverse
  if ms = 0 then "0ns"
  else if ms < 1000 then toString ms ++ "ms"
  else if ms % 1000 = 0 then toString (ms / 1000) ++ "s"
  else
    let digits :=
      ((fraction (ms % 1000)).reverse.dropWhile (· = '0')).reverse
    toString (ms / 1000) ++ "." ++ String.ofList digits ++ "s"

/- The owner of the thread in words. -/
def describe (s : Session) : String :=
  "RenderThread \x7b state: " ++ s.exchange.mailbox.phase.name
    ++ ", shutdown_timeout: " ++ describeTime s.timeout
    ++ ", .. \x7d"

end Session

end Redraw
