import Redraw.Panes.Compositor
import Redraw.Program.Settings
import Redraw.Terminal

/-
  The program: a terminal, the drawing thread and a screen that
  changes with time, run in turns.

  Each turn composes a screen, offers it to the thread and lets
  the thread work; what it writes is handed out.  The first
  failed write ends the program.

  Key definitions include:
    * `Program.start`, `Program.turn`, `Program.stop`
-/

namespace Redraw

/- A running program. -/
structure Program where
  terminal : Terminal
  exchange : Exchange
  compositor : Compositor := {}
  seq : Nat := 0
  failure : Option Error := none

namespace Program

/- The bytes of commands. -/
def bytesOf (commands : List Command) : List UInt8 :=
  commands.flatMap Command.bytes

/-
  Let the thread work.  A frame takes six steps from being
  picked to being reported, and at most two are to be drawn.
-/
def work
    (p : Program)
    (due : Bool) : Program :=
  { p with exchange := Nat.repeat (·.work due) 16 p.exchange }

/- What the thread has written, handed out. -/
def handOut (p : Program) : List UInt8 × Program :=
  let x := p.exchange
  (x.sink.received, { p with exchange := { x with sink := x.sink.settle } })

/- Act on what the thread has reported. -/
def takeReports (p : Program) : Program :=
  let (failure, left, c) := p.compositor.take p.exchange.reports
  { p with
    exchange := { p.exchange with reports := left }
    compositor := c
    failure := p.failure.or failure }

/- Take hold of the terminal and tell the thread its size. -/
def start
    (settings : Settings)
    (size : Option Size) : List UInt8 × Program :=
  let (commands, terminal) := (Terminal.create size).enter
  let exchange :=
    (Exchange.start settings.capabilities {}).step
      (.resize terminal.size)
  (bytesOf commands, { terminal := terminal, exchange := exchange })

/-
  One turn: the size that the terminal has now, if it is known,
  the time since the start in tenths of a second, and whether
  another frame is due.
-/
def turn
    (p : Program)
    (now : Option Size)
    (tenths : Nat)
    (due : Bool) : List UInt8 × Program :=
  let (resized, terminal) := p.terminal.pollResize now
  let x := resized.elim p.exchange fun size => p.exchange.step (.resize size)
  let size := terminal.size
  let (grid, c) := p.compositor.compose ⟨size.rows, size.cols⟩ tenths
  let x := x.step (.submit ⟨p.seq + 1, grid⟩)
  handOut
    ((takeReports
      { p with
        terminal := terminal
        exchange := x
        compositor := c
        seq := p.seq + 1 }).work due)

/- Draw what is left and let go of the terminal. -/
def stop (p : Program) : List UInt8 × Program :=
  let ended := work { p with exchange := p.exchange.step .stop } true
  let (bytes, p) := ended.handOut
  let (commands, terminal) := p.terminal.leave
  (bytes ++ bytesOf commands, { p with terminal := terminal })

/- A program that is stopped as soon as it is started. -/
def startAndStop (settings : Settings) : List UInt8 :=
  let (setup, p) := start settings none
  setup ++ p.stop.1

end Program

end Redraw
