import Redraw.Error
import Redraw.Escape.Command

/-
  The program's hold on its terminal.

  Entering switches to the alternate screen and hides the
  cursor; leaving puts everything back.  Once a terminal has
  been entered, a crash puts everything back as well, whoever
  crashes.

  Key definitions include:
    * `Terminal`, `Terminal.enter`, `Terminal.leave`
    * `Host`: a program with at most one terminal
-/

namespace Redraw

/- A hold on the terminal, in effect or not. -/
structure Terminal where
  size : Size
  active : Bool := false
  deriving DecidableEq

namespace Terminal

/- The size taken when a terminal does not tell its own. -/
def fallbackSize : Size :=
  ⟨24, 80⟩

/- A hold that is not in effect yet. -/
def create (size : Option Size) : Terminal where
  size := size.getD fallbackSize

/- What puts a terminal in order. -/
def setup : List Command :=
  [.enterAlternate, .hideCursor, .clearScreen]

/- What puts a terminal back as it was, its own screen last. -/
def restore : List Command :=
  [.endSync, .resetStyle, .cursorShape .default, .showCursor,
    .leaveAlternate]

/- Take hold of the terminal; twice is once. -/
def enter (t : Terminal) : List Command × Terminal :=
  if t.active then ([], t)
  else (setup, { t with active := true })

/- Let go of the terminal; nothing to do if it is not held. -/
def leave (t : Terminal) : List Command × Terminal :=
  if t.active then (restore, { t with active := false })
  else ([], t)

/- Take note of a size; none if it is not known or the same. -/
def pollResize
    (t : Terminal)
    (now : Option Size) : Option Size × Terminal :=
  match now with
  | none => (none, t)
  | some size =>
      if size = t.size then (none, t)
      else (some size, { t with size := size })

/- A hold in words. -/
def describe (t : Terminal) : String :=
  "Terminal \x7b size: Size \x7b rows: " ++ toString t.size.rows
    ++ ", cols: " ++ toString t.size.cols
    ++ " \x7d, active: " ++ toString t.active
    ++ ", .. \x7d"

end Terminal

/- A program that may hold a terminal. -/
structure Host where
  terminal : Option Terminal := some (.create none)
  restoresOnCrash : Bool := false
  deriving DecidableEq

namespace Host

/- Take hold of the terminal. -/
def enter (h : Host) : List Command × Host :=
  match h.terminal with
  | none => ([], h)
  | some t =>
      let (out, t) := t.enter
      (out, { terminal := some t, restoresOnCrash := true })

/- Let go of the terminal. -/
def leave (h : Host) : List Command × Host :=
  match h.terminal with
  | none => ([], h)
  | some t =>
      let (out, t) := t.leave
      (out, { h with terminal := some t })

/- Give up the terminal, letting go of it first. -/
def drop (h : Host) : List Command × Host :=
  let (out, h) := h.leave
  (out, { h with terminal := none })

/- Start with a new terminal and give up the old one. -/
def renew (h : Host) : List Command × Host :=
  let (out, h) := h.drop
  (out, { h with terminal := some (.create none) })

/- What a crash writes. -/
def crash (h : Host) : List Command :=
  if h.restoresOnCrash then Terminal.restore else []

end Host

end Redraw
