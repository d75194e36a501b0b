import Redraw.Capabilities
import Redraw.Plan
import Redraw.Screen
import Mathlib.Algebra.GroupWithZero.Nat

/-
  Executing plans: what each step does to a screen, whatever
  bytes say it.

  Key definitions include:
    * `Screen.execute`, `Screen.executeAll`
    * `Op.Fits`: steps that a screen of some size can take
-/

namespace Redraw

namespace Screen

/- Do one step of a plan. -/
def execute
    (caps : Capabilities)
    (s : Screen) :
    Op → Screen
  | .clearScreen => { s with style := .default }.clear
  | .moveTo target => s.moveTo target.row target.col
  | .setStyle style => { s with style := caps.adaptStyle style }
  | .text chars _ => s.printAll chars
  | .eraseToEndOfLine => s.eraseLine
  | .showCursor => { s with visible := true }
  | .hideCursor => { s with visible := false }
  | .setCursorShape shape => { s with shape := shape }

/- Do steps one after another. -/
def executeAll
    (caps : Capabilities)
    (s : Screen)
    (ops : List Op) : Screen :=
  ops.foldl (execute caps) s

end Screen

------------------------------------------------------------
-- Steps That Fit
------------------------------------------------------------

/- Characters that a terminal shows. -/
def isPrintable (c : Char) : Bool :=
  !isControl c

/-
  A text that starts with a visible character and takes the
  columns it is said to take.
-/
structure IsText
    (cols : Nat)
    (chars : List Char)
    (width : Nat) : Prop where
  printable : chars.all isPrintable
  visible : chars.head?.any fun c => 0 < charWidth c
  narrow : cols = 1 → chars.all fun c => charWidth c ≤ 1
  columns : (chars.map charWidth).sum = width

/- A step that a screen of a size can take. -/
def Op.Fits
    (rows cols : Nat) :
    Op → Prop
  | .moveTo p => p.row < rows ∧ p.col < cols
  | .text chars width => IsText cols chars width
  | _ => True

end Redraw
