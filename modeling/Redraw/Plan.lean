import Redraw.Cursor
import Redraw.Error
import Redraw.Style
import Redraw.Text.Quoted

/-
  Plans: what to do to a terminal, before it is said how.

  Key definitions include:
    * `Op`: one step
    * `Belief`: what is known of a terminal's cursor
    * `Plan`
-/

namespace Redraw

------------------------------------------------------------
-- Steps
------------------------------------------------------------

/-
  One step of a plan.  Clearing the screen resets the style
  first, and erasing is always done in the default style.
-/
inductive Op
  | clearScreen
  | moveTo (target : Position)
  | setStyle (style : Style)
  | text (chars : List Char) (width : Nat)
  | eraseToEndOfLine
  | showCursor
  | hideCursor
  | setCursorShape (shape : CursorShape)
  deriving DecidableEq

namespace Op

/- A step in words. -/
def describe : Op → String
  | .clearScreen => "ClearScreen"
  | .moveTo p =>
      "MoveTo \x7b row: " ++ toString p.row
        ++ ", col: " ++ toString p.col ++ " \x7d"
  | .setStyle s => "SetStyle(" ++ s.describe ++ ")"
  | .text chars width =>
      "Text \x7b text: " ++ quoted chars
        ++ ", width: " ++ toString width ++ " \x7d"
  | .eraseToEndOfLine => "EraseToEndOfLine"
  | .showCursor => "ShowCursor"
  | .hideCursor => "HideCursor"
  | .setCursorShape s => "SetCursorShape(" ++ s.name ++ ")"

end Op

------------------------------------------------------------
-- Beliefs
------------------------------------------------------------

/- What is known of the cursor of a terminal. -/
structure Belief where
  position : Option Position := none
  visible : Option Bool := none
  shape : Option CursorShape := none
  deriving DecidableEq, Repr

namespace Belief

/- Nothing is known. -/
def unknown : Belief := {}

/- The cursor is known to be as given. -/
def ofCursor (c : Cursor) : Belief :=
  ⟨some c.position, some c.visible, some c.shape⟩

/- An optional value in words. -/
def describeOption {α : Type}
    (f : α → String) :
    Option α → String
  | none => "None"
  | some a => "Some(" ++ f a ++ ")"

/- A belief in words. -/
def describe (b : Belief) : String :=
  "TerminalState \x7b position: "
    ++ describeOption Position.describe b.position
    ++ ", visible: " ++ describeOption toString b.visible
    ++ ", shape: " ++ describeOption CursorShape.name b.shape
    ++ " \x7d"

end Belief

------------------------------------------------------------
-- Plans
------------------------------------------------------------

/- How many cells a plan draws and leaves alone. -/
structure PlanStats where
  rendered : Nat := 0
  skipped : Nat := 0
  rowsSkipped : Nat := 0
  deriving DecidableEq, Repr

/-
  The steps from one screen to the next: where the cursor is
  believed to be before them, and what is known of it after.
-/
structure Plan where
  ops : List Op
  rows : Nat
  cols : Nat
  origin : Option Position
  cursor : Cursor
  after : Belief
  stats : PlanStats
  deriving DecidableEq

namespace Plan

/- Whether there is nothing to do. -/
def isEmpty (p : Plan) : Bool :=
  p.ops.isEmpty

/- Whether everything is drawn anew. -/
def isRepaint (p : Plan) : Bool :=
  p.ops.head? = some .clearScreen

/- A plan in words. -/
def describe (p : Plan) : String :=
  "UpdatePlan(" ++ toString p.rows ++ "x" ++ toString p.cols
    ++ ", origin " ++ Belief.describeOption Position.describe p.origin
    ++ ") [\n"
    ++ String.join (p.ops.map fun op => "  " ++ op.describe ++ "\n")
    ++ "]"

end Plan

end Redraw
