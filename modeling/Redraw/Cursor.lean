/-
  The cursor: where it stands and how it is shown.

  Key definitions include:
    * `Position`
    * `CursorShape`
    * `Cursor`
-/

namespace Redraw

/- A cell of a screen, counted from zero. -/
structure Position where
  row : Nat
  col : Nat
  deriving DecidableEq, Repr

namespace Position

/- A position in words. -/
def describe (p : Position) : String :=
  "(" ++ toString p.row ++ ", " ++ toString p.col ++ ")"

end Position

/- How the cursor is drawn. -/
inductive CursorShape
  | default
  | blinkBlock
  | steadyBlock
  | blinkUnderline
  | steadyUnderline
  | blinkBar
  | steadyBar
  deriving DecidableEq, Repr

namespace CursorShape

/- The number of a shape in its escape sequence. -/
def param : CursorShape → Nat
  | .default => 0
  | .blinkBlock => 1
  | .steadyBlock => 2
  | .blinkUnderline => 3
  | .steadyUnderline => 4
  | .blinkBar => 5
  | .steadyBar => 6

/- The shape with a number; unknown numbers are the default. -/
def ofParam : Nat → CursorShape
  | 1 => .blinkBlock
  | 2 => .steadyBlock
  | 3 => .blinkUnderline
  | 4 => .steadyUnderline
  | 5 => .blinkBar
  | 6 => .steadyBar
  | _ => .default

/- The name of a shape. -/
def name : CursorShape → String
  | .default => "Default"
  | .blinkBlock => "BlinkBlock"
  | .steadyBlock => "SteadyBlock"
  | .blinkUnderline => "BlinkUnderline"
  | .steadyUnderline => "SteadyUnderline"
  | .blinkBar => "BlinkBar"
  | .steadyBar => "SteadyBar"

/- A shape is found again by its number. -/
theorem ofParam_param
    (s : CursorShape) :
    ofParam s.param = s := by
  cases s <;> rfl

end CursorShape

/- Where the cursor is shown, and how. -/
structure Cursor where
  row : Nat := 0
  col : Nat := 0
  visible : Bool := true
  shape : CursorShape := .default
  deriving DecidableEq, Repr

namespace Cursor

/- Where the cursor stands. -/
def position (c : Cursor) : Position :=
  ⟨c.row, c.col⟩

/- The cursor moved into a screen of the given extent. -/
def clamp
    (c : Cursor)
    (rows cols : Nat) : Cursor :=
  { c with row := min c.row (rows - 1), col := min c.col (cols - 1) }

/- A cursor that was moved inside stays where it is. -/
theorem clamp_clamp
    (c : Cursor)
    (rows cols : Nat) :
    (c.clamp rows cols).clamp rows cols = c.clamp rows cols := by
  simp [clamp]

/- A cursor in words. -/
def describe (c : Cursor) : String :=
  "Cursor \x7b row: " ++ toString c.row
    ++ ", col: " ++ toString c.col
    ++ ", visible: " ++ toString c.visible
    ++ ", shape: " ++ c.shape.name ++ " \x7d"

end Cursor

end Redraw
