import Redraw.Plan

/-
  Following a plan: where each step is done, in which style,
  and what it covers.

  A brush is known by the steps before it alone.  It is lost
  after a text that reaches the last column, since terminals
  wrap late.

  Key definitions include:
    * `Brush`, `Brush.after`
    * `Area`: columns of one line
    * `Plan.strokes`: each step with the brush that does it
    * `Plan.areas`, `Plan.Covers`
-/

namespace Redraw

------------------------------------------------------------
-- Brushes
------------------------------------------------------------

/- Where the next step is done, if that is known, and how. -/
structure Brush where
  position : Option Position
  style : Style
  deriving DecidableEq

namespace Brush

/- The brush after a step on a screen of so many columns. -/
def after
    (cols : Nat)
    (b : Brush) :
    Op → Brush
  | .moveTo target => { b with position := some target }
  | .setStyle style => { b with style := style }
  | .clearScreen => { b with style := .default }
  | .text _ width =>
      { b with
        position :=
          match b.position with
          | none => none
          | some p =>
              if p.col + width < cols then
                some ⟨p.row, p.col + width⟩
              else none }
  | _ => b

/- The brush after some steps. -/
def afterAll
    (cols : Nat)
    (b : Brush)
    (ops : List Op) : Brush :=
  ops.foldl (after cols) b

/- Each step with the brush that does it. -/
def follow
    (cols : Nat)
    (b : Brush) :
    List Op → List (Brush × Op)
  | [] => []
  | op :: later => (b, op) :: follow cols (b.after cols op) later

end Brush

------------------------------------------------------------
-- Areas
------------------------------------------------------------

/- The columns of a line from `start` up to, not with, `stop`. -/
structure Area where
  row : Nat
  start : Nat
  stop : Nat
  deriving DecidableEq

namespace Area

/- Whether an area holds a position. -/
def Holds
    (a : Area)
    (p : Position) : Prop :=
  a.row = p.row ∧ a.start ≤ p.col ∧ p.col < a.stop

instance
    (a : Area)
    (p : Position) :
    Decidable (a.Holds p) := by
  unfold Holds
  infer_instance

/- What a step covers when a brush does it. -/
def ofStep?
    (cols : Nat) :
    Brush × Op → Option Area
  | (b, .text _ width) =>
      b.position.map fun p => ⟨p.row, p.col, p.col + width⟩
  | (b, .eraseToEndOfLine) =>
      b.position.map fun p => ⟨p.row, p.col, cols⟩
  | _ => none

end Area

namespace Plan

/- The brush that a plan starts with. -/
def brush (p : Plan) : Brush :=
  ⟨p.origin, .default⟩

/- Each step of a plan with the brush that does it. -/
def strokes (p : Plan) : List (Brush × Op) :=
  p.brush.follow p.cols p.ops

/- What the steps of a plan cover, in order. -/
def areas (p : Plan) : List Area :=
  p.strokes.filterMap (Area.ofStep? p.cols)

/- Whether a plan draws a position. -/
def Covers
    (p : Plan)
    (position : Position) : Prop :=
  ∃ a ∈ p.areas, a.Holds position

end Plan

end Redraw
