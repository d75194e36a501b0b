import Redraw.Grid.Units
import Redraw.Plan.Brush
import Redraw.Plan.Diff
import Redraw.Proofs.Grid.Composition
import Redraw.Proofs.Plan.Pens

/-
  Steps: what a stroke covers, and what it leaves alone.

  A brush that follows the steps of a stroke ends as the pen
  ends.  On the way every text is that of whole units of the
  new screen, every erased end of a line is blank there, nothing
  is covered twice, and what is left alone needed no drawing.
  Strokes that sweep two parts of a screen sweep both when they
  are done one after another.

  Key definitions include:
    * `Line.Spells`: whole units of one style and their text
    * `Depicts`: a step that draws what a grid holds
    * `Stroke.steps`, `Stroke.areas`
    * `Stroke.Sweeps`: a stroke that redraws a part of a screen

  Main declarations:
    * `Stroke.Sweeps.andThen`, `Stroke.Sweeps.widen`
    * `Pen.sweeps_moveTo`, `Pen.sweeps_setStyle`
    * `Pen.sweeps_write`, `Pen.sweeps_erase`
-/

namespace Redraw

------------------------------------------------------------
-- Units and Their Text
------------------------------------------------------------

namespace Line

/- Whole units whose first halves have one style, and their text. -/
structure Spells
    (part : Line)
    (chars : List Char)
    (style : Style) : Prop where
  paired : part.Paired
  text : chars = part.text
  styled :
    ∀ cell ∈ part, cell.isContinuation = false → cell.style = style

theorem Spells.append
    {part more : Line}
    {chars added : List Char}
    {style : Style}
    (h : part.Spells chars style)
    (hMore : more.Spells added style) :
    Spells (part ++ more) (chars ++ added) style where
  paired := h.paired.append hMore.paired
  text := by
    rw [h.text, hMore.text]
    simp [Line.text]
  styled := by
    intro cell hCell
    rcases List.mem_append.mp hCell with hFirst | hLater
    · exact h.styled cell hFirst
    · exact hMore.styled cell hLater

theorem spells_narrow
    {cell : Cell}
    (hOne : cell.width = 1) :
    Spells [cell] cell.text cell.style where
  paired := .narrow hOne .nil
  text := by simp [Line.text]
  styled := by simp

/- The text of a pair stands in its first half. -/
theorem spells_pair
    {first second : Cell}
    (hWide : first.isWide = true)
    (hContinued : second.isContinuation = true) :
    Spells [first, second] first.text first.style where
  paired := .pair hWide hContinued .nil
  text := by
    rcases second with ⟨glyph, style⟩
    cases glyph <;>
      simp_all [Line.text, Cell.text, Cell.isContinuation]
  styled := by simp [hContinued]

end Line

------------------------------------------------------------
-- Steps Drawn Right
------------------------------------------------------------

namespace Op

/- Whether a step draws cells. -/
def draws : Op → Bool
  | .text _ _ => true
  | .eraseToEndOfLine => true
  | _ => false

/- Whether a step changes how the cursor is shown. -/
def dressesCursor : Op → Bool
  | .showCursor => true
  | .hideCursor => true
  | .setCursorShape _ => true
  | _ => false

end Op

/-
  A step that draws what a grid holds, when a brush does it.  A
  text is that of whole units at the brush, in its style and
  inside the line.  Erasing is done in the default style where
  the rest of the line is blank.
-/
inductive Depicts (g : Grid) : Brush × Op → Prop
  | text
      {p : Position}
      {style : Style}
      {line : Line}
      {chars : List Char}
      {width : Nat}
      (here : g.line? p.row = some line)
      (paired : line.Paired)
      (positive : 0 < width)
      (within : p.col + width ≤ g.cols)
      (spelled :
        Line.Spells ((line.drop p.col).take width) chars style) :
      Depicts g (⟨some p, style⟩, .text chars width)
  | erase
      {p : Position}
      {line : Line}
      (here : g.line? p.row = some line)
      (paired : line.Paired)
      (within : p.col < g.cols)
      (blank : ∀ cell ∈ line.drop p.col, cell.isBlank = true) :
      Depicts g (⟨some p, .default⟩, .eraseToEndOfLine)
  | other
      {b : Brush}
      {op : Op}
      (idle : op.draws = false) :
      Depicts g (b, op)

namespace Area

/- How many columns an area has. -/
def size (a : Area) : Nat :=
  a.stop - a.start

/- Two areas without a common position. -/
def Apart (a b : Area) : Prop :=
  ∀ p, a.Holds p → ¬ b.Holds p

/- Columns of a line up to a column and on from it. -/
theorem holds_split
    (row : Nat)
    {start mid stop : Nat}
    (hStart : start ≤ mid)
    (hStop : mid ≤ stop)
    (p : Position) :
    Holds ⟨row, start, stop⟩ p ↔
      Holds ⟨row, start, mid⟩ p ∨ Holds ⟨row, mid, stop⟩ p := by
  simp only [Holds]
  omega

theorem apart_split
    {row start mid stop : Nat} :
    Apart ⟨row, start, mid⟩ ⟨row, mid, stop⟩ := by
  intro p h
  simp only [Holds] at h ⊢
  omega

/- A step that draws nothing covers nothing. -/
theorem ofStep?_of_idle
    {op : Op}
    (h : op.draws = false)
    (cols : Nat)
    (b : Brush) :
    ofStep? cols (b, op) = none := by
  cases op <;> first | rfl | cases h

end Area

------------------------------------------------------------
-- Following Strokes
------------------------------------------------------------

namespace Brush

theorem afterAll_append
    (cols : Nat)
    (b : Brush)
    (ops later : List Op) :
    b.afterAll cols (ops ++ later) =
      (b.afterAll cols ops).afterAll cols later := by
  simp [afterAll]

theorem follow_append
    (cols : Nat)
    (b : Brush)
    (ops later : List Op) :
    b.follow cols (ops ++ later) =
      b.follow cols ops
        ++ (b.afterAll cols ops).follow cols later := by
  induction ops generalizing b with
  | nil => rfl
  | cons op ops ih =>
      simp only [List.cons_append, follow, ih]
      rfl

end Brush

/- A pen as a brush. -/
def Pen.brush (pen : Pen) : Brush :=
  ⟨pen.position, pen.style⟩

namespace Stroke

/- Each step of a stroke with the brush that does it. -/
def steps
    (cols : Nat)
    (pen : Pen)
    (stroke : Stroke) : List (Brush × Op) :=
  pen.brush.follow cols stroke.ops

/- What the steps of a stroke cover, in order. -/
def areas
    (cols : Nat)
    (pen : Pen)
    (stroke : Stroke) : List Area :=
  (stroke.steps cols pen).filterMap (Area.ofStep? cols)

/-
  A stroke redraws a part of a screen: each step draws what the
  new grid holds, no position is covered twice, and those of
  the part that are not covered are equal in both grids.
-/
structure Sweeps
    (prev curr : Grid)
    (part : Position → Prop)
    (pen : Pen)
    (stroke : Stroke) : Prop where
  ends : pen.brush.afterAll curr.cols stroke.ops = stroke.pen.brush
  bare : ∀ op ∈ stroke.ops, op.dressesCursor = false
  drawn : ∀ step ∈ stroke.steps curr.cols pen, Depicts curr step
  inside :
    ∀ a ∈ stroke.areas curr.cols pen, ∀ p, a.Holds p → part p
  apart : (stroke.areas curr.cols pen).Pairwise Area.Apart
  left :
    ∀ p, part p →
      (∀ a ∈ stroke.areas curr.cols pen, ¬ a.Holds p) →
        curr.cell? p.row p.col = prev.cell? p.row p.col
  counted :
    stroke.cells =
      ((stroke.areas curr.cols pen).map Area.size).sum

variable {prev curr : Grid}
variable {part later whole : Position → Prop}
variable {pen : Pen}
variable {stroke : Stroke}

theorem steps_andThen
    {cols : Nat}
    (h : pen.brush.afterAll cols stroke.ops = stroke.pen.brush)
    (next : Pen → Stroke) :
    (stroke.andThen next).steps cols pen =
      stroke.steps cols pen
        ++ (next stroke.pen).steps cols stroke.pen := by
  rw [steps, steps, steps, ← h]
  exact Brush.follow_append cols pen.brush _ _

/- Two parts are redrawn one after the other. -/
theorem Sweeps.andThen
    {next : Pen → Stroke}
    (h : stroke.Sweeps prev curr part pen)
    (hNext : (next stroke.pen).Sweeps prev curr later stroke.pen)
    (hApart : ∀ p, part p → ¬ later p)
    (hWhole : ∀ p, whole p ↔ part p ∨ later p) :
    (stroke.andThen next).Sweeps prev curr whole pen := by
  have hSteps := steps_andThen h.ends next
  have hAreas :
      (stroke.andThen next).areas curr.cols pen =
        stroke.areas curr.cols pen
          ++ (next stroke.pen).areas curr.cols stroke.pen := by
    rw [areas, hSteps, List.filterMap_append]
    rfl
  constructor
  case ends =>
    change
      pen.brush.afterAll _ (stroke.ops ++ (next stroke.pen).ops) = _
    rw [Brush.afterAll_append, h.ends]
    exact hNext.ends
  case bare =>
    intro op hop
    rcases List.mem_append.mp hop with hNow | hLater
    · exact h.bare op hNow
    · exact hNext.bare op hLater
  case drawn =>
    rw [hSteps]
    intro step hStep
    rcases List.mem_append.mp hStep with hNow | hLater
    · exact h.drawn step hNow
    · exact hNext.drawn step hLater
  case inside =>
    rw [hAreas]
    intro a ha p hp
    rw [hWhole]
    rcases List.mem_append.mp ha with hNow | hLater
    · exact Or.inl (h.inside a hNow p hp)
    · exact Or.inr (hNext.inside a hLater p hp)
  case apart =>
    rw [hAreas, List.pairwise_append]
    refine ⟨h.apart, hNext.apart, fun a ha b hb p hp hq => ?_⟩
    exact hApart p (h.inside a ha p hp) (hNext.inside b hb p hq)
  case left =>
    rw [hAreas]
    intro p hp hFree
    rcases (hWhole p).mp hp with hNow | hLater
    · exact
        h.left p hNow fun a ha =>
          hFree a (List.mem_append_left _ ha)
    · exact
        hNext.left p hLater fun a ha =>
          hFree a (List.mem_append_right _ ha)
  case counted =>
    rw [hAreas, List.map_append, List.sum_append, ← h.counted,
      ← hNext.counted]
    rfl

/- A part that is redrawn, with what is equal around it. -/
theorem Sweeps.widen
    (h : stroke.Sweeps prev curr part pen)
    (hPart : ∀ p, part p → whole p)
    (hSame :
      ∀ p, whole p → ¬ part p →
        curr.cell? p.row p.col = prev.cell? p.row p.col) :
    stroke.Sweeps prev curr whole pen :=
  { h with
    inside := fun a ha p hp => hPart p (h.inside a ha p hp)
    left := by
      intro p hp hFree
      by_cases hInside : part p
      · exact h.left p hInside hFree
      · exact hSame p hp hInside }

/- A stroke that covers nothing and gets the pen ready. -/
abbrev Readies
    (prev curr : Grid)
    (pen : Pen)
    (stroke : Stroke) : Prop :=
  stroke.Sweeps prev curr (fun _ => False) pen

theorem Readies.andThen
    {next : Pen → Stroke}
    (h : stroke.Readies prev curr pen)
    (hNext : (next stroke.pen).Sweeps prev curr part stroke.pen) :
    (stroke.andThen next).Sweeps prev curr part pen :=
  Sweeps.andThen h hNext (fun _ hNone => hNone.elim)
    (fun _ => (false_or _).symm ▸ Iff.rfl)

theorem Sweeps.andThen_readies
    {next : Pen → Stroke}
    (h : stroke.Sweeps prev curr part pen)
    (hNext : (next stroke.pen).Readies prev curr stroke.pen) :
    (stroke.andThen next).Sweeps prev curr part pen :=
  Sweeps.andThen h hNext (fun _ _ hNone => hNone)
    (fun _ => (or_false _).symm ▸ Iff.rfl)

end Stroke

------------------------------------------------------------
-- Single Steps
------------------------------------------------------------

namespace Pen

variable {prev curr : Grid}
variable {part : Position → Prop}
variable {row col width : Nat}
variable {line : Line}

/- What is equal in both grids needs no drawing. -/
theorem sweeps_rest
    (pen : Pen)
    (hSame :
      ∀ p, part p →
        curr.cell? p.row p.col = prev.cell? p.row p.col) :
    pen.rest.Sweeps prev curr part pen where
  ends := rfl
  bare := List.forall_mem_nil _
  drawn := List.forall_mem_nil _
  inside := List.forall_mem_nil _
  apart := List.Pairwise.nil
  left := fun p hp _ => hSame p hp
  counted := rfl

/- A step that draws nothing gets the pen ready. -/
theorem readies_add
    (pen : Pen)
    {op : Op}
    {ready : Pen}
    (hIdle : op.draws = false)
    (hBare : op.dressesCursor = false)
    (hReady : pen.brush.after curr.cols op = ready.brush) :
    (ready.add op).Readies prev curr pen := by
  have hAreas : (ready.add op).areas curr.cols pen = [] := by
    simp only [Stroke.areas, Stroke.steps, add, Brush.follow,
      List.filterMap_cons,
      Area.ofStep?_of_idle hIdle, List.filterMap_nil]
  refine ⟨hReady, ?_, ?_, ?_, ?_, nofun, ?_⟩
  · intro op' hop
    rw [List.mem_singleton.mp hop]
    exact hBare
  · intro step hStep
    rw [List.mem_singleton.mp hStep]
    exact .other hIdle
  · rw [hAreas]
    exact nofun
  · rw [hAreas]
    exact List.Pairwise.nil
  · rw [hAreas]
    rfl

theorem sweeps_moveTo
    (pen : Pen)
    (target : Position) :
    (pen.moveTo target).Readies prev curr pen := by
  unfold moveTo
  split
  · exact pen.sweeps_rest nofun
  · exact pen.readies_add rfl rfl rfl

theorem sweeps_setStyle
    (pen : Pen)
    (style : Style) :
    (pen.setStyle style).Readies prev curr pen := by
  unfold setStyle
  split
  · exact pen.sweeps_rest nofun
  · exact pen.readies_add rfl rfl rfl

/- The pen is moved and its style is changed before it draws. -/
theorem readies_at
    (pen : Pen)
    (target : Position)
    (style : Style) :
    ((pen.moveTo target).andThen (setStyle style)).Readies
      prev curr pen :=
  (pen.sweeps_moveTo target).andThen (sweeps_setStyle _ style)

/- A single step that draws covers the columns it draws. -/
theorem sweeps_single
    {pen after : Pen}
    {op : Op}
    {a : Area}
    (hDepicts : Depicts curr (pen.brush, op))
    (hBare : op.dressesCursor = false)
    (hArea : Area.ofStep? curr.cols (pen.brush, op) = some a)
    (hAfter : pen.brush.after curr.cols op = after.brush) :
    Stroke.Sweeps prev curr a.Holds pen ⟨[op], a.size, after⟩ := by
  have hAreas :
      Stroke.areas curr.cols pen ⟨[op], a.size, after⟩ = [a] := by
    simp only [Stroke.areas, Stroke.steps, Brush.follow,
      List.filterMap_cons, hArea, List.filterMap_nil]
  refine ⟨hAfter, ?_, ?_, ?_, ?_, ?_, ?_⟩
  · intro op' hop
    rw [List.mem_singleton.mp hop]
    exact hBare
  · intro step hStep
    rw [List.mem_singleton.mp hStep]
    exact hDepicts
  · rw [hAreas]
    intro b hb p hp
    rw [← List.mem_singleton.mp hb]
    exact hp
  · rw [hAreas]
    exact List.pairwise_singleton _ _
  · rw [hAreas]
    intro p hp hFree
    exact absurd hp (hFree a (List.mem_singleton_self a))
  · rw [hAreas]
    simp

/- A text covers the units that it spells. -/
theorem sweeps_write
    {chars : List Char}
    {style : Style}
    (hLine : curr.line? row = some line)
    (hPaired : line.Paired)
    (hSome : 0 < width)
    (hWithin : col + width ≤ curr.cols)
    (hSpelled :
      Line.Spells ((line.drop col).take width) chars style) :
    (write curr.cols ⟨row, col⟩ chars width
        ⟨some ⟨row, col⟩, style⟩).Sweeps prev curr
      (Area.Holds ⟨row, col, col + width⟩)
      ⟨some ⟨row, col⟩, style⟩ := by
  have hSize : Area.size ⟨row, col, col + width⟩ = width :=
    Nat.add_sub_cancel_left col width
  have hStroke :
      write curr.cols ⟨row, col⟩ chars width
          ⟨some ⟨row, col⟩, style⟩ =
        ⟨[.text chars width], Area.size ⟨row, col, col + width⟩,
          ⟨if curr.cols ≤ col + width then none
            else some ⟨row, col + width⟩, style⟩⟩ := by
    rw [hSize]
    rfl
  rw [hStroke]
  refine
    sweeps_single
      (.text hLine hPaired hSome hWithin hSpelled) rfl rfl ?_
  simp only [Brush.after, brush, Brush.mk.injEq, and_true]
  by_cases hEnd : curr.cols ≤ col + width
  · rw [if_pos hEnd, if_neg (by omega)]
  · rw [if_neg hEnd, if_pos (by omega)]

/- Erasing covers the line from the pen to its end. -/
theorem sweeps_erase
    (pen : Pen)
    (hLine : curr.line? row = some line)
    (hPaired : line.Paired)
    (hWithin : col < curr.cols)
    (hBlank : ∀ cell ∈ line.drop col, cell.isBlank = true) :
    (pen.erase curr.cols ⟨row, col⟩).Sweeps prev curr
      (Area.Holds ⟨row, col, curr.cols⟩) pen := by
  refine (pen.readies_at ⟨row, col⟩ .default).andThen ?_
  have hPen :
      ((pen.moveTo ⟨row, col⟩).andThen (setStyle .default)).pen =
        ⟨some ⟨row, col⟩, .default⟩ := by
    simp
  rw [hPen]
  exact
    sweeps_single (a := ⟨row, col, curr.cols⟩)
      (.erase hLine hPaired hWithin hBlank) rfl rfl rfl

end Pen

end Redraw
