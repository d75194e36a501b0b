import Redraw.Panes.Drawing

/-
  Drawing: no column of the screen is out of range.

  A bar is at most as long as the columns that are left for it,
  so what stands behind it is still within sixteen bits.

  Key definitions include:
    * `Levels`: shares of levels between nothing and all
    * `Levels.half`: the same level in every row

  Main declarations:
    * `Meter.draw?_eq`
    * `Compositor.compose?_eq`
-/

namespace Redraw

/- Shares of levels between nothing and all: never over a whole. -/
structure Levels where
  shares : Shares
  le_whole : ∀ row whole, shares row whole ≤ whole

/- Every row half way up. -/
def Levels.half : Levels where
  shares _ whole := whole / 2
  le_whole _ whole := Nat.div_le_self whole 2

/- If each step has a result, all of them have. -/
theorem foldlM_eq_some_foldl
    {A B : Type}
    {step? : B → A → Option B}
    {step : B → A → B}
    {items : List A}
    (h : ∀ item ∈ items, ∀ b, step? b item = some (step b item))
    (b : B) :
    items.foldlM step? b = some (items.foldl step b) := by
  induction items generalizing b with
  | nil => rfl
  | cons item rest ih =>
      rw [List.forall_mem_cons] at h
      rw [List.foldlM_cons, h.1, List.foldl_cons]
      exact ih h.2 (step b item)

theorem columnSum?_of_le
    {a b : Nat}
    (h : a + b ≤ maxColumn) :
    columnSum? a b = some (a + b) :=
  if_pos h

variable (levels : Levels)

namespace Meter

theorem drawBar?_eq
    (bar : Cell)
    (row : Nat)
    {count : Nat}
    (hCount : count + 6 ≤ maxColumn)
    (g : Grid) :
    drawBar? bar row count g =
      some ((List.range count).foldl
        (fun g i => g.set row (6 + i) bar) g) := by
  apply foldlM_eq_some_foldl
  intro i hi g
  have hInside := List.mem_range.mp hi
  rw [columnSum?_of_le (by omega)]
  rfl

theorem drawRow?_eq
    {width : Nat}
    (hWidth : width + 7 ≤ maxColumn)
    (g : Grid)
    (row : Nat) :
    drawRow? levels.shares width g row =
      some (drawRow levels.shares width g row) := by
  have hCount := levels.le_whole row width
  rw [drawRow?, drawBar?_eq _ row (by omega),
    columnSum?_of_le (by omega)]
  rfl

/- Every row of a meter is drawn. -/
theorem draw?_eq
    (rows : Nat)
    {cols : Nat}
    (hCols : cols < maxColumn) :
    draw? levels.shares rows cols =
      some (draw levels.shares rows cols) := by
  have hMost : maxColumn = 65535 := rfl
  apply foldlM_eq_some_foldl
  intro row _ g
  exact drawRow?_eq levels (by omega) g row

end Meter

namespace Compositor

theorem draw?_eq
    {l : Layout}
    (hCols : l.cols ≤ maxColumn)
    (log : Log)
    (committed tenths : Nat) :
    draw? l log levels.shares committed tenths =
      some (draw l log levels.shares committed tenths) := by
  have hMost : maxColumn = 65535 := rfl
  have hLeft : l.left = l.cols / 2 := rfl
  rw [draw?, columnSum?_of_le (by omega), Option.bind_eq_bind,
    Option.bind_some, Meter.draw?_eq levels l.body (by omega)]
  rfl

/- There is a next screen. -/
theorem compose?_eq
    (c : Compositor)
    {l : Layout}
    (hCols : l.cols ≤ maxColumn)
    (tenths : Nat) :
    c.compose? l levels.shares tenths =
      some
        (draw l (c.tick l).log levels.shares c.committed tenths,
          c.tick l) := by
  rw [compose?, draw?_eq levels hCols]
  rfl

end Compositor

end Redraw
