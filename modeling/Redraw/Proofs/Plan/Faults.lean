import Redraw.Proofs.Grid.Composition
import Redraw.Proofs.Plan.Screens

/-
  Faults: why a screen is refused.

  Between screens of one size only an unpaired half of a wide
  character stands in the way of a plan.  Lines that are equal
  are not checked, so a plan shows that its screen is valid
  only if the one before was.

  Key definitions include:
    * `Error.IsPairing`
    * `OnlyFails`: the errors that a computation may end in

  Main declarations:
    * `Plan.onlyFails_diffGrids`, `Plan.onlyFails_repaint`
    * `Plan.validate_of_diffGrids`, `Plan.validate_of_repaint`
-/

namespace Redraw

/- An unpaired half of a wide character. -/
def Error.IsPairing (e : Error) : Prop :=
  ∃ row col, e = .invalidWideCharPairing row col

/- Every error that a computation ends in is of a kind. -/
def OnlyFails
    {ε α : Type}
    (P : ε → Prop)
    (x : Except ε α) : Prop :=
  ∀ e, x = .error e → P e

section

variable {ε α β : Type}
variable {P : ε → Prop}

theorem onlyFails_ok
    (a : α) :
    OnlyFails P (.ok a : Except ε α) := by
  intro e h
  cases h

theorem OnlyFails.bind
    {first : Except ε α}
    {next : α → Except ε β}
    (hFirst : OnlyFails P first)
    (hNext : ∀ a, OnlyFails P (next a)) :
    OnlyFails P (first >>= next) := by
  cases first with
  | error e =>
      intro e' h
      cases h
      exact hFirst e rfl
  | ok a => exact hNext a

end

------------------------------------------------------------
-- Refusals
------------------------------------------------------------

/- An unpaired half of a wide character is what is wrong. -/
theorem onlyFails_pairing
    {α : Type}
    (row col : Nat) :
    OnlyFails Error.IsPairing
      (.error (.invalidWideCharPairing row col) : Except Error α) := by
  intro e h
  cases h
  exact ⟨row, col, rfl⟩

theorem Line.onlyFails_check
    (line : Line)
    (row : Nat) :
    OnlyFails Error.IsPairing (line.check row) := by
  unfold check
  cases line.pairingFault? with
  | none => exact onlyFails_ok ()
  | some col => exact onlyFails_pairing row col

theorem onlyFails_changedUnits
    (row col : Nat)
    (curr prev : Line) :
    OnlyFails Error.IsPairing (changedUnits row col curr prev) := by
  fun_induction changedUnits row col curr prev with
  | case1 => assumption
  | case2 => exact onlyFails_pairing _ _
  | case3 _ _ _ _ _ _ _ _ _ ih =>
      exact ih.bind fun later => onlyFails_ok _
  | case4 => exact onlyFails_ok _
  | case5 => assumption
  | case6 _ _ _ _ _ _ _ ih =>
      exact ih.bind fun later => onlyFails_ok _
  | case7 => exact onlyFails_ok _

theorem onlyFails_changedSpans
    (row : Nat)
    (prev curr : Line) :
    OnlyFails Error.IsPairing (changedSpans row prev curr) := by
  apply (onlyFails_changedUnits row 0 curr prev).bind
  intro units
  cases units <;> exact onlyFails_ok _

namespace Pen

theorem onlyFails_drawLine
    (cols row : Nat)
    (prev curr : Line)
    (pen : Pen) :
    OnlyFails Error.IsPairing (pen.drawLine cols row prev curr) := by
  apply (prev.onlyFails_check row).bind
  intro _
  apply (curr.onlyFails_check row).bind
  intro _
  apply (onlyFails_changedSpans row prev curr).bind
  intro spans
  exact onlyFails_ok _

theorem onlyFails_drawLines
    (cols row : Nat)
    (prevs currs : List Line)
    (pen : Pen) :
    OnlyFails Error.IsPairing
      (drawLines cols row prevs currs pen) := by
  fun_induction drawLines cols row prevs currs pen with
  | case1 _ _ _ _ _ ih => exact ih.bind fun later => onlyFails_ok _
  | case2 row prev prevs curr currs pen hSame ih =>
      apply (pen.onlyFails_drawLine cols row prev curr).bind
      intro drawn
      exact (ih drawn).bind fun later => onlyFails_ok _
  | case3 => exact onlyFails_ok _

/-
  By the lines: an equal line is as valid as the one before,
  and any other is checked.
-/
theorem paired_of_drawLines
    {cols row : Nat}
    {prevs currs : List Line}
    (hLength : prevs.length = currs.length)
    (hPrevs : ∀ line ∈ prevs, line.Paired)
    {pen : Pen}
    {stroke : Stroke}
    {equal : Nat}
    (h :
      drawLines cols row prevs currs pen = .ok (stroke, equal)) :
    ∀ line ∈ currs, line.Paired := by
  induction currs generalizing row prevs pen stroke equal with
  | nil => simp
  | cons curr currs ih =>
      cases prevs with
      | nil => cases hLength
      | cons prev prevs =>
          rw [List.forall_mem_cons] at hPrevs ⊢
          have hBelow := Nat.succ.inj hLength
          rcases drawLines_cons_eq_ok h with
            ⟨rfl, n, -, hRest⟩ | ⟨-, drawn, later, hDrawn, hRest, -⟩
          · exact ⟨hPrevs.1, ih hBelow hPrevs.2 hRest⟩
          · exact
              ⟨(drawLine_eq_ok hDrawn).2.1,
                ih hBelow hPrevs.2 hRest⟩

end Pen

------------------------------------------------------------
-- Plans
------------------------------------------------------------

/- A grid without cells has nothing to part. -/
theorem Grid.validate_of_isEmpty
    {g : Grid}
    (h : g.isEmpty = true) :
    g.validate = .ok () := by
  apply g.validate_eq_ok_iff.mpr
  intro line hLine
  simp only [isEmpty, Bool.or_eq_true, decide_eq_true_eq] at h
  rcases h with hRows | hCols
  · have hNone := List.length_eq_zero_iff.mp
      (g.lines_length.trans hRows)
    simp [hNone] at hLine
  · have hNil : line = [] :=
      List.length_eq_zero_iff.mp
        ((g.line_length line hLine).trans hCols)
    rw [hNil]
    exact .nil

theorem Grid.validate_blank
    (rows cols : Nat) :
    (blank rows cols).validate = .ok () :=
  (Composed.blank rows cols).valid

namespace Plan

/- Screens of one size are refused for their halves only. -/
theorem onlyFails_diffGrids
    {prev curr : Grid}
    (hSize : prev.size = curr.size)
    (belief : Belief) :
    OnlyFails Error.IsPairing (diffGrids prev curr belief) := by
  unfold diffGrids
  rw [if_neg (not_not.mpr hSize)]
  split
  · exact onlyFails_ok _
  · apply (Pen.onlyFails_drawLines _ 0 _ _ _).bind
    intro drawn
    exact onlyFails_ok _

theorem onlyFails_repaint
    (curr : Snapshot) :
    OnlyFails Error.IsPairing (repaint curr) := by
  have hSize :
      (Grid.blank curr.grid.rows curr.grid.cols).size =
        curr.grid.size := rfl
  exact (onlyFails_diffGrids hSize .unknown).bind fun inner =>
    onlyFails_ok _

/-
  What is drawn over a valid screen is valid, though lines that
  are equal are not checked.
-/
theorem validate_of_diffGrids
    {prev curr : Grid}
    {belief : Belief}
    {plan : Plan}
    (hPrev : prev.validate = .ok ())
    (h : diffGrids prev curr belief = .ok plan) :
    curr.validate = .ok () := by
  cases hEmpty : curr.isEmpty with
  | true => exact Grid.validate_of_isEmpty hEmpty
  | false =>
      rcases diffGrids_eq_ok hEmpty h with
        ⟨hSize, lines, equal, hLines, -⟩
      exact curr.validate_eq_ok_iff.mpr
        (Pen.paired_of_drawLines (Grid.lines_of_size hSize).1
          (prev.validate_eq_ok_iff.mp hPrev) hLines)

theorem validate_of_repaint
    {curr : Snapshot}
    {plan : Plan}
    (h : repaint curr = .ok plan) :
    curr.grid.validate = .ok () := by
  rcases repaint_eq_ok h with ⟨inner, hInner, -⟩
  exact validate_of_diffGrids (Grid.validate_blank _ _) hInner

end Plan

end Redraw
