import Redraw.Proofs.Plan.Spans

/-
  Frays: pairs of which the second half alone has changed.

  The text of a pair stands in its first half, so that such a
  pair has nothing to be drawn.  Comparing two lines fails just
  when there is one, and reports the first.

  Key definitions include:
    * `Line.FraysAt`, `Line.FraysFirst`

  Main declarations:
    * `changedUnits_eq_error_iff`
    * `changedSpans_eq_error_iff`
-/

namespace Redraw

/- A computation that fails did so in one of its parts. -/
theorem bind_eq_error_iff
    {ε α β : Type}
    {first : Except ε α}
    {next : α → Except ε β}
    {e : ε} :
    (first >>= next) = .error e ↔
      first = .error e ∨ ∃ a, first = .ok a ∧ next a = .error e := by
  cases first with
  | error e' => simp [bind, Except.bind]
  | ok a => simp [bind, Except.bind]

/- A last part that cannot fail does not matter. -/
theorem bind_ok_eq_error_iff
    {ε α β : Type}
    {first : Except ε α}
    {next : α → Except ε β}
    {e : ε}
    (hNext : ∀ a, ∃ b, next a = .ok b) :
    (first >>= next) = .error e ↔ first = .error e := by
  rw [bind_eq_error_iff]
  refine ⟨fun h => h.resolve_right ?_, Or.inl⟩
  rintro ⟨a, -, hError⟩
  rcases hNext a with ⟨b, hOk⟩
  rw [hOk] at hError
  cases hError

------------------------------------------------------------
-- Frayed Pairs
------------------------------------------------------------

namespace Line

/-
  The first half of a pair is the same in two lines, and what
  follows it is not.
-/
def FraysAt
    (old new : Line)
    (col : Nat) : Prop :=
  ∃ cell, cell.isWide = true ∧
    new.cell? col = some cell ∧ old.cell? col = some cell ∧
      new.cell? (col + 1) ≠ old.cell? (col + 1)

/- The first such pair from a column on. -/
structure FraysFirst
    (old new : Line)
    (start col : Nat) : Prop where
  after : start ≤ col
  frays : old.FraysAt new col
  first : ∀ c, start ≤ c → c < col → ¬ old.FraysAt new c

variable {old new : Line}
variable {col : Nat}
variable {cell : Cell}

/- A pair starts with a wide cell. -/
theorem not_fraysAt_of_narrow
    (hCell : new.cell? col = some cell)
    (hNarrow : cell.isWide = false) :
    ¬ old.FraysAt new col := by
  rintro ⟨lead, hWide, hNew, -⟩
  rw [hCell] at hNew
  rw [← Option.some.inj hNew, hNarrow] at hWide
  cases hWide

/- A first half that differs is drawn with the second. -/
theorem not_fraysAt_of_ne
    {before : Cell}
    (hCell : new.cell? col = some cell)
    (hBefore : old.cell? col = some before)
    (hDiffer : cell ≠ before) :
    ¬ old.FraysAt new col := by
  rintro ⟨lead, -, hNew, hOld, -⟩
  rw [hCell] at hNew
  rw [hBefore] at hOld
  exact hDiffer
    ((Option.some.inj hNew).trans (Option.some.inj hOld).symm)

/- A column without such a pair can be passed over. -/
theorem exists_fraysFirst_succ
    {P : Nat → Prop}
    (hWhole : ¬ old.FraysAt new col) :
    (∃ c, old.FraysFirst new (col + 1) c ∧ P c) ↔
      ∃ c, old.FraysFirst new col c ∧ P c := by
  refine exists_congr fun c => and_congr_left' ⟨?_, ?_⟩
  · intro h
    refine ⟨Nat.le_of_succ_le h.after, h.frays, fun d hd hBefore => ?_⟩
    rcases Nat.eq_or_lt_of_le hd with rfl | hAfter
    · exact hWhole
    · exact h.first d hAfter hBefore
  · intro h
    have hOther : col ≠ c := by
      rintro rfl
      exact hWhole h.frays
    exact
      ⟨Nat.lt_of_le_of_ne h.after hOther, h.frays,
        fun d hd => h.first d (Nat.le_of_succ_le hd)⟩

end Line

------------------------------------------------------------
-- Comparing Lines
------------------------------------------------------------

/-
  Comparing fails at the first frayed pair.  By the units of the
  new line: each is passed over whole, so that no second half is
  taken for a first one.
-/
theorem changedUnits_eq_error_iff
    {row col : Nat}
    {prev curr now before : Line}
    (hNow : curr.drop col = now)
    (hBefore : prev.drop col = before)
    (hLength : now.length = before.length)
    (hPaired : Line.Paired now)
    {e : Error} :
    changedUnits row col now before = .error e ↔
      ∃ c, prev.FraysFirst curr col c ∧
        e = .invalidWideCharPairing row (c + 1) := by
  fun_induction changedUnits row col now before with
  | case1 col old now tail before hWide ih =>
      rcases hPaired.of_wide hWide with ⟨hContinued, hMore⟩
      rcases Line.drop_succ hNow with ⟨hCell, hNext⟩
      rcases Line.drop_succ hBefore with ⟨hOld, hOldNext⟩
      rcases Line.drop_succ hNext with ⟨hTail, hRest⟩
      rcases Line.drop_succ hOldNext with ⟨hOldTail, hOldRest⟩
      have hFirst : ¬ prev.FraysAt curr col := by
        rintro ⟨lead, -, -, -, hTails⟩
        exact hTails (hTail.trans hOldTail.symm)
      have hSecond : ¬ prev.FraysAt curr (col + 1) :=
        Line.not_fraysAt_of_narrow hTail
          (Cell.isWide_of_isContinuation hContinued)
      rw [ih hRest hOldRest (by simpa using hLength) hMore]
      exact
        (Line.exists_fraysFirst_succ hSecond).trans
          (Line.exists_fraysFirst_succ hFirst)
  | case2 col old tail now oldTail before hDiffer hWide =>
      rcases Line.drop_succ hNow with ⟨hCell, hNext⟩
      rcases Line.drop_succ hBefore with ⟨hOld, hOldNext⟩
      have hTail := (Line.drop_succ hNext).1
      have hOldTail := (Line.drop_succ hOldNext).1
      have hFrays : prev.FraysAt curr col := by
        refine ⟨old, hWide, hCell, hOld, ?_⟩
        rw [hTail, hOldTail]
        exact fun hSame => hDiffer (Option.some.inj hSame)
      constructor
      · intro h
        cases h
        exact
          ⟨col, ⟨Nat.le_refl col, hFrays,
            fun c hc hLess => absurd hLess (Nat.not_lt.mpr hc)⟩, rfl⟩
      · rintro ⟨c, hFirst, rfl⟩
        have hHere : c ≤ col :=
          Nat.le_of_not_lt fun hLater =>
            hFirst.first col (Nat.le_refl col) hLater hFrays
        rw [Nat.le_antisymm hHere hFirst.after]
  | case3 col cell old hWide tail now oldTail before hDiffer ih =>
      rcases hPaired.of_wide hWide with ⟨hContinued, hMore⟩
      rcases Line.drop_succ hNow with ⟨hCell, hNext⟩
      rcases Line.drop_succ hBefore with ⟨hOld, hOldNext⟩
      rcases Line.drop_succ hNext with ⟨hTail, hRest⟩
      have hOldRest := (Line.drop_succ hOldNext).2
      have hSecond : ¬ prev.FraysAt curr (col + 1) :=
        Line.not_fraysAt_of_narrow hTail
          (Cell.isWide_of_isContinuation hContinued)
      refine (bind_ok_eq_error_iff fun later => ⟨_, rfl⟩).trans ?_
      rw [ih hRest hOldRest (by simpa using hLength) hMore]
      exact
        (Line.exists_fraysFirst_succ hSecond).trans
          (Line.exists_fraysFirst_succ
            (Line.not_fraysAt_of_ne hCell hOld hDiffer))
  | case4 col cell now old before hWide hShort =>
      cases now with
      | nil => exact absurd hWide hPaired.not_wide_last
      | cons second now =>
          cases before with
          | nil => simp at hLength
          | cons oldTail before =>
              exact absurd rfl (hShort _ _ _ _ rfl)
  | case5 col now old before hNarrow ih =>
      rcases Line.drop_succ hNow with ⟨hCell, hRest⟩
      have hOldRest := (Line.drop_succ hBefore).2
      rw [ih hRest hOldRest (by simpa using hLength)
        (hPaired.of_not_wide hNarrow).2]
      exact
        Line.exists_fraysFirst_succ
          (Line.not_fraysAt_of_narrow hCell (by simpa using hNarrow))
  | case6 col cell now old before hNarrow hDiffer ih =>
      rcases Line.drop_succ hNow with ⟨hCell, hRest⟩
      have hOldRest := (Line.drop_succ hBefore).2
      refine (bind_ok_eq_error_iff fun later => ⟨_, rfl⟩).trans ?_
      rw [ih hRest hOldRest (by simpa using hLength)
        (hPaired.of_not_wide hNarrow).2]
      exact
        Line.exists_fraysFirst_succ
          (Line.not_fraysAt_of_narrow hCell (by simpa using hNarrow))
  | case7 now col before hEnd =>
      have hNil : now = [] := by
        cases now with
        | nil => rfl
        | cons cell now =>
            cases before with
            | nil => simp at hLength
            | cons old before => exact absurd rfl (hEnd _ _ _ _ rfl)
      have hEndNow : curr.length ≤ col :=
        List.drop_eq_nil_iff.mp (hNow.trans hNil)
      constructor
      · intro h
        cases h
      · rintro ⟨c, hFirst, -⟩
        rcases hFirst.frays with ⟨lead, -, hNew, -⟩
        have hInside : c < curr.length :=
          (List.getElem?_eq_some_iff.mp hNew).1
        have hAfter := hFirst.after
        omega

/- Comparing whole lines fails at the first frayed pair. -/
theorem changedSpans_eq_error_iff
    {row : Nat}
    {prev curr : Line}
    (hLength : prev.length = curr.length)
    (hPaired : Line.Paired curr)
    {e : Error} :
    changedSpans row prev curr = .error e ↔
      ∃ c, prev.FraysFirst curr 0 c ∧
        e = .invalidWideCharPairing row (c + 1) := by
  rw [← changedUnits_eq_error_iff (show curr.drop 0 = curr from rfl)
    (show prev.drop 0 = prev from rfl) hLength.symm hPaired]
  apply bind_ok_eq_error_iff
  intro units
  cases units <;> exact ⟨_, rfl⟩

end Redraw
