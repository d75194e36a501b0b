import Redraw.Plan.Columns
import Redraw.Proofs.Plan.Bridges

/-
  Lookups: comparing lines by their columns.

  A line is checked before its cells are compared, and from
  then on every column is that of a unit or the end of the
  line.  So a check and a comparison that look their cells up
  have a result whatever the line holds, and it is the one that
  is found without looking up.

  Key definitions include:
    * `Checked.Gives`: a computation that has a result
    * `afterSpans`: what units become after the spans so far

  Main declarations:
    * `Checked.Gives.bind`, `Checked.gives_look`
    * `Line.gives_check?`
    * `canBridge?_eq`, `gives_changedSpans?`
-/

namespace Redraw

------------------------------------------------------------
-- Results
------------------------------------------------------------

namespace Checked

/- A computation that has a result, the one of another. -/
def Gives
    {α : Type}
    (x : Checked α)
    (r : Except Error α) : Prop :=
  x.run = some r

variable {α β : Type}

theorem gives_pure
    (a : α) :
    Gives (pure a : Checked α) (.ok a) := rfl

theorem gives_throw
    (e : Error) :
    Gives (throw e : Checked α) (.error e) := rfl

/- A part that has a result is followed by the next one. -/
theorem Gives.bind
    {x : Checked α}
    {r : Except Error α}
    {next : α → Checked β}
    {next' : α → Except Error β}
    (h : x.Gives r)
    (hNext : ∀ a, r = .ok a → (next a).Gives (next' a)) :
    (x >>= next).Gives (r >>= next') := by
  rw [Gives, ExceptT.run_bind, show x.run = some r from h]
  cases r with
  | ok a => exact hNext a rfl
  | error e => rfl

/- What is looked up is passed on. -/
theorem gives_look
    {o : Option α}
    {a : α}
    {next : α → Checked β}
    {r : Except Error β}
    (h : o = some a)
    (hNext : (next a).Gives r) :
    ((liftM o : Checked α) >>= next).Gives r := by
  rw [h]
  exact hNext

end Checked

open Checked

theorem column?_of_le
    {n : Nat}
    (h : n ≤ maxColumn) :
    column? n = some n :=
  if_pos h

theorem difference?_of_le
    {a b : Nat}
    (h : b ≤ a) :
    difference? a b = some (a - b) :=
  if_pos h

theorem Line.part?_of_le
    {line : Line}
    {start stop : Nat}
    (hOrder : start ≤ stop)
    (hWithin : stop ≤ line.length) :
    line.part? start stop = some ((line.take stop).drop start) :=
  if_pos ⟨hOrder, hWithin⟩

theorem Cell.columns_of_wide
    {c : Cell}
    (h : c.isWide = true) :
    c.columns = 2 :=
  if_pos h

theorem Cell.columns_of_narrow
    {c : Cell}
    (h : ¬ c.isWide = true) :
    c.columns = 1 :=
  if_neg h

------------------------------------------------------------
-- Checking
------------------------------------------------------------

namespace Line

/- The fault that a check ends in, if it does. -/
def faulty
    (row : Nat) :
    Option Nat → Except Error Unit
  | none => .ok ()
  | some col => .error (.invalidWideCharPairing row col)

variable {line rest : Line}
variable {row col : Nat}

/- A cell is looked up and its column fits before it is judged. -/
theorem gives_checkFrom?_of_lt
    {cell : Cell}
    (hAt : line.drop col = cell :: rest)
    (hWidth : line.length ≤ maxColumn)
    {r : Except Error Unit}
    (h :
      Gives
        (if cell.isContinuation then
          throw (.invalidWideCharPairing row col)
        else if cell.isWide then
          if line.continuationAt (col + 1) then
            line.checkFrom? row (col + 2)
          else
            throw (.invalidWideCharPairing row col)
        else
          line.checkFrom? row (col + 1)) r) :
    (line.checkFrom? row col).Gives r := by
  have hInside := lt_length_of_drop hAt
  rw [checkFrom?, if_pos hInside]
  refine gives_look (drop_succ hAt).1 ?_
  exact gives_look (column?_of_le (by omega)) h

/-
  By the cases of the check: each goes on with the rest of the
  line that it has looked at.
-/
theorem gives_checkFrom?
    (hAt : line.drop col = rest)
    (hWidth : line.length ≤ maxColumn) :
    (line.checkFrom? row col).Gives
      (faulty row (pairingFaultFrom? col rest)) := by
  fun_induction pairingFaultFrom? col rest with
  | case1 col =>
      have hEnd : line.length ≤ col := List.drop_eq_nil_iff.mp hAt
      rw [checkFrom?, if_neg (by omega)]
      exact gives_pure ()
  | case2 col cell rest hContinued =>
      refine gives_checkFrom?_of_lt hAt hWidth ?_
      rw [if_pos hContinued]
      exact gives_throw _
  | case3 col cell hContinued hWide =>
      refine gives_checkFrom?_of_lt hAt hWidth ?_
      have hEnd : line.continuationAt (col + 1) = false := by
        rw [continuationAt, cell?, List.getElem?_eq_none]
        · rfl
        · exact List.drop_eq_nil_iff.mp (drop_succ hAt).2
      rw [if_neg hContinued, if_pos hWide, hEnd,
        if_neg Bool.false_ne_true]
      exact gives_throw _
  | case4 col cell hContinued hWide next rest hNext ih =>
      refine gives_checkFrom?_of_lt hAt hWidth ?_
      rcases drop_succ (drop_succ hAt).2 with ⟨hSecond, hRest⟩
      rw [if_neg hContinued, if_pos hWide, continuationAt, hSecond,
        if_pos (show (some next).any Cell.isContinuation = true
          from hNext)]
      exact ih hRest
  | case5 col cell hContinued hWide next rest hNext =>
      refine gives_checkFrom?_of_lt hAt hWidth ?_
      have hSecond := (drop_succ (drop_succ hAt).2).1
      rw [if_neg hContinued, if_pos hWide, continuationAt, hSecond,
        if_neg (show ¬ (some next).any Cell.isContinuation = true
          from hNext)]
      exact gives_throw _
  | case6 col cell rest hContinued hWide ih =>
      refine gives_checkFrom?_of_lt hAt hWidth ?_
      rw [if_neg hContinued, if_neg hWide]
      exact ih (drop_succ hAt).2

theorem gives_check?
    (hWidth : line.length ≤ maxColumn) :
    (line.check? row).Gives (line.check row) := by
  have hFault : line.check row = faulty row line.pairingFault? := by
    unfold check
    cases line.pairingFault? <;> rfl
  rw [hFault]
  exact gives_checkFrom? (show line.drop 0 = line from rfl) hWidth

end Line

------------------------------------------------------------
-- Spans
------------------------------------------------------------

theorem canBridge?_eq
    {line : Line}
    {start stop : Nat}
    (hOrder : start ≤ stop)
    (hWithin : stop ≤ line.length)
    (hWidth : line.length ≤ maxColumn) :
    canBridge? line start stop =
      some (canBridge line start stop) := by
  unfold canBridge?
  rw [difference?_of_le hOrder]
  by_cases hFar : maxBridge < stop - start ∨ start = 0
  · have hNone : canBridge line start stop = false := by
      rw [Bool.eq_false_iff]
      intro hBridge
      have hGap := canBridge_eq_true hBridge
      unfold maxBridge at hFar
      omega
    simp [hFar, hNone]
  · obtain ⟨before, hBefore⟩ :
        ∃ before, line.cell? (start - 1) = some before :=
      ⟨_, List.getElem?_eq_getElem (by omega)⟩
    have hNear : 0 < start ∧ stop - start ≤ maxBridge := by omega
    have hFits := column?_of_le (n := stop - start) (by omega)
    simp only [Option.bind_eq_bind, Option.bind_some, if_neg hFar,
      hBefore, Line.part?_of_le hOrder hWithin, hFits, canBridge,
      hNear, decide_true, Bool.true_and]
    split
    · rename_i hAll
      rw [hAll, Bool.true_and]
      rfl
    · rename_i hAll
      rw [Bool.eq_false_iff.mpr hAll, Bool.false_and]
      rfl

/- What some units become after spans that were found. -/
def afterSpans
    (line : Line) :
    List Span → List Span → List Span
  | [], [] => []
  | [], u :: units => joinSpans line u units
  | s :: earlier, units => earlier.reverse ++ joinSpans line s units

theorem afterSpans_nil
    (line : Line)
    (found : List Span) :
    afterSpans line found [] = found.reverse := by
  cases found with
  | nil => rfl
  | cons s earlier => simp [afterSpans, joinSpans]

/- The spans found end before a column. -/
def EndBy
    (col : Nat)
    (found : List Span) : Prop :=
  ∀ s ∈ found.head?, s.stop ≤ col

theorem EndBy.mono
    {col next : Nat}
    {found : List Span}
    (h : EndBy col found)
    (hNext : col ≤ next) :
    EndBy next found :=
  fun s hs => Nat.le_trans (h s hs) hNext

/- A unit is added to the spans that it comes after. -/
theorem exists_addUnit?
    {line : Line}
    {u : Span}
    {found : List Span}
    (hFound : EndBy u.start found)
    (hWithin : u.start ≤ line.length)
    (hWidth : line.length ≤ maxColumn) :
    ∃ found',
      addUnit? line u found = some found' ∧
        EndBy u.stop found' ∧
          ∀ units,
            afterSpans line found' units =
              afterSpans line found (u :: units) := by
  cases found with
  | nil => exact ⟨[u], rfl, by simp [EndBy], fun units => rfl⟩
  | cons s earlier =>
      have hOrder : s.stop ≤ u.start := hFound s rfl
      have hJoined :
          (if s.stop = u.start then some true
            else canBridge? line s.stop u.start) =
            some (s.joins line u) := by
        unfold Span.joins
        rw [canBridge?_eq hOrder hWithin hWidth]
        split <;> simp_all
      simp only [addUnit?, hJoined]
      cases hJoins : s.joins line u with
      | true =>
          refine
            ⟨⟨s.start, u.stop⟩ :: earlier, rfl, by simp [EndBy], ?_⟩
          intro units
          simp only [afterSpans, joinSpans, hJoins, if_true]
      | false =>
          refine ⟨u :: s :: earlier, rfl, by simp [EndBy], ?_⟩
          intro units
          simp [afterSpans, joinSpans, hJoins]

section

variable {row col : Nat}
variable {prev curr now before : Line}
variable {cell old : Cell}
variable {found : List Span}

/- A unit that does not differ is passed over. -/
theorem gives_changedSpansFrom?_of_eq
    (hNow : curr.drop col = cell :: now)
    (hBefore : prev.drop col = cell :: before)
    (hTail : tailSame? prev curr col cell = some true)
    {r : Except Error (List Span)}
    (h :
      (changedSpansFrom? row prev curr (col + cell.columns)
        found).Gives r) :
    (changedSpansFrom? row prev curr col found).Gives r := by
  rw [changedSpansFrom?, if_pos (Line.lt_length_of_drop hNow)]
  refine gives_look (Line.drop_succ hNow).1 ?_
  refine gives_look (Line.drop_succ hBefore).1 ?_
  refine gives_look hTail ?_
  rw [if_pos rfl, if_pos rfl]
  exact h

/- A unit that differs is added to what was found. -/
theorem gives_changedSpansFrom?_of_ne
    (hNow : curr.drop col = cell :: now)
    (hBefore : prev.drop col = old :: before)
    {same : Bool}
    (hTail : tailSame? prev curr col cell = some same)
    (hDiffer : ¬ cell = old)
    (hFound : EndBy col found)
    (hWidth : curr.length ≤ maxColumn)
    {width : Nat}
    (hUnit : cell.columns = width)
    {later : Except Error (List Span)}
    (hMore :
      ∀ {found'}, EndBy (col + width) found' →
        (changedSpansFrom? row prev curr (col + width) found').Gives
          (do
            let units ← later
            return afterSpans curr found' units)) :
    (changedSpansFrom? row prev curr col found).Gives
      (do
        let units ← (do
          let units ← later
          return (⟨col, col + width⟩ : Span) :: units)
        return afterSpans curr found units) := by
  subst hUnit
  have hInside := Line.lt_length_of_drop hNow
  rcases exists_addUnit? (u := ⟨col, col + cell.columns⟩) hFound
      (Nat.le_of_lt hInside) hWidth with
    ⟨found', hAdded, hEnd, hAfter⟩
  rw [changedSpansFrom?, if_pos hInside]
  refine gives_look (Line.drop_succ hNow).1 ?_
  refine gives_look (Line.drop_succ hBefore).1 ?_
  refine gives_look hTail ?_
  rw [if_neg hDiffer]
  refine gives_look hAdded ?_
  have hSame :
      (do
        let units ← (do
          let units ← later
          return (⟨col, col + cell.columns⟩ : Span) :: units)
        return afterSpans curr found units) =
        do
          let units ← later
          return afterSpans curr found' units := by
    simp only [bind_assoc, pure_bind, hAfter]
  rw [hSame]
  exact hMore hEnd

/-
  By the cases of the comparison, which takes one unit at a
  time; what was found ends before the unit that is compared.
-/
theorem gives_changedSpansFrom?
    (hNow : curr.drop col = now)
    (hBefore : prev.drop col = before)
    (hLength : now.length = before.length)
    (hPaired : now.Paired)
    (hWidth : curr.length ≤ maxColumn)
    (hFound : EndBy col found) :
    (changedSpansFrom? row prev curr col found).Gives
      (do
        let units ← changedUnits row col now before
        return afterSpans curr found units) := by
  fun_induction changedUnits row col now before
    generalizing found with
  | case1 col cell now tail before hWide ih =>
      have hSecond := Line.drop_succ (Line.drop_succ hNow).2
      have hOldSecond := Line.drop_succ (Line.drop_succ hBefore).2
      apply gives_changedSpansFrom?_of_eq hNow hBefore
      · simp [tailSame?, hWide, hSecond.1, hOldSecond.1]
      · rw [Cell.columns_of_wide hWide]
        exact
          ih hSecond.2 hOldSecond.2 (by simpa using hLength)
            (hPaired.of_wide hWide).2 (hFound.mono (by omega))
  | case2 col cell tail now oldTail before hWide hDiffer =>
      have hSecond := Line.drop_succ (Line.drop_succ hNow).2
      have hOldSecond := Line.drop_succ (Line.drop_succ hBefore).2
      have hInside := Line.lt_length_of_drop (Line.drop_succ hNow).2
      rw [changedSpansFrom?, if_pos (Line.lt_length_of_drop hNow)]
      refine gives_look (Line.drop_succ hNow).1 ?_
      refine gives_look (Line.drop_succ hBefore).1 ?_
      refine gives_look (a := false) ?_ ?_
      · simp [tailSame?, hWide, hSecond.1, hOldSecond.1, hDiffer]
      · rw [if_pos rfl, if_neg Bool.false_ne_true]
        refine gives_look (column?_of_le (by omega)) ?_
        exact gives_throw _
  | case3 col cell old hWide tail now oldTail before hDiffer ih =>
      have hSecond := Line.drop_succ (Line.drop_succ hNow).2
      have hOldSecond := Line.drop_succ (Line.drop_succ hBefore).2
      apply
        gives_changedSpansFrom?_of_ne hNow hBefore _ hDiffer hFound
          hWidth (Cell.columns_of_wide hWide)
      · exact
          ih hSecond.2 hOldSecond.2 (by simpa using hLength)
            (hPaired.of_wide hWide).2
      · exact decide (tail = oldTail)
      · simp [tailSame?, hWide, hSecond.1, hOldSecond.1]
  | case4 col cell now old before hWide hShort =>
      cases now with
      | nil => exact absurd hWide hPaired.not_wide_last
      | cons second now =>
          cases before with
          | nil => simp at hLength
          | cons oldTail before =>
              exact absurd rfl (hShort _ _ _ _ rfl)
  | case5 col now old before hNarrow ih =>
      apply gives_changedSpansFrom?_of_eq hNow hBefore
      · exact if_neg hNarrow
      · rw [Cell.columns_of_narrow hNarrow]
        exact
          ih (Line.drop_succ hNow).2 (Line.drop_succ hBefore).2
            (by simpa using hLength) (hPaired.of_not_wide hNarrow).2
            (hFound.mono (by omega))
  | case6 col cell now old before hNarrow hDiffer ih =>
      apply
        gives_changedSpansFrom?_of_ne hNow hBefore (if_neg hNarrow)
          hDiffer hFound hWidth (Cell.columns_of_narrow hNarrow)
      exact
        ih (Line.drop_succ hNow).2 (Line.drop_succ hBefore).2
          (by simpa using hLength) (hPaired.of_not_wide hNarrow).2
  | case7 now col before hEnd =>
      have hEnd : curr.length ≤ col := by
        apply List.drop_eq_nil_iff.mp
        cases now with
        | nil => exact hNow
        | cons cell now =>
            cases before with
            | nil => simp at hLength
            | cons old before => exact absurd rfl (hEnd _ _ _ _ rfl)
      rw [changedSpansFrom?, if_neg (by omega)]
      have hNone :
          (do
            let units ← (.ok [] : Except Error (List Span))
            return afterSpans curr found units) =
            .ok found.reverse :=
        congrArg Except.ok (afterSpans_nil curr found)
      rw [hNone]
      exact gives_pure _

theorem gives_changedSpans?
    (hLength : prev.length = curr.length)
    (hPaired : curr.Paired)
    (hWidth : curr.length ≤ maxColumn) :
    (changedSpans? row prev curr).Gives
      (changedSpans row prev curr) := by
  have hSame :
      changedSpans row prev curr =
        do
          let units ← changedUnits row 0 curr prev
          return afterSpans curr [] units := by
    unfold changedSpans
    congr 1
    funext units
    cases units <;> rfl
  rw [hSame]
  exact
    gives_changedSpansFrom? (show curr.drop 0 = curr from rfl)
      (show prev.drop 0 = prev from rfl) hLength.symm hPaired hWidth
      (by simp [EndBy])

end

end Redraw
