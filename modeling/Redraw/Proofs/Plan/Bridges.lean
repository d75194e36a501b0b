import Redraw.Proofs.Plan.Spans

/-
  Bridges: what the changed spans of a line take in.

  A span is made of units that differ from the line before and
  of short gaps between them.  A gap is drawn again only if its
  cells go on in the style that is in force before it, so that
  no span takes in anything that need not be drawn for more
  than three columns.

  Key definitions include:
    * `Line.DiffersAt`: a unit that is not what it was
    * `Line.Bridges`: a gap between two such units
    * `Line.Redraws`: a column of the one or the other
    * `Span.Groups`: such units, joined over such gaps

  Main declarations:
    * `differs_changedUnits`, `bridges_of_canBridge`
    * `groups_changedSpans`, `redraws_changedSpans`
-/

namespace Redraw

namespace Line

/- The column where the unit at a column starts. -/
def leadCol
    (line : Line)
    (col : Nat) : Nat :=
  if line.continuationAt col then col - 1 else col

/-
  The unit at a column is not what it was: it starts with
  another cell.
-/
def DiffersAt
    (old new : Line)
    (col : Nat) : Prop :=
  new.cell? (new.leadCol col) ≠ old.cell? (new.leadCol col)

/-
  A gap of unchanged narrow cells between two units that are
  not what they were.  It is short, and its cells have the style
  of the cell before it.
-/
structure Bridges
    (old new : Line)
    (start stop : Nat) : Prop where
  short : stop ≤ start + 3
  after : 0 < start ∧ old.DiffersAt new (start - 1)
  before :
    new.continuationAt stop = false ∧ old.DiffersAt new stop
  same :
    ∀ c, start ≤ c → c < stop → new.cell? c = old.cell? c
  narrow :
    ∀ c, start ≤ c → c < stop →
      ∃ cell, new.cell? c = some cell ∧ cell.width = 1
  styled :
    ∃ last, new.cell? (start - 1) = some last ∧
      ∀ c cell, start ≤ c → c < stop →
        new.cell? c = some cell → cell.style = last.style

/- A column that is drawn for a reason. -/
def Redraws
    (old new : Line)
    (col : Nat) : Prop :=
  old.DiffersAt new col ∨
    ∃ start stop,
      start ≤ col ∧ col < stop ∧ old.Bridges new start stop

variable {old new : Line}
variable {col : Nat}
variable {cell before : Cell}

/- A unit that starts with another cell differs in that column. -/
theorem differsAt_of_ne
    (hCell : new.cell? col = some cell)
    (hUnit : cell.isContinuation = false)
    (hBefore : old.cell? col = some before)
    (hDiffer : cell ≠ before) :
    old.DiffersAt new col := by
  have hLead : new.leadCol col = col := by
    simp [leadCol, continuationAt, hCell, hUnit]
  rw [DiffersAt, hLead, hCell, hBefore]
  exact fun hSame => hDiffer (Option.some.inj hSame)

/- And if it is a pair in the next one. -/
theorem DiffersAt.succ
    (h : old.DiffersAt new col)
    (hUnit : new.continuationAt col = false)
    (hPair : new.continuationAt (col + 1) = true) :
    old.DiffersAt new (col + 1) := by
  simpa [DiffersAt, leadCol, hUnit, hPair] using h

end Line

------------------------------------------------------------
-- Changed Units
------------------------------------------------------------

/- A span of one or more units that are not what they were. -/
def Span.Differs
    (old new : Line)
    (s : Span) : Prop :=
  ∀ c, s.start ≤ c → c < s.stop → old.DiffersAt new c

/- The units that are found to be changed are so. -/
theorem differs_changedUnits
    {row col : Nat}
    {prev curr now before : Line}
    (hNow : curr.drop col = now)
    (hBefore : prev.drop col = before)
    (hPaired : Line.Paired now)
    {spans : List Span}
    (h : changedUnits row col now before = .ok spans) :
    ∀ s ∈ spans, s.Differs prev curr := by
  fun_induction changedUnits row col now before generalizing spans with
  | case1 col old now tail before hWide ih =>
      exact
        ih (Line.drop_succ (Line.drop_succ hNow).2).2
          (Line.drop_succ (Line.drop_succ hBefore).2).2
          (hPaired.of_wide hWide).2 h
  | case2 => cases h
  | case3 col cell old hWide tail now oldTail before hDiffer ih =>
      rcases hPaired.of_wide hWide with ⟨hContinued, hMore⟩
      rcases Line.drop_succ hNow with ⟨hCell, hNext⟩
      rcases Line.drop_succ hBefore with ⟨hOld, hOldNext⟩
      rcases Line.drop_succ hNext with ⟨hTail, hRest⟩
      rcases exists_of_bind_eq_ok h with ⟨later, hLater, hSpans⟩
      cases hSpans
      have hUnit := Cell.isContinuation_of_isWide hWide
      have hLead := Line.differsAt_of_ne hCell hUnit hOld hDiffer
      refine
        List.forall_mem_cons.mpr
          ⟨fun c hFrom hTo => ?_,
            ih hRest (Line.drop_succ hOldNext).2 hMore hLater⟩
      simp only at hFrom hTo
      rcases (show c = col ∨ c = col + 1 by omega) with rfl | rfl
      · exact hLead
      · refine hLead.succ ?_ ?_
        · simp [Line.continuationAt, hCell, hUnit]
        · simp [Line.continuationAt, hTail, hContinued]
  | case4 =>
      cases h
      exact List.forall_mem_nil _
  | case5 col now old before hNarrow ih =>
      exact
        ih (Line.drop_succ hNow).2 (Line.drop_succ hBefore).2
          (hPaired.of_not_wide hNarrow).2 h
  | case6 col cell now old before hNarrow hDiffer ih =>
      rcases hPaired.of_not_wide hNarrow with ⟨hOne, hMore⟩
      rcases Line.drop_succ hNow with ⟨hCell, hRest⟩
      rcases Line.drop_succ hBefore with ⟨hOld, hOldRest⟩
      rcases exists_of_bind_eq_ok h with ⟨later, hLater, hSpans⟩
      cases hSpans
      have hUnit := ((Cell.width_eq_one_iff _).mp hOne).2
      refine
        List.forall_mem_cons.mpr
          ⟨fun c hFrom hTo => ?_, ih hRest hOldRest hMore hLater⟩
      simp only at hFrom hTo
      rw [show c = col by omega]
      exact Line.differsAt_of_ne hCell hUnit hOld hDiffer
  | case7 =>
      cases h
      exact List.forall_mem_nil _

------------------------------------------------------------
-- Gaps
------------------------------------------------------------

/- What a gap is like that is drawn again. -/
theorem canBridge_eq_true
    {line : Line}
    {start stop : Nat}
    (h : canBridge line start stop = true) :
    0 < start ∧ stop ≤ start + 3 ∧
      ∃ last, line.cell? (start - 1) = some last ∧
        ∀ c cell, start ≤ c → c < stop →
          line.cell? c = some cell →
            cell.width = 1 ∧ cell.style = last.style := by
  unfold canBridge at h
  cases hLast : line.cell? (start - 1) with
  | none =>
      rw [hLast] at h
      cases h
  | some last =>
      simp only [hLast, Bool.and_eq_true, decide_eq_true_eq,
        List.all_eq_true] at h
      rcases h with ⟨⟨⟨hStart, hShort⟩, hAll⟩, -⟩
      have hStop : stop ≤ start + 3 := by
        simp only [maxBridge] at hShort
        omega
      refine ⟨hStart, hStop, last, rfl, ?_⟩
      intro c cell hFrom hTo hCell
      apply hAll
      apply List.mem_of_getElem? (i := c - start)
      rw [List.getElem?_drop, Nat.add_sub_cancel' hFrom,
        List.getElem?_take_of_lt hTo]
      exact hCell

variable {prev curr : Line}
variable {col : Nat}
variable {s t : Span}
variable {later : List Span}

/- A gap between two changed units that is drawn again. -/
theorem bridges_of_canBridge
    {start : Nat}
    (hCovers : Covers prev curr start (t :: later))
    (hLast : prev.DiffersAt curr (start - 1))
    (hNext : prev.DiffersAt curr t.start)
    (hBridge : canBridge curr start t.start = true) :
    prev.Bridges curr start t.start := by
  rcases canBridge_eq_true hBridge with
    ⟨hStart, hShort, last, hLastCell, hGap⟩
  cases hCovers with
  | span after some within same starts stops more =>
      constructor
      case short => exact hShort
      case after => exact ⟨hStart, hLast⟩
      case before => exact ⟨starts, hNext⟩
      case same => exact same
      case narrow =>
        intro c hFrom hTo
        have hInside : c < curr.length := by omega
        have hCell : curr.cell? c = .some curr[c] :=
          List.getElem?_eq_getElem hInside
        exact ⟨curr[c], hCell, (hGap c _ hFrom hTo hCell).1⟩
      case styled =>
        refine ⟨last, hLastCell, fun c cell hFrom hTo hCell => ?_⟩
        exact (hGap c cell hFrom hTo hCell).2

------------------------------------------------------------
-- Joined Spans
------------------------------------------------------------

/-
  A span that starts and stops with units that are not what they
  were, and takes in nothing else but gaps that are drawn again.
-/
structure Span.Groups
    (old new : Line)
    (s : Span) : Prop where
  first : old.DiffersAt new s.start
  last : old.DiffersAt new (s.stop - 1)
  gaps :
    ∀ c, s.start ≤ c → c < s.stop → ¬ old.DiffersAt new c →
      ∃ start stop,
        s.start < start ∧ start ≤ c ∧ c < stop ∧ stop < s.stop ∧
          old.Bridges new start stop ∧
            canBridge new start stop = true

theorem Span.Differs.groups
    (h : s.Differs prev curr)
    (hSome : s.start < s.stop) :
    s.Groups prev curr where
  first := h s.start (Nat.le_refl _) hSome
  last := h (s.stop - 1) (by omega) (by omega)
  gaps := fun c hFrom hTo hSame => absurd (h c hFrom hTo) hSame

/- Two neighbours are joined over the gap between them. -/
theorem Span.Groups.join
    (h : s.Groups prev curr)
    (hSome : s.start < s.stop)
    (hCovers : Covers prev curr s.stop (t :: later))
    (hNext : t.Groups prev curr)
    (hJoins : s.joins curr t = true) :
    Span.Groups prev curr ⟨s.start, t.stop⟩ := by
  have hOrder : s.stop ≤ t.start ∧ t.start < t.stop := by
    cases hCovers with
    | span after some within same starts stops more =>
        exact ⟨after, some⟩
  refine ⟨h.first, hNext.last, fun c hFrom hTo hSame => ?_⟩
  by_cases hInFirst : c < s.stop
  · rcases h.gaps c hFrom hInFirst hSame with
      ⟨start, stop, hStart, hAfter, hBefore, hStop, hGap⟩
    exact
      ⟨start, stop, hStart, hAfter, hBefore,
        show stop < t.stop by omega, hGap⟩
  by_cases hInNext : t.start ≤ c
  · rcases hNext.gaps c hInNext hTo hSame with
      ⟨start, stop, hStart, hGap⟩
    exact ⟨start, stop, show s.start < start by omega, hGap⟩
  · have hBridge : canBridge curr s.stop t.start = true := by
      simp only [Span.joins, Bool.or_eq_true, decide_eq_true_eq]
        at hJoins
      exact hJoins.resolve_left (by omega)
    exact
      ⟨s.stop, t.start, hSome, by omega, by omega, hOrder.2,
        bridges_of_canBridge hCovers h.last hNext.first hBridge,
        hBridge⟩

/- By the spans: the first one has been joined already. -/
theorem groups_joinSpans
    (hCovers : Covers prev curr col (s :: later))
    (hFirst : s.Groups prev curr)
    (hLater : ∀ t ∈ later, t.Groups prev curr) :
    ∀ t ∈ joinSpans curr s later, t.Groups prev curr := by
  induction later generalizing col s with
  | nil => exact List.forall_mem_singleton.mpr hFirst
  | cons t later ih =>
      rw [List.forall_mem_cons] at hLater
      have hSome : s.start < s.stop := by
        cases hCovers with
        | span after some within same starts stops more => exact some
      unfold joinSpans
      split
      · rename_i hJoins
        exact
          ih hCovers.join
            (hFirst.join hSome hCovers.tail hLater.1 hJoins) hLater.2
      · exact
          List.forall_mem_cons.mpr
            ⟨hFirst, ih hCovers.tail hLater.1 hLater.2⟩

/- Spans of whole units that differ are groups by themselves. -/
theorem Covers.groups
    {spans : List Span}
    (hCovers : Covers prev curr col spans)
    (hDiffers : ∀ s ∈ spans, s.Differs prev curr) :
    ∀ s ∈ spans, s.Groups prev curr := by
  induction hCovers with
  | rest same => exact List.forall_mem_nil _
  | span after some within same starts stops more ih =>
      rw [List.forall_mem_cons] at hDiffers ⊢
      exact ⟨hDiffers.1.groups some, ih hDiffers.2⟩

/- The changed spans of a line are groups. -/
theorem groups_changedSpans
    {row : Nat}
    (hLength : prev.length = curr.length)
    (hPaired : Line.Paired curr)
    {spans : List Span}
    (h : changedSpans row prev curr = .ok spans) :
    ∀ s ∈ spans, s.Groups prev curr := by
  rcases exists_of_bind_eq_ok h with ⟨units, hUnits, hSpans⟩
  have hCurr : curr.drop 0 = curr := rfl
  have hPrev : prev.drop 0 = prev := rfl
  have hCovers :=
    covers_changedUnits hCurr hPrev hLength.symm hPaired hUnits
  have hGroups :=
    hCovers.groups
      (differs_changedUnits hCurr hPrev hPaired hUnits)
  cases units with
  | nil =>
      cases hSpans
      exact List.forall_mem_nil _
  | cons s later =>
      cases hSpans
      rw [List.forall_mem_cons] at hGroups
      exact groups_joinSpans hCovers hGroups.1 hGroups.2

------------------------------------------------------------
-- Columns
------------------------------------------------------------

/- A span of columns that are drawn for a reason. -/
def Span.Redraws
    (old new : Line)
    (s : Span) : Prop :=
  ∀ c, s.start ≤ c → c < s.stop → Line.Redraws old new c

/- A column of a group differs, or is in a gap. -/
theorem Span.Groups.redraws
    (h : s.Groups prev curr) :
    s.Redraws prev curr := by
  intro c hFrom hTo
  by_cases hDiffers : prev.DiffersAt curr c
  · exact Or.inl hDiffers
  · rcases h.gaps c hFrom hTo hDiffers with
      ⟨start, stop, -, hAfter, hBefore, -, hBridges, -⟩
    exact Or.inr ⟨start, stop, hAfter, hBefore, hBridges⟩

/- The changed spans of a line take in nothing but gaps. -/
theorem redraws_changedSpans
    {row : Nat}
    (hLength : prev.length = curr.length)
    (hPaired : Line.Paired curr)
    {spans : List Span}
    (h : changedSpans row prev curr = .ok spans) :
    ∀ s ∈ spans, s.Redraws prev curr :=
  fun s hs => (groups_changedSpans hLength hPaired h s hs).redraws

end Redraw
