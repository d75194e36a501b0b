import Redraw.Plan.Span
import Redraw.Proofs.Grid.Pairing

/-
  Spans: what the changed spans of a line leave out.

  Spans are in order and start and stop between units of the
  new line, and outside of them the two lines are equal.
  Joining spans keeps that, whatever the gap between them is.

  Key definitions include:
    * `Covers`: spans that cover all that differs

  Main declarations:
    * `covers_changedUnits`, `Covers.joinSpans`
    * `covers_changedSpans`
-/

namespace Redraw

/- A computation that succeeds did so in both its parts. -/
theorem exists_of_bind_eq_ok
    {ε α β : Type}
    {first : Except ε α}
    {next : α → Except ε β}
    {b : β}
    (h : (first >>= next) = .ok b) :
    ∃ a, first = .ok a ∧ next a = .ok b := by
  cases first with
  | error e => cases h
  | ok a => exact ⟨a, rfl, h⟩

/-
  From a column on, spans cover all that differs between two
  lines.
-/
inductive Covers
    (prev curr : Line) :
    Nat → List Span → Prop
  | rest
      {col : Nat}
      (same : ∀ c, col ≤ c → curr.cell? c = prev.cell? c) :
      Covers prev curr col []
  | span
      {col : Nat}
      {s : Span}
      {later : List Span}
      (after : col ≤ s.start)
      (some : s.start < s.stop)
      (within : s.stop ≤ curr.length)
      (same :
        ∀ c, col ≤ c → c < s.start → curr.cell? c = prev.cell? c)
      (starts : curr.continuationAt s.start = false)
      (stops : curr.continuationAt s.stop = false)
      (more : Covers prev curr s.stop later) :
      Covers prev curr col (s :: later)

/- A column that does not differ need not be covered. -/
theorem Covers.skip
    {prev curr : Line}
    {col next : Nat}
    {spans : List Span}
    (h : Covers prev curr next spans)
    (hNext : col ≤ next)
    (hSame :
      ∀ c, col ≤ c → c < next → curr.cell? c = prev.cell? c) :
    Covers prev curr col spans := by
  cases h with
  | rest same =>
      refine .rest fun c hc => ?_
      by_cases hBefore : c < next
      · exact hSame c hc hBefore
      · exact same c (by omega)
  | span after some within same starts stops more =>
      refine .span (by omega) some within ?_ starts stops more
      intro c hc hStart
      by_cases hBefore : c < next
      · exact hSame c hc hBefore
      · exact same c (by omega) hStart

------------------------------------------------------------
-- Changed Units
------------------------------------------------------------

/- What is left of a line after one more cell. -/
theorem Line.drop_succ
    {line rest : Line}
    {col : Nat}
    {cell : Cell}
    (h : line.drop col = cell :: rest) :
    line.cell? col = some cell ∧ line.drop (col + 1) = rest := by
  constructor
  · rw [Line.cell?, ← List.head?_drop, h]
    rfl
  · rw [← List.tail_drop, h]
    rfl

/- A unit of a line that is left starts with no second half. -/
theorem Line.continuationAt_of_drop
    {line rest : Line}
    {col : Nat}
    (h : line.drop col = rest)
    (hPaired : Paired rest) :
    line.continuationAt col = false := by
  rw [← hPaired.continuationAt_zero, ← h]
  simp [continuationAt, cell?]

theorem Line.lt_length_of_drop
    {line rest : Line}
    {col : Nat}
    {cell : Cell}
    (h : line.drop col = cell :: rest) :
    col < line.length := by
  have hLength := congrArg List.length h
  simp only [List.length_drop, List.length_cons] at hLength
  omega

/- A span of a changed unit before those of the rest. -/
theorem covers_bind
    {prev curr : Line}
    {col width : Nat}
    (hWidth : 0 < width)
    (hWithin : col + width ≤ curr.length)
    (hStart : curr.continuationAt col = false)
    (hStop : curr.continuationAt (col + width) = false)
    {found : Except Error (List Span)}
    (hLater :
      ∀ {later}, found = .ok later →
        Covers prev curr (col + width) later)
    {spans : List Span}
    (h :
      (do
        let later ← found
        return (⟨col, col + width⟩ : Span) :: later) =
        .ok spans) :
    Covers prev curr col spans := by
  rcases exists_of_bind_eq_ok h with ⟨later, hFound, hSpans⟩
  cases hSpans
  exact
    .span (Nat.le_refl col) (Nat.lt_add_of_pos_right hWidth) hWithin
      (fun c hc hBefore => absurd hBefore (Nat.not_lt.mpr hc))
      hStart hStop (hLater hFound)

/- The units that differ cover all that differs. -/
theorem covers_changedUnits
    {row col : Nat}
    {prev curr now before : Line}
    (hNow : curr.drop col = now)
    (hBefore : prev.drop col = before)
    (hLength : now.length = before.length)
    (hPaired : Line.Paired now)
    {spans : List Span}
    (h : changedUnits row col now before = .ok spans) :
    Covers prev curr col spans := by
  have hCut := Line.continuationAt_of_drop hNow hPaired
  fun_induction changedUnits row col now before generalizing spans with
  | case1 col old now tail before hWide ih =>
      rcases Line.drop_succ hNow with ⟨hCell, hNext⟩
      rcases Line.drop_succ hBefore with ⟨hOld, hOldNext⟩
      rcases Line.drop_succ hNext with ⟨hTail, hRest⟩
      rcases Line.drop_succ hOldNext with ⟨hOldTail, hOldRest⟩
      have hMore := (hPaired.of_wide hWide).2
      refine
        (ih hRest hOldRest (by simpa using hLength) hMore h
          (Line.continuationAt_of_drop hRest hMore)).skip
          (by omega) ?_
      intro c hc hSmall
      rcases (show c = col ∨ c = col + 1 by omega) with rfl | rfl
      · rw [hCell, hOld]
      · rw [hTail, hOldTail]
  | case2 => cases h
  | case3 col cell old hWide tail now oldTail before hDiffer ih =>
      have hNext := (Line.drop_succ hNow).2
      have hRest := (Line.drop_succ hNext).2
      have hOldRest :=
        (Line.drop_succ (Line.drop_succ hBefore).2).2
      have hMore := (hPaired.of_wide hWide).2
      have hStop := Line.continuationAt_of_drop hRest hMore
      exact
        covers_bind (by omega) (Line.lt_length_of_drop hNext) hCut
          hStop
          (fun hFound =>
            ih hRest hOldRest (by simpa using hLength) hMore hFound
              hStop)
          h
  | case4 col cell now old before hWide hShort =>
      cases now with
      | nil => exact absurd hWide hPaired.not_wide_last
      | cons second now =>
          cases before with
          | nil => simp at hLength
          | cons oldTail before =>
              exact absurd rfl (hShort _ _ _ _ rfl)
  | case5 col now old before hNarrow ih =>
      rcases Line.drop_succ hNow with ⟨hCell, hRest⟩
      rcases Line.drop_succ hBefore with ⟨hOld, hOldRest⟩
      have hMore := (hPaired.of_not_wide hNarrow).2
      refine
        (ih hRest hOldRest (by simpa using hLength) hMore h
          (Line.continuationAt_of_drop hRest hMore)).skip
          (by omega) ?_
      intro c hc hSmall
      rw [show c = col by omega, hCell, hOld]
  | case6 col cell now old before hNarrow hDiffer ih =>
      have hRest := (Line.drop_succ hNow).2
      have hOldRest := (Line.drop_succ hBefore).2
      have hMore := (hPaired.of_not_wide hNarrow).2
      have hStop := Line.continuationAt_of_drop hRest hMore
      exact
        covers_bind (by omega) (Line.lt_length_of_drop hNow) hCut
          hStop
          (fun hFound =>
            ih hRest hOldRest (by simpa using hLength) hMore hFound
              hStop)
          h
  | case7 now col before hEnd =>
      cases h
      have hNil : now = [] ∧ before = [] := by
        cases now with
        | nil => exact ⟨rfl, List.length_eq_zero_iff.mp hLength.symm⟩
        | cons cell now =>
            cases before with
            | nil => simp at hLength
            | cons old before =>
                exact absurd rfl (hEnd _ _ _ _ rfl)
      refine .rest fun c hc => ?_
      have hEndNow : curr.length ≤ col :=
        List.drop_eq_nil_iff.mp (hNow.trans hNil.1)
      have hEndBefore : prev.length ≤ col :=
        List.drop_eq_nil_iff.mp (hBefore.trans hNil.2)
      rw [Line.cell?, Line.cell?,
        List.getElem?_eq_none (by omega),
        List.getElem?_eq_none (by omega)]

------------------------------------------------------------
-- Joined Spans
------------------------------------------------------------

/- What comes after a span is covered by the later ones. -/
theorem Covers.tail
    {prev curr : Line}
    {col : Nat}
    {s : Span}
    {later : List Span}
    (h : Covers prev curr col (s :: later)) :
    Covers prev curr s.stop later := by
  cases h with
  | span after some within same starts stops more => exact more

/- Two neighbours cover what they did as one span. -/
theorem Covers.join
    {prev curr : Line}
    {col : Nat}
    {s t : Span}
    {later : List Span}
    (h : Covers prev curr col (s :: t :: later)) :
    Covers prev curr col (⟨s.start, t.stop⟩ :: later) := by
  cases h with
  | span after some within same starts stops more =>
      cases more with
      | span after' some' within' same' starts' stops' more' =>
          exact
            .span after (show s.start < t.stop by omega) within' same
              starts stops' more'

/- Spans that are joined cover what they did, and more. -/
theorem Covers.joinSpans
    {prev curr : Line}
    {col : Nat}
    {s : Span}
    {later : List Span}
    (h : Covers prev curr col (s :: later)) :
    Covers prev curr col (Redraw.joinSpans curr s later) := by
  induction later generalizing col s with
  | nil => exact h
  | cons t later ih =>
      unfold Redraw.joinSpans
      split
      · exact ih h.join
      · cases h with
        | span after some within same starts stops more =>
            exact
              .span after some within same starts stops (ih more)

/- The changed spans of a line cover all that differs. -/
theorem covers_changedSpans
    {row : Nat}
    {prev curr : Line}
    (hLength : prev.length = curr.length)
    (hPaired : Line.Paired curr)
    {spans : List Span}
    (h : changedSpans row prev curr = .ok spans) :
    Covers prev curr 0 spans := by
  rcases exists_of_bind_eq_ok h with ⟨units, hUnits, hSpans⟩
  have hCovers :=
    covers_changedUnits (show curr.drop 0 = curr from rfl)
      (show prev.drop 0 = prev from rfl) hLength.symm hPaired
      hUnits
  cases units with
  | nil =>
      cases hSpans
      exact hCovers
  | cons s later =>
      cases hSpans
      exact hCovers.joinSpans

end Redraw
