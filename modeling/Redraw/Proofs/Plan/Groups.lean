import Mathlib.Data.List.Chain
import Mathlib.Data.List.Sort
import Redraw.Proofs.Plan.Ranges

/-
  Groups: the spans of a line are those of what differs.

  Units that differ are grouped over the gaps that are drawn
  again and over no others.  That leaves nothing to choose: two
  lists of spans that group the same lines contain the same
  columns, and spans with a column between them are told by the
  columns that they contain.

  Key definitions include:
    * `Span.Contains`, `Span.Precedes`
    * `Line.Grouped`: what differs, grouped in spans

  Main declarations:
    * `grouped_changedSpans`
    * `Line.Grouped.exists_contains_iff`, `Line.Grouped.unique`
    * `changedSpans_exact`
-/

namespace Redraw

/- A column of a span. -/
def Span.Contains
    (s : Span)
    (c : Nat) : Prop :=
  s.start ≤ c ∧ c < s.stop

variable {prev curr : Line}
variable {col c : Nat}
variable {s t : Span}
variable {spans later : List Span}

------------------------------------------------------------
-- What Is Contained
------------------------------------------------------------

namespace Line

theorem leadCol_cases
    (line : Line)
    (c : Nat) :
    (line.continuationAt c = false ∧ line.leadCol c = c) ∨
      (line.continuationAt c = true ∧ line.leadCol c = c - 1) := by
  cases hHalf : line.continuationAt c with
  | false => exact .inl ⟨rfl, by simp [leadCol, hHalf]⟩
  | true => exact .inr ⟨rfl, by simp [leadCol, hHalf]⟩

/- No unit of a gap differs. -/
theorem Bridges.not_differsAt
    {start stop : Nat}
    (h : prev.Bridges curr start stop)
    (hFrom : start ≤ c)
    (hTo : c < stop) :
    ¬ prev.DiffersAt curr c := by
  rcases h.narrow c hFrom hTo with ⟨cell, hCell, hOne⟩
  have hUnit := ((Cell.width_eq_one_iff _).mp hOne).2
  have hLead : curr.leadCol c = c := by
    simp [leadCol, continuationAt, hCell, hUnit]
  intro hDiffers
  rw [DiffersAt, hLead] at hDiffers
  exact hDiffers (h.same c hFrom hTo)

end Line

/-
  Spans that cover what differs contain every unit that does:
  none of them stops within a unit.
-/
theorem Covers.exists_contains
    (h : Covers prev curr col spans)
    (hFrom : col ≤ curr.leadCol c)
    (hDiffers : prev.DiffersAt curr c) :
    ∃ s ∈ spans, s.Contains c := by
  induction h with
  | rest same => exact absurd (same _ hFrom) hDiffers
  | @span col s later after some within same starts stops more ih =>
      by_cases hBefore : curr.leadCol c < s.start
      · exact absurd (same _ hFrom hBefore) hDiffers
      by_cases hInside : curr.leadCol c < s.stop
      · refine ⟨s, List.mem_cons_self, ?_⟩
        rcases curr.leadCol_cases c with ⟨-, hLead⟩ | ⟨hHalf, hLead⟩
        · exact ⟨by omega, by omega⟩
        · have hCut : c ≠ s.stop := by
            rintro rfl
            rw [stops] at hHalf
            cases hHalf
          exact ⟨by omega, by omega⟩
      · rcases ih (by omega) with ⟨t, ht, hContains⟩
        exact ⟨t, List.mem_cons_of_mem _ ht, hContains⟩

------------------------------------------------------------
-- Neighbours
------------------------------------------------------------

/- Spans that are left after joining do not join. -/
theorem isChain_joinSpans
    (line : Line)
    (s : Span)
    (later : List Span) :
    ∃ s' rest,
      joinSpans line s later = s' :: rest ∧ s'.start = s.start ∧
        (s' :: rest).IsChain fun s t => s.joins line t = false := by
  induction later generalizing s with
  | nil => exact ⟨s, [], rfl, rfl, .singleton s⟩
  | cons t later ih =>
      unfold joinSpans
      split
      · exact ih ⟨s.start, t.stop⟩
      · rename_i hApart
        rcases ih t with ⟨t', rest, hRest, hStart, hChain⟩
        refine ⟨s, t' :: rest, by rw [hRest], rfl, ?_⟩
        refine .cons_cons ?_ hChain
        simpa [Span.joins, hStart] using hApart

theorem isChain_changedSpans
    {row : Nat}
    (h : changedSpans row prev curr = .ok spans) :
    spans.IsChain fun s t => s.joins curr t = false := by
  rcases exists_of_bind_eq_ok h with ⟨units, -, hSpans⟩
  cases units with
  | nil =>
      cases hSpans
      exact .nil
  | cons s later =>
      cases hSpans
      rcases isChain_joinSpans curr s later with
        ⟨s', rest, hJoined, -, hChain⟩
      rw [hJoined]
      exact hChain

theorem Covers.le_start
    (h : Covers prev curr col spans) :
    ∀ s ∈ spans, col ≤ s.start ∧ s.start < s.stop := by
  induction h with
  | rest same => simp
  | span after some within same starts stops more ih =>
      rw [List.forall_mem_cons]
      refine ⟨⟨after, some⟩, fun t ht => ?_⟩
      have hNext := ih t ht
      omega

/-
  Between spans that do not join there is a column.  By the
  spans: only the next one could start where one stops.
-/
theorem Covers.pairwise
    (h : Covers prev curr col spans)
    (hChain : spans.IsChain fun s t => s.joins curr t = false) :
    spans.Pairwise fun s t => s.stop < t.start := by
  induction h with
  | rest same => exact .nil
  | @span col s later after some within same starts stops more ih =>
      refine .cons ?_ (ih (List.isChain_cons.mp hChain).2)
      cases later with
      | nil => simp
      | cons t later =>
          have hNext := more.le_start t List.mem_cons_self
          have hApart := (List.isChain_cons_cons.mp hChain).1
          simp only [Span.joins, Bool.or_eq_false_iff,
            decide_eq_false_iff_not] at hApart
          rw [List.forall_mem_cons]
          refine ⟨by omega, fun u hu => ?_⟩
          have hFar := more.tail.le_start u hu
          omega

------------------------------------------------------------
-- Groups
------------------------------------------------------------

/-
  What differs between two lines, grouped in spans.  Spans are
  not empty, lie in the line and go from the start of a unit to
  the end of one.  They are in order, with a column between any
  two.  Each starts and stops with a unit that differs and takes
  in others only in gaps that are drawn again; no unit that
  differs is left out, and no gap between neighbours could be
  drawn again.
-/
structure Line.Grouped
    (old new : Line)
    (spans : List Span) : Prop where
  some : ∀ s ∈ spans, s.start < s.stop ∧ s.stop ≤ new.length
  whole :
    ∀ s ∈ spans, new.IsBoundary s.start ∧ new.IsBoundary s.stop
  apart : spans.Pairwise fun s t => s.stop < t.start
  groups : ∀ s ∈ spans, s.Groups old new
  covers :
    ∀ c, old.DiffersAt new c → ∃ s ∈ spans, s.Contains c
  left :
    spans.IsChain fun s t => canBridge new s.stop t.start = false

/- The changed spans of a line group what differs. -/
theorem grouped_changedSpans
    {row : Nat}
    (hLength : prev.length = curr.length)
    (hPaired : curr.Paired)
    (h : changedSpans row prev curr = .ok spans) :
    prev.Grouped curr spans := by
  have hCovers := covers_changedSpans hLength hPaired h
  have hWhole := hCovers.keepsWhole hPaired
  have hChain := isChain_changedSpans h
  constructor
  case some => exact fun s hs => (hWhole s hs).within
  case whole => exact fun s hs => ⟨(hWhole s hs).start, (hWhole s hs).stop⟩
  case apart => exact hCovers.pairwise hChain
  case groups => exact groups_changedSpans hLength hPaired h
  case covers =>
    exact fun c hDiffers =>
      hCovers.exists_contains (Nat.zero_le _) hDiffers
  case left =>
    refine hChain.imp fun s t hApart => ?_
    exact (Bool.or_eq_false_iff.mp hApart).2

------------------------------------------------------------
-- Uniqueness
------------------------------------------------------------

/- A span that ends before another one starts. -/
def Span.Precedes (s t : Span) : Prop :=
  s.start < s.stop ∧ s.stop < t.start

instance : Std.Irrefl Span.Precedes where
  irrefl := fun s h => by
    unfold Span.Precedes at h
    omega

instance : Std.Antisymm Span.Precedes where
  antisymm := fun s t h hOther => by
    unfold Span.Precedes at h hOther
    omega

/- Of two spans in order, one is before the other. -/
theorem Span.eq_or_precedes
    (h : spans.Pairwise Span.Precedes)
    (hs : s ∈ spans)
    (ht : t ∈ spans) :
    s = t ∨ s.Precedes t ∨ t.Precedes s := by
  induction h with
  | nil => cases hs
  | @cons first later hFirst _ ih =>
      rcases List.mem_cons.mp hs with rfl | hOne
      · rcases List.mem_cons.mp ht with rfl | hTwo
        · exact .inl rfl
        · exact .inr (.inl (hFirst t hTwo))
      · rcases List.mem_cons.mp ht with rfl | hTwo
        · exact .inr (.inr (hFirst s hOne))
        · exact ih hOne hTwo

/- Spans in order with none between them are neighbours. -/
theorem Span.related_of_next
    {R : Span → Span → Prop}
    (h : spans.Pairwise Span.Precedes)
    (hChain : spans.IsChain R)
    (hs : s ∈ spans)
    (ht : t ∈ spans)
    (hOrder : s.Precedes t)
    (hNext : ∀ u ∈ spans, ¬ (s.Precedes u ∧ u.Precedes t)) :
    R s t := by
  rcases List.append_of_mem hs with ⟨before, rest, rfl⟩
  rcases List.pairwise_append.mp h with ⟨-, hRest, hBefore⟩
  rw [List.pairwise_cons] at hRest
  have hLater : t ∈ rest := by
    rcases List.mem_append.mp ht with hEarlier | hHere
    · have hOther := hBefore t hEarlier s List.mem_cons_self
      unfold Span.Precedes at hOther hOrder
      omega
    · refine (List.mem_cons.mp hHere).resolve_left ?_
      rintro rfl
      exact Std.Irrefl.irrefl _ hOrder
  cases rest with
  | nil => cases hLater
  | cons u after =>
      have hHead := (List.isChain_append_cons_cons.mp hChain).2.1
      rcases List.mem_cons.mp hLater with rfl | hAfter
      · exact hHead
      · have hBetween :=
          And.intro (hRest.1 u List.mem_cons_self)
            ((List.pairwise_cons.mp hRest.2).1 t hAfter)
        exact absurd hBetween (hNext u (by simp))

/- Spans in order that touch are one. -/
theorem Span.eq_of_touches
    (h : spans.Pairwise Span.Precedes)
    (hs : s ∈ spans)
    (ht : t ∈ spans)
    (hFrom : t.start ≤ s.stop)
    (hTo : s.start ≤ t.stop) :
    s = t := by
  rcases Span.eq_or_precedes h hs ht with hSame | hOrder | hOrder
  · exact hSame
  · exact absurd hOrder.2 (Nat.not_lt.mpr hFrom)
  · exact absurd hOrder.2 (Nat.not_lt.mpr hTo)

/-
  Spans in order are the longest runs of columns that they
  contain.
-/
theorem Span.mem_iff_longest
    (h : spans.Pairwise Span.Precedes)
    (hSome : ∀ s ∈ spans, s.start < s.stop) :
    s ∈ spans ↔
      s.start < s.stop ∧
        (∀ c, s.Contains c → ∃ t ∈ spans, t.Contains c) ∧
          (∀ c, c + 1 = s.start → ¬ ∃ t ∈ spans, t.Contains c) ∧
            ¬ ∃ t ∈ spans, t.Contains s.stop := by
  constructor
  · intro hs
    have hHere := hSome s hs
    refine
      ⟨hHere, fun c hContains => ⟨s, hs, hContains⟩, ?_, ?_⟩
    · rintro c hBefore ⟨t, ht, hFrom, hTo⟩
      have hSame := Span.eq_of_touches h hs ht (by omega) (by omega)
      rw [← hSame] at hFrom
      omega
    · rintro ⟨t, ht, hFrom, hTo⟩
      have hSame := Span.eq_of_touches h hs ht hFrom (by omega)
      rw [← hSame] at hTo
      omega
  · rintro ⟨hHere, hInside, hBefore, hAfter⟩
    rcases hInside s.start ⟨Nat.le_refl _, hHere⟩ with
      ⟨t, ht, hFrom, hTo⟩
    have hStart : t.start = s.start := by
      by_contra hOther
      exact
        hBefore (s.start - 1) (by omega) ⟨t, ht, by omega, by omega⟩
    have hNotPast : t.stop ≤ s.stop := by
      by_contra hPast
      exact hAfter ⟨t, ht, by omega, by omega⟩
    have hNotShort : s.stop ≤ t.stop := by
      by_contra hShort
      rcases hInside t.stop ⟨by omega, by omega⟩ with
        ⟨u, hu, hBegins, hEnds⟩
      have hSame :=
        Span.eq_of_touches h ht hu hBegins (by omega)
      rw [← hSame] at hEnds
      omega
    have hSame : s = t := by
      rcases s with ⟨start, stop⟩
      rcases t with ⟨start', stop'⟩
      simp only [Span.mk.injEq] at *
      omega
    rw [hSame]
    exact ht

namespace Line.Grouped

theorem pairwise
    (h : prev.Grouped curr spans) :
    spans.Pairwise Span.Precedes :=
  h.apart.imp_of_mem fun hs _ hApart => ⟨(h.some _ hs).1, hApart⟩

/-
  A gap that is drawn again is contained.  The span before it
  goes on past it, or the one after it starts before it;
  otherwise the two would be neighbours over the gap.
-/
theorem exists_contains_of_bridges
    (h : prev.Grouped curr spans)
    {start stop : Nat}
    (hGap : prev.Bridges curr start stop)
    (hBridge : canBridge curr start stop = true)
    (hFrom : start ≤ c)
    (hTo : c < stop) :
    ∃ s ∈ spans, s.Contains c := by
  rcases h.covers _ hGap.after.2 with ⟨s, hs, hLast⟩
  rcases h.covers _ hGap.before.2 with ⟨t, ht, hNext⟩
  have hSame (c : Nat) (hDiffers : prev.DiffersAt curr c) :
      c < start ∨ stop ≤ c := by
    by_contra hInside
    exact
      hGap.not_differsAt (by omega) (by omega) hDiffers
  have hStop := hSame _ (h.groups s hs).last
  have hStart := hSame _ (h.groups t ht).first
  have hPositive := hGap.after.1
  unfold Span.Contains at hLast hNext
  by_cases hPast : stop < s.stop
  · exact ⟨s, hs, by omega, by omega⟩
  by_cases hEarly : t.start < start
  · exact ⟨t, ht, by omega, by omega⟩
  have hEnds : s.stop = start := by omega
  have hBegins : t.start = stop := by omega
  have hOrder : s.Precedes t := ⟨by omega, by omega⟩
  have hLeft :=
    Span.related_of_next h.pairwise h.left hs ht hOrder <| by
      rintro u hu ⟨hAfter, hBefore⟩
      have hFirst := hSame _ (h.groups u hu).first
      unfold Span.Precedes at hAfter hBefore
      omega
  rw [hEnds, hBegins, hBridge] at hLeft
  cases hLeft

/- What is contained is told by the lines alone. -/
theorem exists_contains_iff
    (h : prev.Grouped curr spans) :
    (∃ s ∈ spans, s.Contains c) ↔
      prev.DiffersAt curr c ∨
        ∃ start stop,
          start ≤ c ∧ c < stop ∧ prev.Bridges curr start stop ∧
            canBridge curr start stop = true := by
  constructor
  · rintro ⟨s, hs, hFrom, hTo⟩
    by_cases hDiffers : prev.DiffersAt curr c
    · exact .inl hDiffers
    · rcases (h.groups s hs).gaps c hFrom hTo hDiffers with
        ⟨start, stop, -, hAfter, hBefore, -, hGap⟩
      exact .inr ⟨start, stop, hAfter, hBefore, hGap⟩
  · rintro (hDiffers | ⟨start, stop, hFrom, hTo, hGap, hBridge⟩)
    · exact h.covers c hDiffers
    · exact h.exists_contains_of_bridges hGap hBridge hFrom hTo

/- There is one way only to group what differs. -/
theorem unique
    {others : List Span}
    (h : prev.Grouped curr spans)
    (hOthers : prev.Grouped curr others) :
    spans = others := by
  refine h.pairwise.eq_of_mem_iff hOthers.pairwise fun s => ?_
  have hSame (c : Nat) :
      (∃ t ∈ spans, t.Contains c) ↔ ∃ t ∈ others, t.Contains c :=
    h.exists_contains_iff.trans hOthers.exists_contains_iff.symm
  rw [Span.mem_iff_longest h.pairwise fun s hs => (h.some s hs).1,
    Span.mem_iff_longest hOthers.pairwise fun s hs =>
      (hOthers.some s hs).1]
  simp only [hSame]

end Line.Grouped

------------------------------------------------------------
-- Changed Spans
------------------------------------------------------------

/-
  A line that passes its check is compared exactly with the line
  before.  The comparison fails just when a pair is frayed, and
  tells the second half of the first such pair.  Otherwise it
  gives the only spans that group what differs.  It is the same
  when the cells are looked up one by one.
-/
theorem changedSpans_exact
    {row : Nat}
    (hLength : prev.length = curr.length)
    (hCurr : curr.check row = .ok ()) :
    (curr.length ≤ maxColumn →
        (changedSpans? row prev curr).Gives
          (changedSpans row prev curr)) ∧
      (∀ e,
          changedSpans row prev curr = .error e ↔
            ∃ c, prev.FraysFirst curr 0 c ∧
              e = .invalidWideCharPairing row (c + 1)) ∧
        ((∃ e, changedSpans row prev curr = .error e) ↔
            ∃ c, prev.FraysAt curr c) ∧
          ∀ spans,
            changedSpans row prev curr = .ok spans ↔
              (∀ c, ¬ prev.FraysAt curr c) ∧
                prev.Grouped curr spans := by
  have hPaired := (curr.check_eq_ok_iff row).mp hCurr
  have hError (e : Error) :
      changedSpans row prev curr = .error e ↔
        ∃ c, prev.FraysFirst curr 0 c ∧
          e = .invalidWideCharPairing row (c + 1) :=
    changedSpans_eq_error_iff hLength hPaired
  have hFails :
      (∃ e, changedSpans row prev curr = .error e) ↔
        ∃ c, prev.FraysAt curr c := by
    constructor
    · rintro ⟨e, hFailed⟩
      rcases (hError e).mp hFailed with ⟨c, hFirst, -⟩
      exact ⟨c, hFirst.frays⟩
    · rintro ⟨c, hFrays⟩
      rcases hFrays.exists_first with ⟨first, hFirst⟩
      exact ⟨_, (hError _).mpr ⟨first, hFirst, rfl⟩⟩
  refine
    ⟨gives_changedSpans? hLength hPaired, hError, hFails, ?_⟩
  intro spans
  constructor
  · intro hSpans
    refine ⟨fun c hFrays => ?_, ?_⟩
    · rcases hFails.mpr ⟨c, hFrays⟩ with ⟨e, hFailed⟩
      rw [hSpans] at hFailed
      cases hFailed
    · exact grouped_changedSpans hLength hPaired hSpans
  · rintro ⟨hWhole, hGrouped⟩
    cases hFound : changedSpans row prev curr with
    | error e =>
        rcases hFails.mp ⟨e, hFound⟩ with ⟨c, hFrays⟩
        exact absurd hFrays (hWhole c)
    | ok found =>
        have hOnly :=
          (grouped_changedSpans hLength hPaired hFound).unique hGrouped
        rw [hOnly]

/- Letters and a pair, of which two letters and the pair change. -/
def lettersBefore : Line :=
  .spread
    (['a', 'b', 'c', 'd', 'e', 'f', 'g', '漢', 'h'].map fun c =>
      .styled [c] .default)

def lettersAfter : Line :=
  .spread
    (['x', 'b', 'y', 'd', 'e', 'f', 'g', '字', 'h'].map fun c =>
      .styled [c] .default)

/- A gap of one letter is drawn again, a gap of four is not. -/
theorem changedSpans_exact_letters :
    lettersBefore.length = lettersAfter.length ∧
      lettersAfter.check 0 = .ok () ∧
        changedSpans 0 lettersBefore lettersAfter =
            .ok [⟨0, 3⟩, ⟨7, 9⟩] ∧
          lettersBefore.Grouped lettersAfter [⟨0, 3⟩, ⟨7, 9⟩] := by
  have hLength : lettersBefore.length = lettersAfter.length := by
    decide +kernel
  have hCheck : lettersAfter.check 0 = .ok () := by decide +kernel
  have hSpans :
      changedSpans 0 lettersBefore lettersAfter =
        .ok [⟨0, 3⟩, ⟨7, 9⟩] := by
    decide +kernel
  rcases changedSpans_exact hLength hCheck with ⟨-, -, -, hExact⟩
  exact ⟨hLength, hCheck, hSpans, ((hExact _).mp hSpans).2⟩

end Redraw
