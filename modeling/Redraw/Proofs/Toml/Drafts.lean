import Redraw.Toml.Table

/-
  Drafts: what a document of keys and one table describes.

  A key that is new to a table can be given a value, and nothing
  but that key is changed.  So keys that are given once each are
  all in the table in the end, and a header moves the place where
  further keys are given.

  Key definitions include:
    * `assignment`: the statement that gives a key its value
    * `Entries.putAll`: sets keys in order
    * `Entries.Lacks`: keys that can still be set

  Main declarations:
    * `Entries.lookup_put`, `Entries.lookup_putAll`
    * `Draft.addAll_top`, `Draft.addAll_nested`
    * `ofStatements?_flat`, `ofStatements?_table`
-/

namespace Redraw

namespace Toml

/- The statement that gives a key its value. -/
def assignment (p : Key × Value) : Statement :=
  .assign [] p.1 p.2

------------------------------------------------------------
-- Entries
------------------------------------------------------------

namespace Entries

/- Sets keys in order. -/
def putAll
    (pairs : List (Key × Value))
    (es : Entries) : Entries :=
  pairs.foldl (fun es p => put p.1 p.2 es) es

variable {k j : Key} {v : Value} {es : Entries}
variable {pairs : List (Key × Value)}

theorem lookup_cons_eq
    {i : Key}
    {w : Value} :
    List.lookup j ((i, w) :: es) =
      if j = i then some w else es.lookup j := by
  by_cases hKey : j = i
  · subst hKey
    simp
  · have hBeq : (j == i) = false := beq_false_of_ne hKey
    simp [List.lookup_cons, hBeq, hKey]

/- Setting a key changes that key only. -/
theorem lookup_put :
    (put k v es).lookup j =
      if j = k then some v else es.lookup j := by
  induction es with
  | nil => exact lookup_cons_eq
  | cons e es ih =>
      rcases e with ⟨i, w⟩
      by_cases hHere : i = k
      · subst hHere
        simp only [put, if_true, lookup_cons_eq]
        split <;> rfl
      · simp only [put, if_neg hHere, lookup_cons_eq, ih]
        by_cases hFirst : j = i
        · have hKey : ¬ j = k := fun h => hHere (hFirst ▸ h)
          simp [hFirst, hHere]
        · simp [hFirst]

/- Of keys that are set once each, every one is found. -/
theorem lookup_putAll
    (hDistinct : (pairs.map Prod.fst).Nodup) :
    (putAll pairs es).lookup j =
      (pairs.lookup j).or (es.lookup j) := by
  induction pairs generalizing es with
  | nil => rfl
  | cons p pairs ih =>
      rcases p with ⟨i, w⟩
      rw [List.map_cons, List.nodup_cons] at hDistinct
      have hHead : i ∉ pairs.map Prod.fst := hDistinct.1
      have hTail := hDistinct.2
      have hRest : (putAll ((i, w) :: pairs) es).lookup j =
          (pairs.lookup j).or ((put i w es).lookup j) := ih hTail
      rw [hRest, lookup_put, lookup_cons_eq]
      -- What is set first is not set again by what follows.
      by_cases hKey : j = i
      · subst hKey
        have hNone : pairs.lookup j = none := by
          rw [List.lookup_eq_none_iff]
          intro q hq
          have hNe : j ≠ q.1 := fun hKey =>
            hHead (hKey ▸ List.mem_map_of_mem hq)
          exact bne_iff_ne.mpr hNe
        simp [hNone]
      · simp [hKey]

/- A key that is new can be given its value. -/
theorem assign_new
    (hNew : es.lookup k = none) :
    assign [] k v es = some (put k v es) := by
  simp [assign, within, hNew]

/- Keys that a table lacks, each of them once. -/
def Lacks
    (pairs : List (Key × Value))
    (es : Entries) : Prop :=
  (pairs.map Prod.fst).Nodup
    ∧ ∀ p ∈ pairs, es.lookup p.1 = none

/- After the first key is set, the others are still lacking. -/
theorem Lacks.cons
    {p : Key × Value}
    (h : Lacks (p :: pairs) es) :
    es.lookup p.1 = none ∧ Lacks pairs (put p.1 p.2 es) := by
  rcases h with ⟨hDistinct, hAbsent⟩
  rw [List.map_cons, List.nodup_cons] at hDistinct
  refine ⟨hAbsent p List.mem_cons_self, hDistinct.2, ?_⟩
  intro q hq
  have hNe : q.1 ≠ p.1 := fun hKey =>
    hDistinct.1 (hKey ▸ List.mem_map_of_mem hq)
  rw [lookup_put, if_neg hNe]
  exact hAbsent q (List.mem_cons_of_mem p hq)

theorem lacks_nil
    (hDistinct : (pairs.map Prod.fst).Nodup) :
    Lacks pairs [] :=
  ⟨hDistinct, fun _ _ => rfl⟩

end Entries

------------------------------------------------------------
-- Statements in Order
------------------------------------------------------------

namespace Draft

variable {t : Key} {es inner : Entries}
variable {pairs : List (Key × Value)}

theorem addAll_append
    {d : Draft}
    (ss ts : List Statement) :
    d.addAll (ss ++ ts) = (d.addAll ss).bind (·.addAll ts) := by
  induction ss generalizing d with
  | nil => rfl
  | cons s ss ih =>
      simp only [List.cons_append, addAll, Option.bind_assoc, ih]

/- At the top, keys that are lacking are set in order. -/
theorem addAll_top
    (hLacks : Entries.Lacks pairs es) :
    addAll ⟨[], es⟩ (pairs.map assignment) =
      some ⟨[], es.putAll pairs⟩ := by
  induction pairs generalizing es with
  | nil => rfl
  | cons p pairs ih =>
      rcases hLacks.cons with ⟨hNew, hRest⟩
      have hStep :
          add ⟨[], es⟩ (assignment p) =
            some ⟨[], es.put p.1 p.2⟩ := by
        simp [add, assignment, Entries.within,
          Entries.assign_new hNew]
      rw [List.map_cons, addAll, hStep, Option.bind_some, ih hRest]
      rfl

/- Under a header, keys are set in the table of the header. -/
theorem addAll_nested
    (hTable : es.lookup t = some (.table .header inner))
    (hLacks : Entries.Lacks pairs inner) :
    ∃ after,
      addAll ⟨[t], es⟩ (pairs.map assignment) = some ⟨[t], after⟩
        ∧ after.lookup t =
            some (.table .header (inner.putAll pairs))
        ∧ ∀ j, j ≠ t → after.lookup j = es.lookup j := by
  induction pairs generalizing es inner with
  | nil => exact ⟨es, rfl, hTable, fun _ _ => rfl⟩
  | cons p pairs ih =>
      rcases hLacks.cons with ⟨hNew, hRest⟩
      let opened : Value := .table .header (inner.put p.1 p.2)
      have hStep :
          add ⟨[t], es⟩ (assignment p) =
            some ⟨[t], es.put t opened⟩ := by
        simp [add, assignment, Entries.within, hTable, opened,
          Entries.assign_new hNew]
      have hOpened : (es.put t opened).lookup t = some opened := by
        rw [Entries.lookup_put, if_pos rfl]
      rcases ih hOpened hRest with ⟨after, hAll, hInner, hOthers⟩
      refine ⟨after, ?_, hInner, ?_⟩
      · rw [List.map_cons, addAll, hStep, Option.bind_some, hAll]
      · intro j hj
        rw [hOthers j hj, Entries.lookup_put, if_neg hj]

end Draft

------------------------------------------------------------
-- Documents
------------------------------------------------------------

section

variable {t : Key} {top nested : List (Key × Value)}

/- Keys at the top of a document are in its table. -/
theorem ofStatements?_flat
    (hTop : (top.map Prod.fst).Nodup) :
    ∃ es, ofStatements? (top.map assignment) = some es
      ∧ ∀ j, es.lookup j = top.lookup j := by
  refine ⟨Entries.putAll top [], ?_, ?_⟩
  · rw [ofStatements?, Draft.addAll_top (Entries.lacks_nil hTop)]
    rfl
  · intro j
    rw [Entries.lookup_putAll hTop]
    exact Option.or_none

/-
  Keys under the only header of a document are in the table of
  the header, and those before the header are not.
-/
theorem ofStatements?_table
    (hTop : (top.map Prod.fst).Nodup)
    (hNested : (nested.map Prod.fst).Nodup)
    (hAbsent : top.lookup t = none) :
    ∃ es inner,
      ofStatements?
          (top.map assignment
            ++ .openTable [] t :: nested.map assignment) = some es
        ∧ es.lookup t = some (.table .header inner)
        ∧ (∀ j, inner.lookup j = nested.lookup j)
        ∧ ∀ j, j ≠ t → es.lookup j = top.lookup j := by
  let before := Entries.putAll top []
  have hBefore : ∀ j, before.lookup j = top.lookup j := by
    intro j
    rw [Entries.lookup_putAll hTop]
    exact Option.or_none
  let opened := before.put t (.table .header [])
  have hOpen :
      Draft.add ⟨[], before⟩ (.openTable [] t) =
        some ⟨[t], opened⟩ := by
    have hNone : before.lookup t = none := by
      rw [hBefore, hAbsent]
    simp [Draft.add, Entries.openTable, Entries.within, hNone,
      opened]
  have hOpened : opened.lookup t = some (.table .header []) := by
    rw [Entries.lookup_put, if_pos rfl]
  rcases Draft.addAll_nested hOpened (Entries.lacks_nil hNested)
    with ⟨after, hAll, hInner, hOthers⟩
  refine ⟨after, Entries.putAll nested [], ?_, hInner, ?_, ?_⟩
  · rw [ofStatements?, Draft.addAll_append,
      Draft.addAll_top (Entries.lacks_nil hTop),
      Option.bind_some, Draft.addAll, hOpen, Option.bind_some,
      hAll]
    rfl
  · intro j
    rw [Entries.lookup_putAll hNested]
    exact Option.or_none
  · intro j hj
    rw [hOthers j hj, Entries.lookup_put, if_neg hj, hBefore]

end

end Toml

end Redraw
