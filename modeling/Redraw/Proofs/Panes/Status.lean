import Redraw.Panes.Compositor
import Redraw.Proofs.Grid.Overlays

/-
  The status line: plain text from edge to edge.

  Printable ASCII never combines, so every character of a plain
  text has a narrow cell of its own.  The blanks at its end make
  the status line as long as a row at least.

  Key definitions include:
    * `IsPlain`

  Main declarations:
    * `clusters_of_plain`, `Line.spread_of_plain`
    * `Compositor.plain_statusLine`
    * `Compositor.le_length_statusLine`
-/

namespace Redraw

------------------------------------------------------------
-- Plain Characters
------------------------------------------------------------

/- A character of printable ASCII. -/
def IsPlain (c : Char) : Prop :=
  0x20 ≤ c.toNat ∧ c.toNat < 0x7F

instance (c : Char) : Decidable (IsPlain c) :=
  inferInstanceAs (Decidable (_ ∧ _))

variable {c : Char}
variable {text : List Char}

/- Of a text that is known, every character can be looked at. -/
theorem plain_of_all
    (h : text.all (IsPlain ·) = true) :
    ∀ c ∈ text, IsPlain c :=
  fun c hc => of_decide_eq_true (List.all_eq_true.mp h c hc)

theorem BreakClass.ofChar_of_plain
    (h : IsPlain c) :
    BreakClass.ofChar c = .other := by
  rcases h with ⟨hLow, hHigh⟩
  simp only [ofChar]
  rw [if_neg (by omega), if_neg (by omega), if_pos ⟨hHigh, hLow⟩]

/- Plain characters do not combine with each other. -/
theorem clustersFrom_of_plain
    {ctx : ClusterContext}
    (hLast : ctx.last = .standalone ∨ ctx.last = .other)
    (h : ∀ c ∈ text, IsPlain c) :
    clustersFrom ctx text = ([], text.map fun c => [c]) := by
  induction text generalizing ctx with
  | nil => rfl
  | cons c rest ih =>
      rw [List.forall_mem_cons] at h
      have hClass := BreakClass.ofChar_of_plain h.1
      have hApart : ctx.joins .other = false := by
        rcases hLast with hLast | hLast <;>
          simp [ClusterContext.joins, hLast]
      have hRest :
          clustersFrom (ctx.push c .other) rest =
            ([], rest.map fun c => [c]) := ih (.inr rfl) h.2
      simp only [clustersFrom, hClass, hRest, hApart]
      rfl

theorem clusters_of_plain
    (h : ∀ c ∈ text, IsPlain c) :
    clusters text = text.map fun c => [c] := by
  rw [clusters, clustersFrom_of_plain (.inl rfl) h]

/- A plain character has a narrow cell. -/
theorem Cell.isWide_of_plain
    (h : IsPlain c)
    (style : Style) :
    (Cell.styled [c] style).isWide = false := by
  rcases h with ⟨hLow, hHigh⟩
  have hWidth : displayWidth [c] = 1 := by
    rw [displayWidth_singleton, charWidth]
    exact if_pos (by omega)
  rw [styled, hWidth]
  cases Ink.ofChars? [c] <;> rfl

/- A plain text takes one column for each character. -/
theorem Line.spread_of_plain
    (h : ∀ c ∈ text, IsPlain c)
    (style : Style) :
    spread (Grid.cellsOf text style) =
      text.map fun c => Cell.styled [c] style := by
  have hUnits :
      ∀ c ∈ text, (Cell.styled [c] style).unit =
        [Cell.styled [c] style] := by
    intro c hc
    exact Cell.unit_of_narrow (Cell.isWide_of_plain (h c hc) style)
  rw [Grid.cellsOf, clusters_of_plain h, List.map_map, spread,
    List.flatMap_map, List.map_eq_flatMap]
  exact congrArg List.flatten (List.map_congr_left hUnits)

/- So it is found again in the row it was written to. -/
theorem Grid.cell?_put_of_plain
    {g : Grid}
    (hValid : g.validate = .ok ())
    (h : ∀ c ∈ text, IsPlain c)
    (style : Style)
    {row col : Nat}
    (hRow : row < g.rows)
    (hCol : col < g.cols)
    (hText : col < text.length) :
    (g.put row 0 text style).cell? row col =
      some (.styled [text[col]] style) := by
  have hSpread := Line.spread_of_plain h style
  have hWidth :
      ((cellsOf text style).map Cell.width).sum = text.length := by
    rw [← Line.length_spread (isContinuation_cellsOf text style),
      hSpread, List.length_map]
  have hNarrow :=
    Cell.isWide_of_plain (h _ (List.getElem_mem hText)) style
  have hTaken :
      row = row ∧ 0 ≤ col ∧
        col < 0 +
          min ((cellsOf text style).map Cell.width).sum
            (g.cols - 0) :=
    ⟨rfl, Nat.zero_le col, by omega⟩
  rcases (overlays_put hValid row 0 text style).written hRow hTaken
    with ⟨cell, hTop, hCell⟩
  rw [hSpread, Nat.sub_zero, Line.cell?, List.getElem?_map,
    List.getElem?_eq_getElem hText] at hTop
  obtain rfl := Option.some.inj hTop
  rw [hCell, Cell.fitted, if_neg (by simp [hNarrow])]

/- A text changes no other row. -/
theorem Grid.cell?_put_of_ne
    (g : Grid)
    {row row' : Nat}
    (hRow : row' ≠ row)
    (col col' : Nat)
    (text : List Char)
    (style : Style) :
    (g.put row col text style).cell? row' col' =
      g.cell? row' col' := by
  have hLine := (g.rewrites_put row col text style).lines row'
  simp only [if_neg hRow, Option.map_id'] at hLine
  rw [cell?, hLine, cell?]

------------------------------------------------------------
-- The Line
------------------------------------------------------------

namespace Compositor

theorem plain_number
    (n : Nat) :
    ∀ c ∈ Nat.toDigits 10 n, IsPlain c := by
  intro c hc
  have hDigit := toNat_of_mem_decimal hc
  rw [IsPlain]
  omega

/- It is plain text. -/
theorem plain_statusLine
    (l : Layout)
    (committed tenths : Nat) :
    ∀ c ∈ statusLine l committed tenths, IsPlain c := by
  have hBlanks : ∀ c ∈ List.replicate l.cols ' ', IsPlain c := by
    intro c hc
    rw [List.eq_of_mem_replicate hc]
    decide
  unfold statusLine
  simp only [List.forall_mem_append, List.forall_mem_cons, and_assoc]
  exact
    ⟨plain_of_all rfl, plain_number l.cols,
      by decide, plain_number l.rows,
      plain_of_all rfl, plain_number committed,
      plain_of_all rfl, plain_number (tenths / 10),
      by decide, plain_number (tenths % 10),
      plain_of_all rfl, hBlanks⟩

/- It is long enough for a row. -/
theorem le_length_statusLine
    (l : Layout)
    (committed tenths : Nat) :
    l.cols ≤ (statusLine l committed tenths).length := by
  have hEnd :
      ∃ start, statusLine l committed tenths =
        start ++ List.replicate l.cols ' ' := ⟨_, rfl⟩
  rcases hEnd with ⟨start, hEnd⟩
  rw [hEnd, List.length_append, List.length_replicate]
  exact Nat.le_add_left l.cols start.length

end Compositor

end Redraw
