import Redraw.Proofs.Frame.Economy
import Redraw.Proofs.Plan.Lookups

/-
  Gaps: drawing cells again against moving over them.

  A gap is weighed by the distance alone, while the encoder
  chooses between a distance, a column and a position.  Within a
  line, and for as few columns as a gap may have, the distance
  is the shortest of the three, whatever the line and the
  columns are.

  Key definitions include:
    * `Line.part`
    * `Line.GoesOn`: a gap that could be drawn in one go

  Main declarations:
    * `Move.cost_best_of_near`
    * `Line.canBridge_iff`
    * `Line.bridge_no_loss`
-/

namespace Redraw

------------------------------------------------------------
-- Near Columns
------------------------------------------------------------

theorem decimalLength_pos
    (n : Nat) :
    0 < decimalLength n := by
  unfold decimalLength
  split <;> omega

/- A distance of one digit. -/
theorem relativeLength_le_four
    {n : Nat}
    (h : n < 10) :
    relativeLength n ≤ 4 := by
  rw [relativeLength, decimalLength, if_pos h]
  split <;> omega

theorem four_le_cursorColumnLength
    {col : Nat}
    (h : col ≠ 0) :
    4 ≤ cursorColumnLength col := by
  have hDigits := decimalLength_pos (col + 1)
  rw [cursorColumnLength, if_neg h]
  omega

theorem six_le_cursorToLength
    (row : Nat)
    {col : Nat}
    (h : col ≠ 0) :
    6 ≤ cursorToLength row col := by
  have hRow := decimalLength_pos (row + 1)
  have hCol := decimalLength_pos (col + 1)
  rw [cursorToLength, if_neg h]
  omega

namespace Move

/-
  The move over a few columns costs what the distance does, on
  every line: a column has no fewer digits, and a position has
  more.
-/
theorem cost_best_of_near
    (row : Nat)
    {start stop : Nat}
    (hOrder : start < stop)
    (hNear : stop < start + 10) :
    (best (some ⟨row, start⟩) ⟨row, stop⟩).cost =
      relativeLength (stop - start) := by
  have hLater : stop ≠ 0 := by omega
  have hDistance : relativeLength (stop - start) ≤ 4 :=
    relativeLength_le_four (by omega)
  have hColumn := four_le_cursorColumnLength hLater
  have hPosition := six_le_cursorToLength row hLater
  have hAcross :
      (Horizontal.between start stop).cost =
        min (cursorColumnLength stop)
          (relativeLength (stop - start)) := by
    rw [Horizontal.cost_between_of_far (Nat.ne_of_lt hOrder) hLater,
      if_pos hOrder]
    rfl
  have hStays : (Vertical.between row row).cost = 0 := by
    simp [Vertical.between, Vertical.cost]
  have hByParts :
      (relative (.between row row) (.between start stop)).cost =
        min (cursorColumnLength stop)
          (relativeLength (stop - start)) := by
    rw [cost, hStays, hAcross, Nat.zero_add]
  have hDirect :
      (absolute ⟨row, stop⟩).cost = cursorToLength row stop := rfl
  have hBelow : ¬ (row = row + 1 ∧ stop = 0) := fun h => hLater h.2
  simp only [best, if_neg hBelow]
  rw [cost_cheaper, hDirect, hByParts]
  omega

end Move

------------------------------------------------------------
-- Gaps
------------------------------------------------------------

/- The bytes of the texts of cells. -/
theorem length_bytes_text
    (cells : List Cell) :
    (Command.text (cells.flatMap Cell.text)).bytes.length =
      (cells.map Cell.byteLength).foldr (· + ·) 0 := by
  unfold Command.bytes Command.chars
  induction cells with
  | nil => rfl
  | cons cell cells ih =>
      rw [List.flatMap_cons, List.flatMap_append, List.length_append,
        ih, Command.length_utf8]
      rfl

namespace Line

/- The cells between two columns. -/
def part
    (line : Line)
    (start stop : Nat) : Line :=
  (line.take stop).drop start

/-
  A gap of few narrow cells that go on in the style of the cell
  before it.
-/
structure GoesOn
    (line : Line)
    (start stop : Nat) : Prop where
  short : stop ≤ start + 3
  narrow : ∀ cell ∈ line.part start stop, cell.width = 1
  styled :
    ∃ last, line.cell? (start - 1) = some last ∧
      ∀ cell ∈ line.part start stop, cell.style = last.style

variable {line : Line}
variable {start stop : Nat}

/- A gap is drawn again if its texts are no longer than a move. -/
theorem canBridge_iff
    (hStart : 0 < start)
    (hOrder : start < stop)
    (row : Nat) :
    canBridge line start stop = true ↔
      line.GoesOn start stop ∧
        (Command.text
            ((line.part start stop).flatMap Cell.text)).bytes.length ≤
          (Move.best (some ⟨row, start⟩) ⟨row, stop⟩).bytes.length := by
  have hMove (hShort : stop ≤ start + 3) :
      (Move.best (some ⟨row, start⟩) ⟨row, stop⟩).bytes.length =
        relativeLength (stop - start) := by
    rw [Move.length_bytes]
    exact Move.cost_best_of_near row hOrder (by omega)
  rw [length_bytes_text]
  unfold canBridge
  cases hLast : line.cell? (start - 1) with
  | none =>
      refine ⟨nofun, fun h => ?_⟩
      rcases h.1.styled with ⟨last, hSome, -⟩
      rw [hLast] at hSome
      cases hSome
  | some last =>
      have hFew : stop - start ≤ maxBridge ↔ stop ≤ start + 3 :=
        Nat.sub_le_iff_le_add'
      simp only [Bool.and_eq_true, decide_eq_true_eq, List.all_eq_true,
        hFew]
      constructor
      · rintro ⟨⟨⟨-, hShort⟩, hCells⟩, hBytes⟩
        rw [hMove hShort]
        exact
          ⟨⟨hShort, fun cell hCell => (hCells cell hCell).1, last,
            hLast, fun cell hCell => (hCells cell hCell).2⟩, hBytes⟩
      · rintro ⟨hGoesOn, hBytes⟩
        rcases hGoesOn.styled with ⟨last', hSame, hStyle⟩
        obtain rfl : last = last' :=
          Option.some.inj (hLast.symm.trans hSame)
        rw [hMove hGoesOn.short] at hBytes
        exact
          ⟨⟨⟨hStart, hGoesOn.short⟩, fun cell hCell =>
            ⟨hGoesOn.narrow cell hCell, hStyle cell hCell⟩⟩, hBytes⟩

/-
  Drawing a gap again is never longer than the move that the
  encoder would write instead, on any line of the screen; and a
  gap that could be drawn in one go is moved over only if that
  is shorter.  Whether it is drawn again is found without
  looking past the line.
-/
theorem bridge_no_loss
    (hStart : 0 < start)
    (hOrder : start < stop)
    (hWithin : stop < line.length)
    (row : Nat) :
    let again :=
      (Command.text ((line.part start stop).flatMap Cell.text)).bytes
    let move := Move.best (some ⟨row, start⟩) ⟨row, stop⟩
    (line.length ≤ maxColumn →
        canBridge? line start stop = some (canBridge line start stop)) ∧
      (∀ caps cols style,
          ((Op.moveTo ⟨row, stop⟩).commands caps cols
            ⟨some ⟨row, start⟩, style⟩).1 = move.commands) ∧
        (canBridge line start stop = true →
            line.GoesOn start stop ∧
              again.length ≤ move.bytes.length) ∧
          (line.GoesOn start stop →
            canBridge line start stop = false →
              move.bytes.length < again.length) := by
  intro again move
  refine ⟨?_, ?_, (canBridge_iff hStart hOrder row).mp, ?_⟩
  · exact canBridge?_eq (Nat.le_of_lt hOrder) (Nat.le_of_lt hWithin)
  · intro caps cols style
    have hMoves :
        ¬ some (⟨row, start⟩ : Position) = some ⟨row, stop⟩ := by
      simp [Nat.ne_of_lt hOrder]
    simp only [Op.commands, if_neg hMoves]
    rfl
  · intro hGoesOn hNot
    rw [← Nat.not_le]
    intro hShorter
    have hBridge :=
      (canBridge_iff hStart hOrder row).mpr ⟨hGoesOn, hShorter⟩
    rw [hNot] at hBridge
    cases hBridge

/- Letters of one byte, of two and of three. -/
def accentedLine : Line :=
  ['a', 'é', 'é', 'b', '€', 'é', 'c'].map fun c =>
    .styled [c] .default

/-
  Two letters of two bytes each are as long as the move over
  them; one of two and one of three are longer.
-/
theorem bridge_no_loss_accented :
    6 < accentedLine.length ∧
      canBridge accentedLine 1 3 = true ∧
        (Command.text
            ((accentedLine.part 1 3).flatMap Cell.text)).bytes.length ≤
          (Move.best (some ⟨7, 1⟩) ⟨7, 3⟩).bytes.length ∧
        accentedLine.GoesOn 4 6 ∧
          canBridge accentedLine 4 6 = false ∧
            (Move.best (some ⟨7, 4⟩) ⟨7, 6⟩).bytes.length <
              (Command.text
                ((accentedLine.part 4 6).flatMap
                  Cell.text)).bytes.length := by
  have hBridge : canBridge accentedLine 1 3 = true := by
    decide +kernel
  have hNot : canBridge accentedLine 4 6 = false := by
    decide +kernel
  have hGoesOn : accentedLine.GoesOn 4 6 := by
    refine ⟨by decide, by decide +kernel, .styled ['b'] .default, ?_⟩
    decide +kernel
  have hShort :=
    bridge_no_loss (show 0 < 1 by decide) (show 1 < 3 by decide)
      (show 3 < accentedLine.length by decide) 7
  have hLong :=
    bridge_no_loss (show 0 < 4 by decide) (show 4 < 6 by decide)
      (show 6 < accentedLine.length by decide) 7
  exact
    ⟨by decide, hBridge, (hShort.2.2.1 hBridge).2, hGoesOn, hNot,
      hLong.2.2.2 hGoesOn hNot⟩

end Line

end Redraw
