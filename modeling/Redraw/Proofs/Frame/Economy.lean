import Mathlib.Order.Bounds.Defs
import Redraw.Proofs.Frame.Lengths

/-
  Economy: a move takes the fewest bytes of all the ways to its
  target.

  The parts of a move are chosen by themselves, since what one
  of them costs does not depend on the other.  A column that is
  not the first is reached by its number or by the distance,
  whichever is shorter on the wire.

  Main declarations:
    * `Horizontal.Leads.cost_between_le`
    * `Move.Leads.cost_best_le`
    * `Move.best_leads_shortest`
-/

namespace Redraw

------------------------------------------------------------
-- Parts
------------------------------------------------------------

theorem three_le_relativeLength
    (n : Nat) :
    3 ≤ relativeLength n := by
  unfold relativeLength
  split <;> omega

theorem three_le_cursorColumnLength
    (col : Nat) :
    3 ≤ cursorColumnLength col := by
  unfold cursorColumnLength
  split <;> omega

/- There is one way only to another row. -/
theorem Vertical.Leads.unique
    {source target : Nat}
    {v w : Vertical}
    (h : v.Leads source target)
    (hOther : w.Leads source target) :
    v = w := by
  cases h <;> cases hOther <;> first | rfl | omega

namespace Horizontal

/- Far columns are reached by the number or by the distance. -/
theorem cost_between_of_far
    {source target : Nat}
    (hSame : source ≠ target)
    (hFirst : target ≠ 0) :
    (between source target).cost =
      min (column target).cost
        (if source < target then forward (target - source)
          else back (source - target)).cost := by
  rw [between, if_neg hSame, if_neg hFirst]
  by_cases hShort :
      (column target).cost <
        (if source < target then forward (target - source)
          else back (source - target)).cost
  · simp only [if_pos hShort]
    exact (Nat.min_eq_left (Nat.le_of_lt hShort)).symm
  · simp only [if_neg hShort]
    exact (Nat.min_eq_right (Nat.le_of_not_lt hShort)).symm

/-
  No way to another column is cheaper.  A carriage return is one
  byte, and a sequence never less than three.
-/
theorem Leads.cost_between_le
    {source target : Nat}
    {h : Horizontal}
    (hLeads : h.Leads source target) :
    (between source target).cost ≤ h.cost := by
  by_cases hSame : source = target
  · rw [between, if_pos hSame]
    exact Nat.zero_le _
  by_cases hFirst : target = 0
  · rw [between, if_neg hSame, if_pos hFirst]
    change 1 ≤ h.cost
    cases hLeads with
    | stay same => exact absurd same hSame
    | «return» => exact Nat.le_refl 1
    | column =>
        exact Nat.le_trans (by decide)
          (three_le_cursorColumnLength target)
    | forward
    | back =>
        exact Nat.le_trans (by decide) (three_le_relativeLength _)
  rw [cost_between_of_far hSame hFirst]
  cases hLeads with
  | stay same => exact absurd same hSame
  | «return» first => exact absurd first hFirst
  | column => exact Nat.min_le_left _ _
  | forward right =>
      rw [if_pos right]
      exact Nat.min_le_right _ _
  | back left =>
      rw [if_neg (Nat.not_lt.mpr (Nat.le_of_lt left))]
      exact Nat.min_le_right _ _

end Horizontal

------------------------------------------------------------
-- Moves
------------------------------------------------------------

namespace Move

theorem cost_cheaper
    (m n : Move) :
    (m.cheaper n).cost = min m.cost n.cost := by
  unfold cheaper
  split
  · rename_i hLess
    exact (Nat.min_eq_right (Nat.le_of_lt hLess)).symm
  · rename_i hLess
    exact (Nat.min_eq_left (Nat.le_of_not_lt hLess)).symm

/- No way to a position is cheaper than the one that is taken. -/
theorem Leads.cost_best_le
    {source : Option Position}
    {target : Position}
    {m : Move}
    (h : m.Leads source target) :
    (best source target).cost ≤ m.cost := by
  cases source with
  | none =>
      cases h
      exact Nat.le_refl _
  | some p =>
      have hDirect :
          (best (some p) target).cost ≤ (Move.absolute target).cost := by
        simp only [best]
        split <;> simp only [cost_cheaper] <;> omega
      have hByParts :
          (best (some p) target).cost ≤
            (Vertical.between p.row target.row).cost
              + (Horizontal.between p.col target.col).cost := by
        change
          _ ≤ (Move.relative (.between p.row target.row)
            (.between p.col target.col)).cost
        simp only [best]
        split <;> simp only [cost_cheaper] <;> omega
      cases h with
      | absolute => exact hDirect
      | nextLine below first =>
          simp only [best, if_pos (And.intro below first),
            cost_cheaper]
          omega
      | @relative _ _ v h rows columns =>
          rw [(Vertical.leads_between _ _).unique rows] at hByParts
          exact Nat.le_trans hByParts
            (Nat.add_le_add_left columns.cost_between_le v.cost)

/-
  The bytes of a move take the cursor from where it is believed
  to be, or from anywhere, exactly to the target.  Nothing
  scrolls and no slot changes, and of all the ways to the target
  none has fewer bytes.
-/
theorem best_leads_shortest
    {s : Screen}
    (hRows : s.rows < 2 ^ 16)
    (hCols : s.cols < 2 ^ 16)
    {source : Option Position}
    (hSource : ∀ p ∈ source, s.StandsAt p)
    {target : Position}
    (hTarget : target.row < s.rows ∧ target.col < s.cols) :
    let move := best source target
    (∃ last,
      (Receiver.mk .ground s).feed move.bytes =
        ⟨.ground,
          { s with
            row := target.row
            col := target.col
            pendingWrap := false
            last := last }⟩) ∧
      IsLeast
        {n | ∃ way : Move,
          way.Leads source target ∧ way.bytes.length = n}
        move.bytes.length := by
  intro move
  have hLeads : move.Leads source target :=
    leads_best source target
  constructor
  · have hReadable : ∀ c ∈ move.commands, c.IsReadable :=
      hLeads.isReadable (Nat.le_of_lt_succ hRows)
        (Nat.le_of_lt_succ hCols)
        (fun p hp => ⟨(hSource p hp).row_lt, (hSource p hp).col_lt⟩)
        hTarget
    rcases (hLeads.obeyAll hSource hTarget.1
        hTarget.2).exists_last with
      ⟨last, hMoved⟩
    rw [s.moveTo_of_inside hTarget.1 hTarget.2] at hMoved
    refine ⟨last, ?_⟩
    rw [bytes, Receiver.feed_commands s hReadable, hMoved]
  · refine ⟨⟨move, hLeads, rfl⟩, ?_⟩
    rintro n ⟨way, hWay, rfl⟩
    rw [move.length_bytes, way.length_bytes]
    exact hWay.cost_best_le

/- To the start of the next line in two bytes. -/
theorem best_leads_shortest_nextLine :
    let s := (Screen.blank 24 80).moveTo 11 40
    let move := best (some ⟨11, 40⟩) ⟨12, 0⟩
    s.StandsAt ⟨11, 40⟩ ∧
      (∃ last,
        (Receiver.mk .ground s).feed move.bytes =
          ⟨.ground,
            { s with
              row := 12
              col := 0
              pendingWrap := false
              last := last }⟩) ∧
      IsLeast
        {n | ∃ way : Move,
          way.Leads (some ⟨11, 40⟩) ⟨12, 0⟩ ∧
            way.bytes.length = n}
        2 := by
  intro s move
  have hStands : s.StandsAt ⟨11, 40⟩ :=
    ⟨rfl, rfl, by decide, by decide⟩
  have hSource : ∀ p ∈ some ⟨11, 40⟩, s.StandsAt p := by
    intro p hp
    rw [← Option.some.inj hp]
    exact hStands
  have hMove : move = .nextLine := by decide +kernel
  have hTarget :
      (⟨12, 0⟩ : Position).row < s.rows ∧
        (⟨12, 0⟩ : Position).col < s.cols := by
    decide
  have hShortest :=
    best_leads_shortest (by decide) (by decide) hSource hTarget
  refine ⟨hStands, hShortest.1, ?_⟩
  have hLeast := hShortest.2
  rw [show best (some ⟨11, 40⟩) ⟨12, 0⟩ = .nextLine from hMove]
    at hLeast
  exact hLeast

end Move

end Redraw
