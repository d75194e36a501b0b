import Redraw.Frame.Move
import Redraw.Proofs.Screen.Printing

/-
  Moves: every way that is compared leads to its target.

  From a known position the cursor may be placed, sent to the
  next line, or moved by its distance to the target in one
  direction after the other.  A way that is not exact is not
  compared at all, so that it does not matter which is taken.

  Key definitions include:
    * `Command.StandsAlone`: text that adds to nothing before it
    * `Screen.StandsAt`: where the cursor is, ready to move
    * `Vertical.Leads`, `Horizontal.Leads`, `Move.Leads`: the
      ways to a target

  Main declarations:
    * `Move.leads_best`: the move that is taken is such a way
    * `Move.Leads.obeyAll`: such a way leads to its target
    * `Move.Leads.isReadable`: and a terminal can read it
-/

namespace Redraw

------------------------------------------------------------
-- Commands on Screens That Agree
------------------------------------------------------------

/- A command whose text starts with a visible character. -/
def Command.StandsAlone (c : Command) : Prop :=
  ∀ chars, c = .text chars →
    ∃ cols width, IsText cols chars width

namespace Screen

theorem obeyAll_append
    (s : Screen)
    (cs later : List Command) :
    s.obeyAll (cs ++ later) = (s.obeyAll cs).obeyAll later := by
  simp [obeyAll]

/- Screens that agree obey alike, command after command. -/
theorem Agrees.obeyAll
    {s t : Screen}
    (h : s.Agrees t)
    {cs : List Command}
    (hAlone : ∀ c ∈ cs, c.StandsAlone) :
    (s.obeyAll cs).Agrees (t.obeyAll cs) := by
  induction cs generalizing s t with
  | nil => exact h
  | cons c cs ih =>
      exact
        ih (h.obey (hAlone c (by simp)))
          (fun d hd => hAlone d (by simp [hd]))

/-
  A screen whose cursor is at a position, inside and not about
  to wrap.
-/
structure StandsAt
    (s : Screen)
    (p : Position) : Prop where
  position : s.position = p
  pendingWrap : s.pendingWrap = false
  row_lt : p.row < s.rows
  col_lt : p.col < s.cols

/- Inside a screen the cursor is placed exactly. -/
theorem moveTo_of_inside
    (s : Screen)
    {row col : Nat}
    (hRow : row < s.rows)
    (hCol : col < s.cols) :
    s.moveTo row col =
      { s with
        row := row
        col := col
        pendingWrap := false
        last := none } := by
  have hMinRow : min row (s.rows - 1) = row := by omega
  have hMinCol : min col (s.cols - 1) = col := by omega
  rw [moveTo, hMinRow, hMinCol]

/- Moving to where the cursor is changes nothing that shows. -/
theorem StandsAt.agrees_moveTo
    {s : Screen}
    {p : Position}
    (h : s.StandsAt p) :
    s.Agrees (s.moveTo p.row p.col) := by
  rw [moveTo_of_inside s h.row_lt h.col_lt, ← h.pendingWrap,
    ← h.position]
  rfl

end Screen

------------------------------------------------------------
-- The Ways to a Target
------------------------------------------------------------

/- The ways to another row: by the distance. -/
inductive Vertical.Leads
    (source target : Nat) :
    Vertical → Prop
  | stay
      (same : source = target) :
      Leads source target .stay
  | up
      (above : target < source) :
      Leads source target (.up (source - target))
  | down
      (below : source < target) :
      Leads source target (.down (target - source))

/- The ways to another column: by its number or the distance. -/
inductive Horizontal.Leads
    (source target : Nat) :
    Horizontal → Prop
  | stay
      (same : source = target) :
      Leads source target .stay
  | return
      (first : target = 0) :
      Leads source target .return
  | column : Leads source target (.column target)
  | forward
      (right : source < target) :
      Leads source target (.forward (target - source))
  | back
      (left : target < source) :
      Leads source target (.back (source - target))

/-
  The ways to a position.  From an unknown position the cursor
  can only be placed.
-/
inductive Move.Leads :
    Option Position → Position → Move → Prop
  | absolute
      (source : Option Position)
      (target : Position) :
      Leads source target (.absolute target)
  | nextLine
      {p target : Position}
      (below : target.row = p.row + 1)
      (first : target.col = 0) :
      Leads (some p) target .nextLine
  | relative
      {p target : Position}
      {v : Vertical}
      {h : Horizontal}
      (rows : v.Leads p.row target.row)
      (columns : h.Leads p.col target.col) :
      Leads (some p) target (.relative v h)

------------------------------------------------------------
-- The Way That Is Taken
------------------------------------------------------------

theorem Vertical.leads_between
    (source target : Nat) :
    (between source target).Leads source target := by
  unfold between
  split
  · rename_i hAbove
    exact .up hAbove
  · split
    · rename_i hBelow
      exact .down hBelow
    · exact .stay (by omega)

theorem Horizontal.leads_between
    (source target : Nat) :
    (between source target).Leads source target := by
  unfold between
  by_cases hSame : source = target
  · rw [if_pos hSame]
    exact .stay hSame
  by_cases hFirst : target = 0
  · rw [if_neg hSame, if_pos hFirst]
    exact .return hFirst
  rw [if_neg hSame, if_neg hFirst]
  have hByDistance :
      Leads source target
        (if source < target then .forward (target - source)
          else .back (source - target)) := by
    by_cases hRight : source < target
    · rw [if_pos hRight]
      exact .forward hRight
    · rw [if_neg hRight]
      exact .back (by omega)
  by_cases hShort :
      (column target).cost <
        (if source < target then forward (target - source)
          else back (source - target)).cost
  · simp only [if_pos hShort]
    exact .column
  · simp only [if_neg hShort]
    exact hByDistance

/- Of two ways the cheaper one is a way too. -/
theorem Move.Leads.cheaper
    {source : Option Position}
    {target : Position}
    {m n : Move}
    (hm : m.Leads source target)
    (hn : n.Leads source target) :
    (m.cheaper n).Leads source target := by
  unfold Move.cheaper
  split
  · exact hn
  · exact hm

theorem Move.leads_best
    (source : Option Position)
    (target : Position) :
    (best source target).Leads source target := by
  cases source with
  | none => exact .absolute none target
  | some p =>
      have hRelative :
          (relative (.between p.row target.row)
            (.between p.col target.col)).Leads (some p) target :=
        .relative (Vertical.leads_between _ _)
          (Horizontal.leads_between _ _)
      unfold best
      simp only
      split
      · rename_i hNext
        exact
          ((Leads.absolute (some p) target).cheaper
            (.nextLine hNext.1 hNext.2)).cheaper hRelative
      · exact (Leads.absolute (some p) target).cheaper hRelative

------------------------------------------------------------
-- Where the Ways Lead
------------------------------------------------------------

/- A vertical part leads to its row. -/
theorem Vertical.Leads.obeyAll
    {s : Screen}
    {p : Position}
    (hStands : s.StandsAt p)
    {target : Nat}
    {v : Vertical}
    (h : v.Leads p.row target) :
    (s.obeyAll v.commands).Agrees (s.moveTo target p.col) := by
  rcases hStands.position with rfl
  cases h with
  | stay same =>
      rw [← same]
      exact hStands.agrees_moveTo
  | up above =>
      have hUp : s.row - max 1 (s.row - target) = target := by
        simp only [Screen.position] at above
        omega
      change (s.moveTo (s.row - max 1 (s.row - target)) s.col).Agrees _
      rw [hUp]
      rfl
  | down below =>
      have hDown : s.row + max 1 (target - s.row) = target := by
        simp only [Screen.position] at below
        omega
      change (s.moveTo (s.row + max 1 (target - s.row)) s.col).Agrees _
      rw [hDown]
      rfl

/- A horizontal part leads to its column. -/
theorem Horizontal.Leads.obeyAll
    {s : Screen}
    {p : Position}
    (hStands : s.StandsAt p)
    {target : Nat}
    {h : Horizontal}
    (hLeads : h.Leads p.col target) :
    (s.obeyAll h.commands).Agrees (s.moveTo p.row target) := by
  rcases hStands.position with rfl
  cases hLeads with
  | stay same =>
      rw [← same]
      exact hStands.agrees_moveTo
  | «return» first =>
      have hInside : 0 < s.cols := by
        have := hStands.col_lt
        omega
      rw [first, s.moveTo_of_inside hStands.row_lt hInside]
      rfl
  | column => rfl
  | forward right =>
      have hForward : s.col + max 1 (target - s.col) = target := by
        simp only [Screen.position] at right
        omega
      change (s.moveTo s.row (s.col + max 1 (target - s.col))).Agrees _
      rw [hForward]
      rfl
  | back left =>
      have hBack : s.col - max 1 (s.col - target) = target := by
        simp only [Screen.position] at left
        omega
      change (s.moveTo s.row (s.col - max 1 (s.col - target))).Agrees _
      rw [hBack]
      rfl

namespace Move

/- No part of a move is text. -/
theorem standsAlone_commands
    (m : Move) :
    ∀ c ∈ m.commands, c.StandsAlone := by
  have hVertical (v : Vertical) :
      ∀ c ∈ v.commands, c.StandsAlone := by
    cases v <;>
      simp [Vertical.commands, Command.StandsAlone]
  have hHorizontal (h : Horizontal) :
      ∀ c ∈ h.commands, c.StandsAlone := by
    cases h <;>
      simp [Horizontal.commands, Command.StandsAlone]
  intro c hc
  cases m with
  | absolute p =>
      simp only [commands, List.mem_singleton] at hc
      simp [hc, Command.StandsAlone]
  | nextLine =>
      simp only [commands, List.mem_cons, List.not_mem_nil,
        or_false] at hc
      rcases hc with rfl | rfl <;> simp [Command.StandsAlone]
  | relative v h =>
      rcases List.mem_append.mp hc with hv | hh
      · exact hVertical v c hv
      · exact hHorizontal h c hh

/-
  A way leads to its target.  The row is reached first, and from
  there the column; no line feed is at the last line.
-/
theorem Leads.obeyAll
    {s : Screen}
    {source : Option Position}
    (hSource : ∀ p ∈ source, s.StandsAt p)
    {target : Position}
    (hRow : target.row < s.rows)
    (hCol : target.col < s.cols)
    {m : Move}
    (h : m.Leads source target) :
    (s.obeyAll m.commands).Agrees
      (s.moveTo target.row target.col) := by
  cases h with
  | absolute => rfl
  | @nextLine p _ below first =>
      have hStands := hSource p rfl
      rcases hStands.position with rfl
      have hBelow : s.row + 1 < s.rows := by
        rw [← show target.row = s.row + 1 from below]
        exact hRow
      rw [s.moveTo_of_inside hRow hCol, below, first]
      simp only [commands, Screen.obeyAll, List.foldl_cons,
        List.foldl_nil, Screen.obey, Screen.carriageReturn,
        Screen.lineFeed, Screen.scroll, hBelow, if_true]
      rfl
  | @relative p _ v h rows columns =>
      have hStands := hSource p rfl
      have hDown := rows.obeyAll hStands
      have hMoved := s.moveTo_of_inside hRow hStands.col_lt
      have hThere :
          (s.moveTo target.row p.col).StandsAt
            ⟨target.row, p.col⟩ := by
        rw [hMoved]
        exact ⟨rfl, rfl, hRow, hStands.col_lt⟩
      have hAcross := columns.obeyAll hThere
      have hTwice :
          (s.moveTo target.row p.col).moveTo target.row target.col =
            s.moveTo target.row target.col := by
        rw [hMoved, s.moveTo_of_inside hRow hCol]
        exact Screen.moveTo_of_inside _ hRow hCol
      change (s.obeyAll (v.commands ++ h.commands)).Agrees _
      rw [Screen.obeyAll_append]
      refine (hDown.obeyAll ?_).trans ?_
      · exact fun c hc =>
          standsAlone_commands (Move.relative .stay h) c hc
      · rw [← hTwice]
        exact hAcross

/- The numbers of a way between positions that are inside. -/
theorem Leads.isReadable
    {rows cols : Nat}
    (hRows : rows ≤ Parser.maxParameter)
    (hCols : cols ≤ Parser.maxParameter)
    {source : Option Position}
    (hSource : ∀ p ∈ source, p.row < rows ∧ p.col < cols)
    {target : Position}
    (hTarget : target.row < rows ∧ target.col < cols)
    {m : Move}
    (h : m.Leads source target) :
    ∀ c ∈ m.commands, c.IsReadable := by
  intro c hc
  cases h with
  | absolute =>
      rw [List.mem_singleton.mp hc]
      exact ⟨by omega, by omega⟩
  | nextLine =>
      simp only [commands, List.mem_cons, List.not_mem_nil,
        or_false] at hc
      rcases hc with rfl | rfl <;> trivial
  | @relative p _ v h rows columns =>
      have hInside := hSource p rfl
      rcases List.mem_append.mp hc with hv | hh
      · cases rows with
        | stay => cases hv
        | up
        | down =>
            rw [List.mem_singleton.mp hv]
            simp only [Command.IsReadable]
            omega
      · cases columns with
        | stay => cases hh
        | «return» =>
            rw [List.mem_singleton.mp hh]
            trivial
        | column
        | forward
        | back =>
            rw [List.mem_singleton.mp hh]
            simp only [Command.IsReadable]
            omega

end Move

end Redraw
