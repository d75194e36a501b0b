import Redraw.Error
import Redraw.Proofs.Screen.Obedience

/-
  Printing: what the operations of a screen leave as it was.

  An operation is described by the slots it changes; everything
  else follows from that.  No operation changes the extent of a
  screen, and none that is not for marks without a width looks
  at the place where those are added.

  Key definitions include:
    * `Screen.extent`

  Main declarations:
    * `Screen.splitPair_eq`: the slots that are destroyed
    * `Screen.extent_perform`, `Receiver.extent_feed`
    * `Screen.Agrees.obey`: screens that agree go on alike
    * `Screen.printAll_within`: text that stays in its line
-/

namespace Redraw

namespace Screen

------------------------------------------------------------
-- Destroyed Halves
------------------------------------------------------------

/-
  Splitting a pair changes slots only: the one to the left if
  the position is a right half, the one to the right if that is
  a right half.
-/
theorem splitPair_eq
    (s : Screen)
    (row col : Nat) :
    s.splitPair row col =
      { s with
        slots := fun r c =>
          if r = row ∧ c = col + 1 ∧ c < s.cols
              ∧ (s.slots row c).continuation = true then
            .blank .default
          else if r = row ∧ c + 1 = col
              ∧ (s.slots row col).continuation = true then
            .blank .default
          else s.slots r c } := by
  have hLeft :
      (if (s.slots row col).continuation && decide (0 < col) then
          s.setSlot row (col - 1) (.blank .default)
        else s) =
        { s with
          slots := fun r c =>
            if r = row ∧ c + 1 = col
                ∧ (s.slots row col).continuation = true then
              .blank .default
            else s.slots r c } := by
    split
    · rename_i h
      simp only [Bool.and_eq_true, decide_eq_true_eq] at h
      simp only [setSlot, h.1, and_true]
      congr 1
      funext r c
      congr 1
      simp only [eq_iff_iff, and_congr_right_iff]
      omega
    · rename_i h
      simp only [Bool.and_eq_true, decide_eq_true_eq] at h
      have hSlots :
          (fun r c =>
            if r = row ∧ c + 1 = col
                ∧ (s.slots row col).continuation = true then
              .blank .default
            else s.slots r c) = s.slots := by
        funext r c
        rw [if_neg]
        rintro ⟨_, hCol, hRight⟩
        exact h ⟨hRight, by omega⟩
      rw [hSlots]
  unfold splitPair
  simp only [hLeft]
  split
  · rename_i h
    simp only [Bool.and_eq_true, decide_eq_true_eq] at h
    simp only [setSlot]
    congr 1
    funext r c
    by_cases hHere : r = row ∧ c = col + 1
    · rcases hHere with ⟨rfl, rfl⟩
      simp [h]
    · have hNot :
          ¬ (r = row ∧ c = col + 1 ∧ c < s.cols
            ∧ (s.slots row c).continuation = true) :=
        fun hAll => hHere ⟨hAll.1, hAll.2.1⟩
      rw [if_neg hHere, if_neg hNot]
  · rename_i h
    simp only [Bool.and_eq_true, decide_eq_true_eq] at h
    congr 1
    funext r c
    have hNot :
        ¬ (r = row ∧ c = col + 1 ∧ c < s.cols
          ∧ (s.slots row c).continuation = true) := by
      rintro ⟨_, rfl, hRight⟩
      exact h hRight
    rw [if_neg hNot]

------------------------------------------------------------
-- Extents
------------------------------------------------------------

/- The extent of a screen. -/
def extent (s : Screen) : Size :=
  ⟨s.rows, s.cols⟩

@[simp] theorem extent_setSlot
    (s : Screen)
    (row col : Nat)
    (slot : Slot) :
    (s.setSlot row col slot).extent = s.extent := rfl

@[simp] theorem extent_splitPair
    (s : Screen)
    (row col : Nat) :
    (s.splitPair row col).extent = s.extent := by
  rw [splitPair_eq]
  rfl

@[simp] theorem extent_moveTo
    (s : Screen)
    (row col : Nat) :
    (s.moveTo row col).extent = s.extent := rfl

@[simp] theorem extent_scroll
    (s : Screen) :
    s.scroll.extent = s.extent := by
  unfold scroll
  split <;> rfl

@[simp] theorem extent_lineFeed
    (s : Screen) :
    s.lineFeed.extent = s.extent :=
  extent_scroll _

@[simp] theorem extent_carriageReturn
    (s : Screen) :
    s.carriageReturn.extent = s.extent := rfl

@[simp] theorem extent_wrap
    (s : Screen) :
    s.wrap.extent = s.extent :=
  extent_scroll _

@[simp] theorem extent_eraseLine
    (s : Screen) :
    s.eraseLine.extent = s.extent :=
  extent_splitPair s s.row s.col

@[simp] theorem extent_clear
    (s : Screen) :
    s.clear.extent = s.extent := rfl

@[simp] theorem extent_combine
    (s : Screen)
    (c : Char) :
    (s.combine c).extent = s.extent := by
  unfold combine
  split <;> rfl

@[simp] theorem extent_makeRoom
    (s : Screen)
    (wide : Bool) :
    (s.makeRoom wide).extent = s.extent := by
  unfold makeRoom
  split
  · rw [extent_wrap, extent_setSlot, extent_splitPair]
  · rfl

@[simp] theorem extent_place
    (s : Screen)
    (c : Char)
    (width : Nat) :
    (s.place c width).extent = s.extent := by
  simp only [place, splitPair_eq]
  split <;> rfl

@[simp] theorem extent_print
    (s : Screen)
    (c : Char) :
    (s.print c).extent = s.extent := by
  simp only [print, apply_ite extent, extent_combine, extent_place,
    extent_makeRoom, extent_wrap, ite_self]

@[simp] theorem extent_printAll
    (s : Screen)
    (cs : List Char) :
    (s.printAll cs).extent = s.extent := by
  induction cs generalizing s with
  | nil => rfl
  | cons c cs ih =>
      exact (ih (s.print c)).trans (extent_print s c)

@[simp] theorem extent_setMode
    (s : Screen)
    (mode : Nat)
    (on : Bool) :
    (s.setMode mode on).extent = s.extent := by
  unfold setMode
  split <;> rfl

/- Nothing that is read changes the extent of a screen. -/
@[simp] theorem extent_perform
    (s : Screen)
    (action : Action) :
    (s.perform action).extent = s.extent := by
  cases action with
  | print c => exact extent_print s c
  | control byte =>
      simp only [perform, control]
      split
      · exact extent_carriageReturn s
      · split
        · exact extent_lineFeed s
        · split
          · exact extent_moveTo s s.row (s.col - 1)
          · rfl
  | sequence seq =>
      simp only [perform, runSequence]
      split
      · simp only [plainSequence]
        split <;> try rfl
        · split <;> rfl
        · split
          · exact extent_eraseLine s
          · rfl
      · split
        · generalize seq.groups = groups
          induction groups generalizing s with
          | nil => rfl
          | cons g groups ih =>
              exact (ih _).trans (extent_setMode s _ _)
        · split <;> rfl

theorem extent_performAll
    (s : Screen)
    (actions : List Action) :
    (s.performAll actions).extent = s.extent := by
  induction actions generalizing s with
  | nil => rfl
  | cons action actions ih =>
      exact (ih (s.perform action)).trans (extent_perform s action)

end Screen

/- A terminal keeps its extent, whatever it is fed. -/
theorem Receiver.extent_feed
    (r : Receiver)
    (bytes : List UInt8) :
    (r.feed bytes).screen.extent = r.screen.extent := by
  rw [Receiver.feed_eq_performAll]
  exact Screen.extent_performAll _ _

namespace Screen

------------------------------------------------------------
-- Screens That Agree
------------------------------------------------------------

@[refl] theorem Agrees.refl
    (s : Screen) :
    s.Agrees s := rfl

theorem Agrees.trans
    {s t u : Screen}
    (h : s.Agrees t)
    (hNext : t.Agrees u) :
    s.Agrees u :=
  Eq.trans h hNext

/- Screens that agree differ in one field at most. -/
theorem Agrees.exists_last
    {s t : Screen}
    (h : s.Agrees t) :
    ∃ l, s = { t with last := l } := by
  refine ⟨s.last, ?_⟩
  have hFields := congrArg (fun u : Screen => { u with last := s.last }) h
  exact hFields

theorem splitPair_with_last
    (s : Screen)
    (l : Option Position)
    (row col : Nat) :
    splitPair { s with last := l } row col =
      { s.splitPair row col with last := l } := by
  simp only [splitPair_eq]

theorem scroll_with_last
    (s : Screen)
    (l : Option Position) :
    scroll { s with last := l } = { s.scroll with last := l } := by
  unfold scroll
  split <;> rfl

theorem wrap_with_last
    (s : Screen)
    (l : Option Position) :
    wrap { s with last := l } = { s.wrap with last := l } :=
  scroll_with_last { s with col := 0, pendingWrap := false } l

theorem makeRoom_with_last
    (s : Screen)
    (l : Option Position)
    (wide : Bool) :
    makeRoom { s with last := l } wide =
      { s.makeRoom wide with last := l } := by
  unfold makeRoom
  split
  · rw [splitPair_with_last]
    exact
      wrap_with_last
        ((s.splitPair s.row s.col).setSlot s.row s.col s.erased) l
  · rfl

theorem place_with_last
    (s : Screen)
    (l : Option Position)
    (c : Char)
    (width : Nat) :
    place { s with last := l } c width = s.place c width := by
  simp only [place, splitPair_eq]
  split <;> rfl

/- A visible character looks the same wherever marks are added. -/
theorem print_with_last
    (s : Screen)
    (l : Option Position)
    {c : Char}
    (hPrintable : isPrintable c = true)
    (hVisible : 0 < charWidth c) :
    print { s with last := l } c = s.print c := by
  have hControl : isControl c = false := by
    simpa [isPrintable] using hPrintable
  simp only [print, hControl, Bool.false_eq_true, if_false,
    if_neg (Nat.ne_of_gt hVisible)]
  have hReady :
      (if s.pendingWrap then wrap { s with last := l }
        else { s with last := l }) =
        { (if s.pendingWrap then s.wrap else s) with last := l } := by
    split
    · exact wrap_with_last s l
    · rfl
  rw [hReady, makeRoom_with_last, place_with_last]

/- Text that starts with a visible character starts afresh. -/
theorem printAll_with_last
    (s : Screen)
    (l : Option Position)
    {cols width : Nat}
    {chars : List Char}
    (h : IsText cols chars width) :
    printAll { s with last := l } chars = s.printAll chars := by
  cases chars with
  | nil => exact absurd h.visible (by simp)
  | cons c cs =>
      have hPrintable : isPrintable c = true := by
        have := h.printable
        simp only [List.all_cons, Bool.and_eq_true] at this
        exact this.1
      have hVisible : 0 < charWidth c := by
        simpa using h.visible
      simp only [printAll, List.foldl_cons,
        print_with_last s l hPrintable hVisible]

/- Screens that agree obey alike. -/
theorem Agrees.obey
    {s t : Screen}
    (h : s.Agrees t)
    {c : Command}
    (hText :
      ∀ chars, c = .text chars →
        ∃ cols width, IsText cols chars width) :
    (s.obey c).Agrees (t.obey c) := by
  rcases h.exists_last with ⟨l, rfl⟩
  cases c with
  | text chars =>
      rcases hText chars rfl with ⟨cols, width, hIs⟩
      simp only [Screen.obey]
      rw [printAll_with_last t l hIs]
  | eraseToEndOfLine =>
      simp only [Screen.obey, eraseLine, splitPair_with_last]
      rfl
  | setStyle sgr =>
      simp only [Screen.obey, restyle]
      split <;> rfl
  | _ => rfl

------------------------------------------------------------
-- Text Within a Line
------------------------------------------------------------

/- A visible character that fits is put where the cursor is. -/
theorem print_of_fits
    {s : Screen}
    {c : Char}
    (hPrintable : isPrintable c = true)
    (hVisible : 0 < charWidth c)
    (hPending : s.pendingWrap = false)
    (hFits : s.col + charWidth c ≤ s.cols) :
    s.print c = s.place c (charWidth c) := by
  have hControl : isControl c = false := by
    simpa [isPrintable] using hPrintable
  have hRoom :
      s.makeRoom (decide (charWidth c = 2)) = s := by
    unfold makeRoom
    rw [if_neg]
    simp only [Bool.and_eq_true, decide_eq_true_eq]
    omega
  simp only [print, hControl, Bool.false_eq_true, if_false,
    if_neg (Nat.ne_of_gt hVisible), hPending, hRoom]

/- A mark is added to the last character. -/
theorem print_of_mark
    (s : Screen)
    {c : Char}
    (hMark : charWidth c = 0) :
    s.print c = s.combine c := by
  simp [print, hMark]

/- A mark changes a slot only. -/
theorem combine_eq
    (s : Screen)
    (c : Char) :
    ∃ slots, s.combine c = { s with slots := slots } := by
  unfold combine
  split
  · exact ⟨s.slots, rfl⟩
  · exact ⟨_, rfl⟩

/- Text that ends before the last column leaves the cursor there. -/
theorem printAll_within
    {s : Screen}
    {cs : List Char}
    (hPrintable : cs.all isPrintable = true)
    (hPending : s.pendingWrap = false)
    (hFits : s.col + (cs.map charWidth).sum < s.cols) :
    (s.printAll cs).position =
        ⟨s.row, s.col + (cs.map charWidth).sum⟩ ∧
      (s.printAll cs).pendingWrap = false := by
  induction cs generalizing s with
  | nil => exact ⟨rfl, hPending⟩
  | cons c cs ih =>
      simp only [List.all_cons, Bool.and_eq_true] at hPrintable
      simp only [List.map_cons, List.sum_cons] at hFits ⊢
      change
        ((s.print c).printAll cs).position = _ ∧
          ((s.print c).printAll cs).pendingWrap = false
      by_cases hMark : charWidth c = 0
      · rw [print_of_mark s hMark, hMark, Nat.zero_add]
        rcases combine_eq s c with ⟨slots, hCombine⟩
        rw [hCombine]
        refine ih hPrintable.2 hPending ?_
        change s.col + (cs.map charWidth).sum < s.cols
        omega
      · have hShort : s.col + charWidth c < s.cols := by omega
        rw [print_of_fits hPrintable.1 (by omega) hPending
          (by omega)]
        have hPlace :
            (s.place c (charWidth c)).cols = s.cols ∧
              (s.place c (charWidth c)).row = s.row ∧
              (s.place c (charWidth c)).col =
                s.col + charWidth c ∧
              (s.place c (charWidth c)).pendingWrap = false := by
          have hNot : ¬ s.cols ≤ s.col + charWidth c := by omega
          simp only [place, splitPair_eq, hNot, if_false]
          split <;> simp [setSlot]
        rcases hPlace with ⟨hCols, hRow, hCol, hWrap⟩
        have hRest :=
          ih (s := s.place c (charWidth c)) hPrintable.2 hWrap
            (by omega)
        rw [hRow, hCol, Nat.add_assoc] at hRest
        exact hRest

end Screen

end Redraw
