import Redraw.Proofs.Plan.Faults
import Redraw.Proofs.Plan.Frays
import Redraw.Proofs.Plan.Steps

/-
  Acceptance: which screens can be drawn.

  A repaint starts from narrow cells only, so that no pair can
  be frayed and a screen is refused where validation refuses
  it.  From a screen that is valid, a screen is drawn unless it
  is not valid itself or frays a pair of the other, which no
  two composed screens do.

  Key definitions include:
    * `Grid.FraysAt`

  Main declarations:
    * `Pen.drawLines_eq_error_iff_checkLines`
    * `Pen.exists_fray_of_drawLines`, `Pen.not_fraysAt_of_drawLines`
    * `Plan.repaint_eq_error_iff`, `Plan.exists_fray_of_diffGrids`
    * `Plan.accepts_alike`
-/

namespace Redraw

------------------------------------------------------------
-- Lines
------------------------------------------------------------

namespace Line

variable {old new : Line}

/- If a pair is frayed, one of them is the first. -/
theorem FraysAt.exists_first
    {col : Nat}
    (h : old.FraysAt new col) :
    ∃ c, old.FraysFirst new 0 c := by
  induction col using Nat.strongRecOn with
  | ind col ih =>
      by_cases hEarlier : ∃ c, c < col ∧ old.FraysAt new c
      · rcases hEarlier with ⟨c, hBefore, hFrays⟩
        exact ih c hBefore hFrays
      · exact
          ⟨col, Nat.zero_le col, h,
            fun c _ hBefore hFrays => hEarlier ⟨c, hBefore, hFrays⟩⟩

/- A matched pair ends in the style that it starts in. -/
theorem Matched.not_fraysAt
    (hOld : old.Matched)
    (hNew : new.Matched)
    (col : Nat) :
    ¬ old.FraysAt new col := by
  rintro ⟨lead, hWide, hLead, hBefore, hTails⟩
  apply hTails
  rw [hNew.sided.after hLead hWide, hOld.sided.after hBefore hWide]

end Line

------------------------------------------------------------
-- Drawing Lines
------------------------------------------------------------

namespace Pen

variable {cols row : Nat}
variable {pen : Pen}
variable {prev curr : Line}
variable {prevs currs : List Line}
variable {e : Error}

/- Lines of whole units are refused for a frayed pair only. -/
theorem drawLine_eq_error_iff
    (hLength : prev.length = curr.length)
    (hPrev : prev.Paired)
    (hCurr : curr.Paired) :
    pen.drawLine cols row prev curr = .error e ↔
      ∃ c, prev.FraysFirst curr 0 c ∧
        e = .invalidWideCharPairing row (c + 1) := by
  rw [← changedSpans_eq_error_iff hLength hCurr, drawLine,
    (prev.check_eq_ok_iff row).mpr hPrev,
    (curr.check_eq_ok_iff row).mpr hCurr]
  exact bind_ok_eq_error_iff fun spans => ⟨_, rfl⟩

/- Over narrow cells a line is refused as its check refuses it. -/
theorem drawLine_eq_error_iff_check
    (hLength : prev.length = curr.length)
    (hNarrow : ∀ cell ∈ prev, cell.width = 1) :
    pen.drawLine cols row prev curr = .error e ↔
      curr.check row = .error e := by
  have hPrev : prev.Paired :=
    (Line.matched_of_narrow hNarrow).paired
  cases hCheck : curr.check row with
  | error e' =>
      rw [drawLine, (prev.check_eq_ok_iff row).mpr hPrev, hCheck]
      change (.error e' : Except Error Stroke) = .error e ↔ _
      rw [Except.error.injEq, Except.error.injEq]
  | ok done =>
      have hCurr := (curr.check_eq_ok_iff row).mp hCheck
      rw [drawLine_eq_error_iff hLength hPrev hCurr]
      refine ⟨?_, nofun⟩
      rintro ⟨c, hFirst, -⟩
      rcases hFirst.frays with ⟨lead, hWide, -, hOld, -⟩
      have hOne := hNarrow lead (List.mem_of_getElem? hOld)
      rw [Cell.width_of_isWide hWide] at hOne
      cases hOne

/- The first line that cannot be drawn is where drawing fails. -/
theorem drawLines_cons_eq_error_iff :
    drawLines cols row (prev :: prevs) (curr :: currs) pen =
        .error e ↔
      (prev = curr ∧
          drawLines cols (row + 1) prevs currs pen = .error e) ∨
        (prev ≠ curr ∧
          (pen.drawLine cols row prev curr = .error e ∨
            ∃ drawn,
              pen.drawLine cols row prev curr = .ok drawn ∧
                drawLines cols (row + 1) prevs currs drawn.pen =
                  .error e)) := by
  have hRest (p : Pen) (finish : Stroke × Nat → Stroke × Nat) :
      (drawLines cols (row + 1) prevs currs p >>= fun later =>
          .ok (finish later)) = .error e ↔
        drawLines cols (row + 1) prevs currs p = .error e :=
    bind_ok_eq_error_iff fun later => ⟨_, rfl⟩
  by_cases hSame : prev = curr
  · rw [drawLines, if_pos hSame]
    refine (hRest pen fun later => (later.1, later.2 + 1)).trans ?_
    simp [hSame]
  · rw [drawLines, if_neg hSame, bind_eq_error_iff]
    simp only [hSame, ne_eq, not_false_eq_true, true_and, false_and,
      false_or]
    refine or_congr_right (exists_congr fun drawn => ?_)
    exact
      and_congr_right' (hRest drawn.pen fun later =>
        (drawn.andThen fun _ => later.1, later.2))

/-
  Over narrow cells drawing fails where validation fails.  By
  the lines: one that is equal has narrow cells only.
-/
theorem drawLines_eq_error_iff_checkLines
    (hCount : prevs.length = currs.length)
    (hPrevs : ∀ line ∈ prevs, line.length = cols)
    (hCurrs : ∀ line ∈ currs, line.length = cols)
    (hNarrow : ∀ line ∈ prevs, ∀ cell ∈ line, cell.width = 1) :
    drawLines cols row prevs currs pen = .error e ↔
      Grid.checkLines row currs = .error e := by
  induction prevs generalizing row currs pen with
  | nil =>
      obtain rfl : currs = [] :=
        List.length_eq_zero_iff.mp hCount.symm
      exact ⟨nofun, nofun⟩
  | cons prev prevs ih =>
      cases currs with
      | nil => cases hCount
      | cons curr currs =>
          rw [List.forall_mem_cons] at hPrevs hCurrs hNarrow
          have hLength : prev.length = curr.length :=
            hPrevs.1.trans hCurrs.1.symm
          have hBelow (pen : Pen) :
              drawLines cols (row + 1) prevs currs pen = .error e ↔
                Grid.checkLines (row + 1) currs = .error e :=
            ih (Nat.succ.inj hCount) hPrevs.2 hCurrs.2 hNarrow.2
          have hLine (e' : Error) :
              pen.drawLine cols row prev curr = .error e' ↔
                curr.check row = .error e' :=
            drawLine_eq_error_iff_check hLength hNarrow.1
          rw [drawLines_cons_eq_error_iff, Grid.checkLines,
            bind_eq_error_iff]
          cases hCheck : curr.check row with
          | error e' =>
              have hDiffer : prev ≠ curr := by
                rintro rfl
                rw [(prev.check_eq_ok_iff row).mpr
                  (Line.matched_of_narrow hNarrow.1).paired] at hCheck
                cases hCheck
              simp [(hLine e').mpr hCheck, hDiffer]
          | ok done =>
              cases hDrawn : pen.drawLine cols row prev curr with
              | error e' =>
                  rw [(hLine e').mp hDrawn] at hCheck
                  cases hCheck
              | ok drawn =>
                  simp only [hBelow, reduceCtorEq, false_or,
                    Except.ok.injEq, exists_eq_left', ← or_and_right,
                    em, true_and, exists_const]

/-
  Drawing lines of whole units fails at a frayed pair.  By the
  lines: one that is drawn and is followed by the failure, or
  that fails itself.
-/
theorem exists_fray_of_drawLines
    (hCount : prevs.length = currs.length)
    (hPrevs : ∀ line ∈ prevs, line.length = cols ∧ line.Paired)
    (hCurrs : ∀ line ∈ currs, line.length = cols ∧ line.Paired)
    (h : drawLines cols row prevs currs pen = .error e) :
    ∃ i old new c,
      prevs[i]? = some old ∧ currs[i]? = some new ∧
        old.FraysAt new c ∧
          e = .invalidWideCharPairing (row + i) (c + 1) := by
  induction prevs generalizing row currs pen with
  | nil =>
      obtain rfl : currs = [] :=
        List.length_eq_zero_iff.mp hCount.symm
      cases h
  | cons prev prevs ih =>
      cases currs with
      | nil => cases hCount
      | cons curr currs =>
          rw [List.forall_mem_cons] at hPrevs hCurrs
          have hBelow
              {pen : Pen}
              (hRest :
                drawLines cols (row + 1) prevs currs pen =
                  .error e) :
              ∃ i old new c,
                (prev :: prevs)[i]? = some old ∧
                  (curr :: currs)[i]? = some new ∧
                  old.FraysAt new c ∧
                    e = .invalidWideCharPairing (row + i) (c + 1) := by
            rcases ih (Nat.succ.inj hCount) hPrevs.2 hCurrs.2 hRest with
              ⟨i, old, new, c, hOld, hNew, hFrays, rfl⟩
            refine ⟨i + 1, old, new, c, hOld, hNew, hFrays, ?_⟩
            rw [Nat.add_right_comm, Nat.add_assoc]
          rcases drawLines_cons_eq_error_iff.mp h with
            ⟨-, hRest⟩ | ⟨-, hFails | ⟨drawn, -, hRest⟩⟩
          · exact hBelow hRest
          · have hLength := hPrevs.1.1.trans hCurrs.1.1.symm
            rcases (drawLine_eq_error_iff hLength hPrevs.1.2
              hCurrs.1.2).mp hFails with ⟨c, hFirst, rfl⟩
            exact ⟨0, prev, curr, c, rfl, rfl, hFirst.frays, rfl⟩
          · exact hBelow hRest

/- Lines that could be drawn fray no pair. -/
theorem not_fraysAt_of_drawLines
    (hPrevs : ∀ line ∈ prevs, line.length = cols)
    (hCurrs : ∀ line ∈ currs, line.length = cols)
    {stroke : Stroke}
    {equal : Nat}
    (h : drawLines cols row prevs currs pen = .ok (stroke, equal))
    {i : Nat}
    {old new : Line}
    (hOld : prevs[i]? = some old)
    (hNew : currs[i]? = some new)
    (c : Nat) :
    ¬ old.FraysAt new c := by
  induction i generalizing row prevs currs pen stroke equal with
  | zero =>
      obtain ⟨prevs, rfl⟩ : ∃ rest, prevs = old :: rest :=
        List.head?_eq_some_iff.mp (List.head?_eq_getElem?.trans hOld)
      obtain ⟨currs, rfl⟩ : ∃ rest, currs = new :: rest :=
        List.head?_eq_some_iff.mp (List.head?_eq_getElem?.trans hNew)
      rw [List.forall_mem_cons] at hPrevs hCurrs
      rcases drawLines_cons_eq_ok h with
        ⟨rfl, -⟩ | ⟨-, drawn, -, hDrawn, -⟩
      · rintro ⟨lead, -, -, -, hTails⟩
        exact hTails rfl
      · intro hFrays
        have hLength := hPrevs.1.trans hCurrs.1.symm
        rcases hFrays.exists_first with ⟨d, hFirst⟩
        rcases drawLine_eq_ok hDrawn with ⟨hPrev, hCurr, -⟩
        rw [(drawLine_eq_error_iff hLength hPrev hCurr).mpr
          ⟨d, hFirst, rfl⟩] at hDrawn
        cases hDrawn
  | succ i ih =>
      cases prevs with
      | nil => cases hOld
      | cons prev prevs =>
          cases currs with
          | nil => cases hNew
          | cons curr currs =>
              rw [List.forall_mem_cons] at hPrevs hCurrs
              rcases drawLines_cons_eq_ok h with
                ⟨-, n, -, hRest⟩ | ⟨-, drawn, later, -, hRest, -⟩
              · exact ih hPrevs.2 hCurrs.2 hRest hOld hNew
              · exact ih hPrevs.2 hCurrs.2 hRest hOld hNew

end Pen

------------------------------------------------------------
-- Screens
------------------------------------------------------------

/-
  The first half of a pair is the same in two grids, and what
  follows it is not.
-/
def Grid.FraysAt
    (prev curr : Grid)
    (p : Position) : Prop :=
  ∃ lead, lead.isWide = true ∧
    curr.cell? p.row p.col = some lead ∧
      prev.cell? p.row p.col = some lead ∧
        curr.cell? p.row (p.col + 1) ≠ prev.cell? p.row (p.col + 1)

namespace Grid

variable {prev curr : Grid}

/- A frayed pair of two grids is one of their lines. -/
theorem fraysAt_iff
    {p : Position} :
    prev.FraysAt curr p ↔
      ∃ old new,
        prev.lines[p.row]? = some old ∧
          curr.lines[p.row]? = some new ∧ old.FraysAt new p.col := by
  constructor
  · rintro ⟨lead, hWide, hLead, hBefore, hTails⟩
    rcases Option.bind_eq_some_iff.mp hBefore with
      ⟨old, hOld, hOldLead⟩
    rcases Option.bind_eq_some_iff.mp hLead with
      ⟨new, hNew, hNewLead⟩
    refine
      ⟨old, new, hOld, hNew, lead, hWide, hNewLead, hOldLead, ?_⟩
    rwa [← cell?_of_line hOld, ← cell?_of_line hNew]
  · rintro
      ⟨old, new, hOld, hNew, lead, hWide, hLead, hBefore, hTails⟩
    refine ⟨lead, hWide, ?_⟩
    rw [cell?_of_line hOld, cell?_of_line hNew, cell?_of_line hOld,
      cell?_of_line hNew]
    exact ⟨hLead, hBefore, hTails⟩

/- No two composed grids fray a pair. -/
theorem Composed.not_fraysAt
    (hPrev : prev.Composed)
    (hCurr : curr.Composed)
    (p : Position) :
    ¬ prev.FraysAt curr p := by
  intro hFrays
  rcases fraysAt_iff.mp hFrays with ⟨old, new, hOld, hNew, hLine⟩
  exact
    (hPrev.matched old (List.mem_of_getElem? hOld)).not_fraysAt
      (hCurr.matched new (List.mem_of_getElem? hNew)) p.col hLine

end Grid

namespace Plan

variable {prev curr : Grid}
variable {belief : Belief}
variable {e : Error}

/- A screen without cells is drawn by doing nothing. -/
theorem diffGrids_eq_idle
    (hSize : prev.size = curr.size)
    (hEmpty : curr.isEmpty = true) :
    diffGrids prev curr belief = .ok (idle curr belief) := by
  rw [diffGrids, if_neg (not_not.mpr hSize), if_pos hEmpty]

/- Only drawing the lines can fail. -/
theorem diffGrids_eq_error_iff
    (hSize : prev.size = curr.size)
    (hSome : curr.isEmpty = false) :
    diffGrids prev curr belief = .error e ↔
      Pen.drawLines curr.cols 0 prev.lines curr.lines
        ⟨belief.position, .default⟩ = .error e := by
  rw [diffGrids, if_neg (not_not.mpr hSize), hSome,
    if_neg Bool.false_ne_true]
  exact bind_ok_eq_error_iff fun drawn => ⟨_, rfl⟩

/- Between valid grids a plan fails at a frayed pair. -/
theorem exists_fray_of_diffGrids
    (hSize : prev.size = curr.size)
    (hPrev : prev.validate = .ok ())
    (hCurr : curr.validate = .ok ())
    (h : diffGrids prev curr belief = .error e) :
    ∃ p : Position,
      prev.FraysAt curr p ∧
        e = .invalidWideCharPairing p.row (p.col + 1) := by
  cases hEmpty : curr.isEmpty with
  | true =>
      rw [diffGrids_eq_idle hSize hEmpty] at h
      cases h
  | false =>
      rcases Grid.lines_of_size hSize with ⟨hCount, hLength⟩
      have hPrevs :
          ∀ line ∈ prev.lines,
            line.length = curr.cols ∧ line.Paired :=
        fun line hLine =>
          ⟨hLength line hLine,
            prev.validate_eq_ok_iff.mp hPrev line hLine⟩
      have hCurrs :
          ∀ line ∈ curr.lines,
            line.length = curr.cols ∧ line.Paired :=
        fun line hLine =>
          ⟨curr.line_length line hLine,
            curr.validate_eq_ok_iff.mp hCurr line hLine⟩
      rcases Pen.exists_fray_of_drawLines hCount hPrevs hCurrs
        ((diffGrids_eq_error_iff hSize hEmpty).mp h) with
        ⟨row, old, new, col, hOld, hNew, hFrays, rfl⟩
      rw [Nat.zero_add]
      exact
        ⟨⟨row, col⟩,
          Grid.fraysAt_iff.mpr ⟨old, new, hOld, hNew, hFrays⟩, rfl⟩

/- A plan shows that no pair is frayed. -/
theorem not_fraysAt_of_diffGrids
    {plan : Plan}
    (h : diffGrids prev curr belief = .ok plan)
    (p : Position) :
    ¬ prev.FraysAt curr p := by
  intro hFrays
  rcases Grid.fraysAt_iff.mp hFrays with
    ⟨old, new, hOld, hNew, hLine⟩
  have hSome : curr.isEmpty = false := by
    rcases hLine with ⟨lead, -, hLead, -⟩
    have hCol := (List.getElem?_eq_some_iff.mp hLead).1
    have hRow := (List.getElem?_eq_some_iff.mp hNew).1
    rw [Grid.length_of_line hNew] at hCol
    rw [curr.lines_length] at hRow
    simp only [Grid.isEmpty, Bool.or_eq_false_iff,
      decide_eq_false_iff_not]
    omega
  rcases diffGrids_eq_ok hSome h with
    ⟨hSize, lines, equal, hLines, -⟩
  exact
    Pen.not_fraysAt_of_drawLines (Grid.lines_of_size hSize).2
      curr.line_length hLines hOld hNew p.col hLine

/- A repaint fails as validation does. -/
theorem repaint_eq_error_iff
    {snapshot : Snapshot} :
    repaint snapshot = .error e ↔
      snapshot.grid.validate = .error e := by
  let blank := Grid.blank snapshot.grid.rows snapshot.grid.cols
  have hDiff :
      repaint snapshot = .error e ↔
        diffGrids blank snapshot.grid .unknown = .error e :=
    bind_ok_eq_error_iff fun plan => ⟨_, rfl⟩
  have hSize : blank.size = snapshot.grid.size := rfl
  rw [hDiff]
  cases hEmpty : snapshot.grid.isEmpty with
  | true =>
      rw [diffGrids_eq_idle hSize hEmpty,
        Grid.validate_of_isEmpty hEmpty]
      exact ⟨nofun, nofun⟩
  | false =>
      have hNarrow :
          ∀ line ∈ blank.lines, ∀ cell ∈ line, cell.width = 1 := by
        intro line hLine cell hCell
        rw [List.eq_of_mem_replicate hLine] at hCell
        rw [List.eq_of_mem_replicate hCell]
        rfl
      rw [diffGrids_eq_error_iff hSize hEmpty]
      exact
        Pen.drawLines_eq_error_iff_checkLines
          (Grid.lines_of_size hSize).1 blank.line_length
          snapshot.grid.line_length hNarrow

/-
  Redrawing and repainting accept the same screens.  A repaint
  is refused as validation refuses its screen.  From a valid
  screen a plan is refused for a screen that is not valid, and
  for a valid one just when a pair is frayed, which is where it
  is said to fail.  Composed screens are never refused.
-/
theorem accepts_alike
    (curr : Snapshot) :
    (∀ e, repaint curr = .error e ↔ curr.grid.validate = .error e) ∧
      (∀ e, curr.grid.validate = .error e → e.IsPairing) ∧
      ∀ (prev : Snapshot) (belief : Belief),
        prev.grid.size = curr.grid.size →
          (prev.grid.validate = .ok () →
              curr.grid.validate ≠ .ok () →
                ∃ e, diff prev curr belief = .error e ∧ e.IsPairing) ∧
            (prev.grid.validate = .ok () →
              curr.grid.validate = .ok () →
                (∀ e, diff prev curr belief = .error e →
                    ∃ p : Position,
                      prev.grid.FraysAt curr.grid p ∧
                        e = .invalidWideCharPairing p.row (p.col + 1)) ∧
                  ∀ p, prev.grid.FraysAt curr.grid p →
                    ∃ e, diff prev curr belief = .error e) ∧
            (prev.grid.Composed → curr.grid.Composed →
              ∃ plan, diff prev curr belief = .ok plan) := by
  refine ⟨fun e => repaint_eq_error_iff, ?_, ?_⟩
  · intro e hInvalid
    exact onlyFails_repaint curr e (repaint_eq_error_iff.mpr hInvalid)
  intro prev belief hSize
  refine ⟨?refused, ?frayed, ?composed⟩
  case refused =>
    intro hPrev hInvalid
    cases hPlan : diff prev curr belief with
    | ok plan =>
        exact absurd (validate_of_diffGrids hPrev hPlan) hInvalid
    | error e =>
        exact ⟨e, rfl, onlyFails_diffGrids hSize belief e hPlan⟩
  case frayed =>
    intro hPrev hCurr
    refine ⟨fun e h => exists_fray_of_diffGrids hSize hPrev hCurr h, ?_⟩
    intro p hFrays
    cases hPlan : diff prev curr belief with
    | ok plan =>
        exact absurd hFrays (not_fraysAt_of_diffGrids hPlan p)
    | error e => exact ⟨e, rfl⟩
  case composed =>
    intro hPrev hCurr
    cases hPlan : diff prev curr belief with
    | ok plan => exact ⟨plan, rfl⟩
    | error e =>
        rcases exists_fray_of_diffGrids hSize hPrev.valid
          hCurr.valid hPlan with ⟨p, hFrays, -⟩
        exact absurd hFrays (hPrev.not_fraysAt hCurr p)

/- A wide character, and the same one with half of it made bold. -/
def wholePair : Grid :=
  (Grid.blank 1 2).put 0 0 ['漢'] .default

def frayedPair : Grid :=
  wholePair.setRaw 0 1 (.continuation { attrs := { bold := true } })

/- Both are valid, and one is not drawn over the other. -/
theorem accepts_alike_frayed :
    wholePair.validate = .ok () ∧ frayedPair.validate = .ok () ∧
      wholePair.FraysAt frayedPair ⟨0, 0⟩ ∧
        (∀ e, repaint ⟨2, frayedPair⟩ ≠ .error e) ∧
          ∃ e, diff ⟨1, wholePair⟩ ⟨2, frayedPair⟩ .unknown = .error e := by
  have hWhole : wholePair.validate = .ok () :=
    ((Grid.Composed.blank 1 2).put 0 0 ['漢'] .default).valid
  have hFrayed : frayedPair.validate = .ok () := by decide +kernel
  have hFrays : wholePair.FraysAt frayedPair ⟨0, 0⟩ :=
    ⟨.styled ['漢'] .default, by decide +kernel, by decide +kernel,
      by decide +kernel, by decide +kernel⟩
  have hSize : wholePair.size = frayedPair.size := by decide +kernel
  rcases accepts_alike ⟨2, frayedPair⟩ with ⟨hRepaint, -, hDiff⟩
  rcases hDiff ⟨1, wholePair⟩ .unknown hSize with ⟨-, hExact, -⟩
  refine ⟨hWhole, hFrayed, hFrays, ?_, ?_⟩
  · intro e h
    cases ((hRepaint e).mp h).symm.trans hFrayed
  · exact (hExact hWhole hFrayed).2 ⟨0, 0⟩ hFrays

end Plan

end Redraw
