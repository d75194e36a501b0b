import Redraw.Proofs.Frame.Inertness

/-
  Changes: a plan is told in bytes just when something changed.

  A line that differs has a cell to be written or an end to be
  erased, and what is written is never empty.  A cursor that
  differs is moved, shaped, shown or hidden.  Such steps take
  bytes whatever the terminal can show, while a plan between
  equal screens has no step at all.

  Key definitions include:
    * `Op.IsTold`: a step that takes bytes
    * `Stroke.Tells`: a stroke with such a step

  Main declarations:
    * `Pen.tells_drawLine`, `Pen.tells_drawLines`
    * `Move.Leads.exists_told`
    * `Plan.encode_eq_nil_iff`
-/

namespace Redraw

------------------------------------------------------------
-- Steps That Take Bytes
------------------------------------------------------------

/- A step that takes bytes, whatever the encoder believes. -/
inductive Op.IsTold : Op → Prop
  | text
      {chars : List Char}
      {width : Nat}
      (some : chars ≠ []) :
      IsTold (.text chars width)
  | eraseToEndOfLine : IsTold .eraseToEndOfLine
  | showCursor : IsTold .showCursor
  | hideCursor : IsTold .hideCursor
  | setCursorShape
      (shape : CursorShape) :
      IsTold (.setCursorShape shape)

/- A command that is not left out. -/
def Command.IsTold (c : Command) : Prop :=
  c.chars ≠ []

/- A control sequence is not. -/
theorem Command.isTold_sequence
    {c : Command}
    {params : List Char}
    {final : Char}
    (h : c.chars = sequence params final) :
    c.IsTold := by
  simp [IsTold, h, sequence]

/- A control sequence alone is told. -/
theorem Command.exists_told_of_sequence
    {c : Command}
    {params : List Char}
    {final : Char}
    (h : c.chars = sequence params final) :
    ∃ told ∈ [c], told.IsTold :=
  ⟨c, List.mem_singleton_self c, isTold_sequence h⟩

/- One of the commands of such a step is written. -/
theorem Op.IsTold.exists_command
    {op : Op}
    (h : op.IsTold)
    (caps : Capabilities)
    (cols : Nat)
    (st : FrameState) :
    ∃ c ∈ (op.commands caps cols st).1, c.IsTold := by
  cases h with
  | @text chars width some =>
      exact ⟨.text chars, List.mem_singleton_self _, some⟩
  | eraseToEndOfLine
  | showCursor
  | hideCursor
  | setCursorShape =>
      exact Command.exists_told_of_sequence rfl

/- It is among the commands of all the steps. -/
theorem Op.IsTold.exists_of_mem
    {op : Op}
    (h : op.IsTold)
    {ops : List Op}
    (hMem : op ∈ ops)
    (caps : Capabilities)
    (cols : Nat)
    (st : FrameState) :
    ∃ c ∈ commandsOf caps cols st ops, c.IsTold := by
  induction ops generalizing st with
  | nil => cases hMem
  | cons first later ih =>
      rw [commandsOf]
      rcases List.mem_cons.mp hMem with rfl | hLater
      · rcases h.exists_command caps cols st with ⟨c, hc, hTold⟩
        exact ⟨c, List.mem_append_left _ hc, hTold⟩
      · rcases ih hLater (first.commands caps cols st).2 with
          ⟨c, hc, hTold⟩
        exact ⟨c, List.mem_append_right _ hc, hTold⟩

------------------------------------------------------------
-- Moves
------------------------------------------------------------

/- A vertical part is told unless the row stays. -/
theorem Vertical.Leads.exists_told
    {source target : Nat}
    {v : Vertical}
    (hLeads : v.Leads source target)
    (h : source ≠ target) :
    ∃ c ∈ v.commands, c.IsTold := by
  cases hLeads with
  | stay same => exact absurd same h
  | up
  | down => exact Command.exists_told_of_sequence rfl

/- A horizontal part is told unless the column stays. -/
theorem Horizontal.Leads.exists_told
    {source target : Nat}
    {way : Horizontal}
    (hLeads : way.Leads source target)
    (h : source ≠ target) :
    ∃ c ∈ way.commands, c.IsTold := by
  cases hLeads with
  | stay same => exact absurd same h
  | «return» =>
      exact
        ⟨_, List.mem_singleton_self _, by
          simp [Command.IsTold, Command.chars]⟩
  | column
  | forward
  | back => exact Command.exists_told_of_sequence rfl

namespace Move

theorem exists_told_absolute
    (target : Position) :
    ∃ c ∈ (absolute target).commands, c.IsTold := by
  by_cases hCol : target.col = 0
  · exact Command.exists_told_of_sequence
      (by rw [Command.chars, Command.absolute, if_pos hCol])
  · exact Command.exists_told_of_sequence
      (by rw [Command.chars, Command.absolute, if_neg hCol])

/- A way to where the cursor is not believed to be is told. -/
theorem Leads.exists_told
    {source : Option Position}
    {target : Position}
    {m : Move}
    (hLeads : m.Leads source target)
    (h : source ≠ some target) :
    ∃ c ∈ m.commands, c.IsTold := by
  cases hLeads with
  | absolute => exact exists_told_absolute target
  | nextLine =>
      exact
        ⟨.lineFeed, by simp [commands], by
          simp [Command.IsTold, Command.chars]⟩
  | @relative p _ v way rows columns =>
      by_cases hRow : p.row = target.row
      · have hCol : p.col ≠ target.col := by
          intro hCol
          apply h
          rcases p with ⟨row, col⟩
          rcases target with ⟨row', col'⟩
          simp_all
        rcases columns.exists_told hCol with ⟨c, hc, hTold⟩
        exact ⟨c, List.mem_append_right _ hc, hTold⟩
      · rcases rows.exists_told hRow with ⟨c, hc, hTold⟩
        exact ⟨c, List.mem_append_left _ hc, hTold⟩

end Move

------------------------------------------------------------
-- Strokes
------------------------------------------------------------

namespace Stroke

/- Some step of a stroke takes bytes. -/
def Tells (stroke : Stroke) : Prop :=
  ∃ op ∈ stroke.ops, op.IsTold

theorem Tells.andThen
    {stroke : Stroke}
    (h : stroke.Tells)
    (next : Pen → Stroke) :
    (stroke.andThen next).Tells := by
  rcases h with ⟨op, hop, hTold⟩
  exact ⟨op, List.mem_append_left _ hop, hTold⟩

theorem tells_andThen
    {stroke : Stroke}
    {next : Pen → Stroke}
    (h : (next stroke.pen).Tells) :
    (stroke.andThen next).Tells := by
  rcases h with ⟨op, hop, hTold⟩
  exact ⟨op, List.mem_append_right _ hop, hTold⟩

end Stroke

namespace Pen

variable {cols row col : Nat}
variable {pen : Pen}
variable {prev curr : Line}

/- A run of some text is written. -/
theorem tells_drawRuns
    {runs : List Run}
    {run : Run}
    (hMem : run ∈ runs)
    (h : run.chars ≠ []) :
    (pen.drawRuns cols row runs).Tells := by
  induction runs generalizing pen with
  | nil => cases hMem
  | cons first later ih =>
      rcases List.mem_cons.mp hMem with rfl | hLater
      · apply Stroke.Tells.andThen
        apply Stroke.tells_andThen
        exact ⟨_, List.mem_singleton_self _, .text h⟩
      · exact Stroke.tells_andThen (ih hLater)

/- A cell that is not a second half is written. -/
theorem tells_drawCells
    {cells : List Cell}
    {cell : Cell}
    (hMem : cell ∈ cells)
    (hUnit : cell.isContinuation = false) :
    (pen.drawCells cols row col cells).Tells := by
  have hKept : cell ∈ cells.filter fun c => !c.isContinuation :=
    List.mem_filter.mpr ⟨hMem, by simp [hUnit]⟩
  have hUnits :
      ∀ c ∈ cells.filter fun c => !c.isContinuation,
        c.isContinuation = false := by
    intro c hc
    simpa using (List.mem_filter.mp hc).2
  have hSome :
      runs col (cells.filter fun c => !c.isContinuation) ≠ [] := by
    intro hNone
    cases hFilter : cells.filter fun c => !c.isContinuation with
    | nil => simp [hFilter] at hKept
    | cons first rest =>
        rw [hFilter, runs_cons] at hNone
        split at hNone
        · cases hNone
        · split at hNone <;> cases hNone
  rcases List.exists_mem_of_ne_nil _ hSome with ⟨run, hRun⟩
  rcases exists_cells_of_runs hUnits col run hRun with
    ⟨part, hPart, hNone, hChars, -⟩
  apply tells_drawRuns hRun
  rw [hChars]
  intro hNil
  rcases List.exists_mem_of_ne_nil part hPart with ⟨c, hc⟩
  exact Cell.text_ne_nil (hNone c hc)
    (List.flatMap_eq_nil_iff.mp hNil c hc)

/- So is a part of a line that starts with a unit. -/
theorem tells_drawBetween
    {start stop : Nat}
    (hOrder : start < stop)
    (hWithin : stop ≤ curr.length)
    (hStart : curr.continuationAt start = false) :
    (pen.drawBetween cols row curr start stop).Tells := by
  have hInside : start < curr.length := by omega
  have hCell : curr.cell? start = some curr[start] :=
    List.getElem?_eq_getElem hInside
  rw [Line.continuationAt, hCell] at hStart
  have hMem : curr[start] ∈ (curr.take stop).drop start := by
    apply List.mem_of_getElem? (i := 0)
    rw [List.getElem?_drop, List.getElem?_take, if_pos (by omega)]
    exact hCell
  exact tells_drawCells hMem hStart

/- The last span is written or, if it is blank, erased. -/
theorem tells_drawLastSpan
    {span : Span}
    (hOrder : span.start < span.stop)
    (hWithin : span.stop ≤ curr.length)
    (hStart : curr.continuationAt span.start = false) :
    (pen.drawLastSpan cols row curr span).Tells := by
  unfold drawLastSpan
  by_cases hErased : textEnd curr span < span.stop
  · simp only [if_pos hErased]
    apply Stroke.tells_andThen
    apply Stroke.tells_andThen
    exact ⟨_, List.mem_singleton_self _, .eraseToEndOfLine⟩
  · simp only [if_neg hErased]
    rcases textEnd_cases curr span with hEnd | ⟨_, hBefore, _⟩
    · rw [hEnd]
      exact tells_drawBetween hOrder hWithin hStart
    · exact absurd hBefore hErased

/- Any span is. -/
theorem tells_drawSpans
    {span : Span}
    {later : List Span}
    (h : Covers prev curr col (span :: later)) :
    (pen.drawSpans cols row curr (span :: later)).Tells := by
  cases h with
  | span after some within same starts stops more =>
      cases later with
      | nil => exact tells_drawLastSpan some within starts
      | cons next later =>
          exact (tells_drawBetween some within starts).andThen _

------------------------------------------------------------
-- Lines
------------------------------------------------------------

/- A line that differs has a span to be drawn. -/
theorem tells_drawLine
    (hLength : prev.length = curr.length)
    (hDiffer : prev ≠ curr)
    {stroke : Stroke}
    (h : pen.drawLine cols row prev curr = .ok stroke) :
    stroke.Tells := by
  rcases drawLine_eq_ok h with ⟨_, hPaired, spans, hSpans, rfl⟩
  have hCovers := covers_changedSpans hLength hPaired hSpans
  cases spans with
  | nil =>
      cases hCovers with
      | rest same =>
          apply absurd _ hDiffer
          apply List.ext_getElem?
          intro c
          exact (same c (Nat.zero_le c)).symm
  | cons span later => exact tells_drawSpans hCovers

/- Lines that are all equal are passed over. -/
theorem drawLines_self
    (cols row : Nat)
    (lines : List Line)
    (pen : Pen) :
    ∃ equal,
      pen.drawLines cols row lines lines = .ok (pen.rest, equal) := by
  induction lines generalizing row with
  | nil => exact ⟨0, rfl⟩
  | cons line lines ih =>
      rcases ih (row + 1) with ⟨equal, hRest⟩
      refine ⟨equal + 1, ?_⟩
      rw [drawLines, if_pos rfl, hRest]
      rfl

/- By the lines: the first that differs is drawn. -/
theorem tells_drawLines
    {prevs currs : List Line}
    (hCount : prevs.length = currs.length)
    (hPrevs : ∀ line ∈ prevs, line.length = cols)
    (hCurrs : ∀ line ∈ currs, line.length = cols)
    (hDiffer : prevs ≠ currs)
    {stroke : Stroke}
    {equal : Nat}
    (h :
      pen.drawLines cols row prevs currs = .ok (stroke, equal)) :
    stroke.Tells := by
  induction prevs generalizing row currs pen stroke equal with
  | nil =>
      exact absurd (List.length_eq_zero_iff.mp hCount.symm).symm
        hDiffer
  | cons prev prevs ih =>
      cases currs with
      | nil => cases hCount
      | cons curr currs =>
          rw [List.forall_mem_cons] at hPrevs hCurrs
          rcases drawLines_cons_eq_ok h with
            ⟨rfl, n, -, hRest⟩ |
              ⟨hOther, drawn, later, hDrawn, hRest, rfl⟩
          · apply ih (Nat.succ.inj hCount) hPrevs.2 hCurrs.2 _ hRest
            rintro rfl
            exact hDiffer rfl
          · exact
              (tells_drawLine (hPrevs.1.trans hCurrs.1.symm) hOther
                hDrawn).andThen _

end Pen

------------------------------------------------------------
-- Plans
------------------------------------------------------------

namespace Plan

variable {prev curr : Grid}
variable {belief : Belief}
variable {plan : Plan}

/- A frame with a command that is told has bytes. -/
theorem encode_ne_nil
    {p : Plan}
    {caps : Capabilities}
    (h : ∃ c ∈ p.bodyCommands caps, c.IsTold) :
    p.encode caps ≠ [] := by
  rcases h with ⟨c, hc, hTold⟩
  have hSome : p.isEmpty = false := by
    cases hEmpty : p.isEmpty with
    | false => rfl
    | true =>
        rw [bodyCommands, List.isEmpty_iff.mp hEmpty] at hc
        cases hc
  have hMem : c ∈ p.commands caps := by
    rw [commands, hSome, if_neg Bool.false_ne_true]
    split
    · simp [hc]
    · exact hc
  rcases List.exists_mem_of_ne_nil c.chars hTold with ⟨a, ha⟩
  intro hNil
  have hChar : String.utf8EncodeChar a = [] :=
    List.flatMap_eq_nil_iff.mp
      (List.flatMap_eq_nil_iff.mp hNil c hMem) a ha
  have hLength := String.length_utf8EncodeChar a
  rw [hChar] at hLength
  exact absurd hLength (Nat.ne_of_lt a.utf8Size_pos)

/-
  Between a screen and itself nothing is done, and what is
  believed stays, if it is believed already or there is no cell.
-/
theorem diffGrids_self
    (h : curr.isEmpty = true ∨ belief = .ofCursor curr.cursor) :
    ∃ plan,
      diffGrids curr curr belief = .ok plan ∧
        plan.ops = [] ∧ plan.after = belief := by
  unfold diffGrids
  rw [if_neg (not_not.mpr rfl)]
  split
  · exact ⟨_, rfl, rfl, rfl⟩
  · rename_i hSome
    have hBelief := h.resolve_left hSome
    rcases Pen.drawLines_self curr.cols 0 curr.lines
        ⟨belief.position, .default⟩ with
      ⟨equal, hLines⟩
    simp only [hLines]
    refine ⟨_, rfl, ?_, hBelief.symm⟩
    simp [hBelief, Belief.ofCursor, Stroke.andThen, Pen.rest,
      Pen.setStyle, Pen.placeCursor, Pen.moveTo]

/- A cursor that differs is moved, shaped, shown or hidden. -/
theorem exists_told_of_cursor
    {caps : Capabilities}
    {cursor : Cursor}
    (hBelief : belief = .ofCursor cursor)
    (hDiffer : cursor ≠ curr.cursor)
    (hOrigin : plan.origin = belief.position)
    (hOps :
      plan.ops =
        (Pen.placeCursor curr.cursor belief
          ⟨belief.position, .default⟩).ops) :
    ∃ c ∈ plan.bodyCommands caps, c.IsTold := by
  rw [bodyCommands]
  by_cases hPosition : belief.position = some curr.cursor.position
  · have hTold :
        (Pen.placeCursor curr.cursor belief
          ⟨belief.position, .default⟩).Tells := by
      by_cases hShape : belief.shape = some curr.cursor.shape
      · have hVisible :
            belief.visible ≠ some curr.cursor.visible := by
          intro hVisible
          apply hDiffer
          rw [hBelief] at hPosition hShape hVisible
          simp only [Belief.ofCursor, Cursor.position,
            Option.some.injEq, Position.mk.injEq]
            at hPosition hShape hVisible
          rcases cursor with ⟨row, col, visible, shape⟩
          rcases curr.cursor with ⟨row', col', visible', shape'⟩
          simp_all
        simp only [Stroke.Tells, Pen.placeCursor, hVisible, if_false]
        refine ⟨_, List.mem_append_right _ (List.mem_singleton_self _),
          ?_⟩
        cases curr.cursor.visible with
        | true => exact .showCursor
        | false => exact .hideCursor
      · simp only [Stroke.Tells, Pen.placeCursor, hShape, if_false]
        refine ⟨_, List.mem_append_left _
          (List.mem_append_right _ (List.mem_singleton_self _)), ?_⟩
        exact .setCursorShape _
    rcases hTold with ⟨op, hop, hTold⟩
    rw [← hOps] at hop
    exact hTold.exists_of_mem hop caps _ _
  · -- The move comes first, while the origin is still believed.
    have hMove :
        (Pen.moveTo curr.cursor.position
            ⟨belief.position, .default⟩).ops =
          [.moveTo curr.cursor.position] := by
      rw [Pen.moveTo, if_neg hPosition]
      rfl
    rcases (Move.leads_best _ _).exists_told hPosition with
      ⟨c, hc, hTold⟩
    refine ⟨c, ?_, hTold⟩
    rw [hOps, hOrigin]
    simp only [Pen.placeCursor, hMove, List.cons_append, commandsOf,
      Op.commands, if_neg hPosition]
    exact List.mem_append_left _ hc

/-
  From a screen whose cursor is known, the plan to another takes
  no bytes just when the two are the same.
-/
theorem encode_eq_nil_iff
    (caps : Capabilities)
    (hSome : curr.isEmpty = false)
    (h : diffGrids prev curr (.ofCursor prev.cursor) = .ok plan) :
    plan.encode caps = [] ↔ prev = curr := by
  constructor
  · intro hNil
    rcases diffGrids_eq_ok hSome h with
      ⟨hSize, lines, equal, hLines, hOps, hOrigin, -, -⟩
    have hRows : prev.rows = curr.rows := congrArg Size.rows hSize
    have hCols : prev.cols = curr.cols := congrArg Size.cols hSize
    have hPrev := Grid.lines_of_size hSize
    have hSameLines : prev.lines = curr.lines := by
      by_contra hDiffer
      have hTold :=
        Pen.tells_drawLines hPrev.1 hPrev.2 curr.line_length hDiffer
          hLines
      rcases (hTold.andThen (Pen.setStyle .default)).andThen
          (Pen.placeCursor curr.cursor (.ofCursor prev.cursor)) with
        ⟨op, hop, hOp⟩
      rw [← hOps] at hop
      exact encode_ne_nil (hOp.exists_of_mem hop caps _ _) hNil
    have hSameCursor : prev.cursor = curr.cursor := by
      by_contra hDiffer
      rw [hSameLines] at hLines
      rcases Pen.drawLines_self curr.cols 0 curr.lines
          ⟨some prev.cursor.position, .default⟩ with
        ⟨_, hNone⟩
      obtain ⟨rfl, -⟩ :=
        Prod.mk.inj (Except.ok.inj (hLines.symm.trans hNone))
      exact
        encode_ne_nil
          (exists_told_of_cursor rfl hDiffer hOrigin hOps) hNil
    rcases prev with ⟨rows, cols, lines', cursor, _, _, _⟩
    rcases curr with ⟨rows', cols', lines'', cursor', _, _, _⟩
    simp_all
  · rintro rfl
    have hBelief :
        prev.isEmpty = true ∨
          Belief.ofCursor prev.cursor = .ofCursor prev.cursor :=
      Or.inr rfl
    rcases diffGrids_self hBelief with ⟨plan', hPlan', hOps, -⟩
    obtain rfl := Except.ok.inj (h.symm.trans hPlan')
    exact encode_of_ops_eq_nil hOps caps

end Plan

end Redraw
