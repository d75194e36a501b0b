import Redraw.Frame
import Redraw.Proofs.Frame.Moves
import Redraw.Proofs.Frame.Restyling

/-
  Encoding: the bytes of a plan do to a terminal what the plan
  says.

  What the encoder believes is true of the terminal before each
  step, so the moves and transitions it chooses lead where the
  step asks.  Screens are compared up to the place where marks
  are added, since a move to where the cursor is costs nothing
  and forgets that place in the plan only.

  Key definitions include:
    * `FrameState.Describes`: what is believed is so

  Main declarations:
    * `Op.agrees_commands`, `Op.describes_commands`: one step
    * `Screen.agrees_commandsOf`: steps one after another
    * `Plan.feed_encode`: the bytes of a plan
    * `Plan.feed_encode_of_clear`: the same, whatever was begun
      before a plan that clears the screen
-/

namespace Redraw

------------------------------------------------------------
-- Beliefs
------------------------------------------------------------

/-
  A screen is as believed: it has the style, and the cursor is
  where it is believed to be, inside and not about to wrap.
-/
structure FrameState.Describes
    (st : FrameState)
    (s : Screen) : Prop where
  style : s.style = st.style
  cursor :
    ∀ p, st.cursor = some p →
      s.position = p ∧ s.pendingWrap = false
  inside :
    ∀ p, st.cursor = some p → p.row < s.rows ∧ p.col < s.cols

/- The cursor stands where it is believed to be. -/
theorem FrameState.Describes.standsAt
    {st : FrameState}
    {s : Screen}
    (h : st.Describes s) :
    ∀ p ∈ st.cursor, s.StandsAt p := by
  intro p hp
  rcases h.cursor p hp with ⟨hPosition, hPending⟩
  rcases h.inside p hp with ⟨hRow, hCol⟩
  exact ⟨hPosition, hPending, hRow, hCol⟩

------------------------------------------------------------
-- Steps
------------------------------------------------------------

namespace Screen

@[simp] theorem extent_execute
    (caps : Capabilities)
    (s : Screen)
    (op : Op) :
    (s.execute caps op).extent = s.extent := by
  cases op with
  | text chars width => exact extent_printAll s chars
  | eraseToEndOfLine => exact extent_eraseLine s
  | _ => rfl

theorem style_print
    (s : Screen)
    (c : Char) :
    (s.print c).style = s.style := by
  have hScroll (t : Screen) : t.scroll.style = t.style := by
    unfold scroll
    split <;> rfl
  have hWrap (t : Screen) : t.wrap.style = t.style := hScroll _
  have hRoom (t : Screen) (wide : Bool) :
      (t.makeRoom wide).style = t.style := by
    unfold makeRoom
    split
    · rw [hWrap, splitPair_eq]
      rfl
    · rfl
  have hPlace (t : Screen) (width : Nat) :
      (t.place c width).style = t.style := by
    simp only [place, splitPair_eq]
    split <;> rfl
  have hCombine : (s.combine c).style = s.style := by
    rcases combine_eq s c with ⟨slots, h⟩
    rw [h]
  simp only [print, apply_ite Screen.style, hCombine, hPlace, hRoom,
    hWrap, ite_self]

theorem style_printAll
    (s : Screen)
    (cs : List Char) :
    (s.printAll cs).style = s.style := by
  induction cs generalizing s with
  | nil => rfl
  | cons c cs ih => exact (ih (s.print c)).trans (style_print s c)

end Screen

namespace Op

/- The commands of a step that fits can be read. -/
theorem isReadable_commands
    (caps : Capabilities)
    {st : FrameState}
    {rows cols : Nat}
    (hRows : rows ≤ Parser.maxParameter)
    (hCols : cols ≤ Parser.maxParameter)
    (hInside :
      ∀ p, st.cursor = some p → p.row < rows ∧ p.col < cols)
    {op : Op}
    (hFits : op.Fits rows cols) :
    ∀ c ∈ (op.commands caps cols st).1, c.IsReadable := by
  intro c hc
  cases op with
  | moveTo target =>
      simp only [commands] at hc
      split at hc
      · simp at hc
      · exact
          (Move.leads_best st.cursor target).isReadable hRows hCols
            hInside hFits c hc
  | setStyle style =>
      rw [List.mem_singleton.mp hc]
      exact
        (Transition.leads_between st.style
          (caps.underline_adaptStyle style)).readable
  | text chars width =>
      rw [List.mem_singleton.mp hc]
      exact List.all_eq_true.mp hFits.printable
  | clearScreen =>
      simp only [commands, List.mem_cons, List.not_mem_nil,
        or_false] at hc
      rcases hc with rfl | rfl <;> trivial
  | eraseToEndOfLine => rw [List.mem_singleton.mp hc]; trivial
  | showCursor => rw [List.mem_singleton.mp hc]; trivial
  | hideCursor => rw [List.mem_singleton.mp hc]; trivial
  | setCursorShape shape => rw [List.mem_singleton.mp hc]; trivial

/- The text of a step that fits starts with a visible character. -/
theorem standsAlone_commands
    (caps : Capabilities)
    (st : FrameState)
    {rows cols : Nat}
    {op : Op}
    (hFits : op.Fits rows cols) :
    ∀ c ∈ (op.commands caps cols st).1, c.StandsAlone := by
  intro c hc
  cases op with
  | moveTo target =>
      simp only [commands] at hc
      split at hc
      · simp at hc
      · exact Move.standsAlone_commands _ c hc
  | text chars width =>
      rw [List.mem_singleton.mp hc]
      intro more hMore
      rw [← Command.text.inj hMore]
      exact ⟨cols, width, hFits⟩
  | clearScreen =>
      simp only [commands, List.mem_cons, List.not_mem_nil,
        or_false] at hc
      rcases hc with rfl | rfl <;> simp [Command.StandsAlone]
  | setStyle style =>
      rw [List.mem_singleton.mp hc]
      simp [Command.StandsAlone]
  | eraseToEndOfLine =>
      rw [List.mem_singleton.mp hc]
      simp [Command.StandsAlone]
  | showCursor =>
      rw [List.mem_singleton.mp hc]
      simp [Command.StandsAlone]
  | hideCursor =>
      rw [List.mem_singleton.mp hc]
      simp [Command.StandsAlone]
  | setCursorShape shape =>
      rw [List.mem_singleton.mp hc]
      simp [Command.StandsAlone]

/- The commands of a step do what the step says. -/
theorem agrees_commands
    (caps : Capabilities)
    {st : FrameState}
    {s : Screen}
    (h : st.Describes s)
    {op : Op}
    (hFits : op.Fits s.rows s.cols) :
    (s.obeyAll (op.commands caps s.cols st).1).Agrees
      (s.execute caps op) := by
  cases op with
  | moveTo target =>
      simp only [commands]
      split
      · rename_i hThere
        exact (h.standsAt target hThere).agrees_moveTo
      · exact
          (Move.leads_best st.cursor target).obeyAll h.standsAt
            hFits.1 hFits.2
  | setStyle style =>
      have hLeads :=
        Transition.leads_between st.style
          (caps.underline_adaptStyle style)
      rw [← h.style] at hLeads
      change (s.restyle _).Agrees _
      rw [← h.style, Screen.restyle_of_leads s hLeads]
      rfl
  | _ => rfl

/- What is believed after a step is so after it. -/
theorem describes_commands
    (caps : Capabilities)
    {st : FrameState}
    {s : Screen}
    (h : st.Describes s)
    {op : Op}
    (hFits : op.Fits s.rows s.cols) :
    (op.commands caps s.cols st).2.Describes
      (s.execute caps op) := by
  cases op with
  | clearScreen => exact ⟨rfl, h.cursor, h.inside⟩
  | moveTo target =>
      have hMoved :
          (s.moveTo target.row target.col).position = target := by
        rcases hFits with ⟨hRow, hCol⟩
        have hMinRow :
            min target.row (s.rows - 1) = target.row := by
          omega
        have hMinCol :
            min target.col (s.cols - 1) = target.col := by
          omega
        simp only [Screen.moveTo, Screen.position, hMinRow, hMinCol]
      have hAt (p : Position) (hp : some target = some p) :
          (s.moveTo target.row target.col).position = p ∧
            (s.moveTo target.row target.col).pendingWrap =
              false := by
        rw [← Option.some.inj hp]
        exact ⟨hMoved, rfl⟩
      have hIn (p : Position) (hp : some target = some p) :
          p.row < s.rows ∧ p.col < s.cols := by
        rw [← Option.some.inj hp]
        exact hFits
      simp only [commands]
      split
      · rename_i hThere
        refine ⟨h.style, ?_, ?_⟩
        · rw [hThere]
          exact hAt
        · rw [hThere]
          exact hIn
      · exact ⟨h.style, hAt, hIn⟩
  | setStyle style => exact ⟨rfl, h.cursor, h.inside⟩
  | text chars width =>
      have hColumns : (chars.map charWidth).sum = width :=
        hFits.columns
      have hExtent :
          (s.printAll chars).extent = s.extent :=
        Screen.extent_printAll s chars
      have hRows : (s.printAll chars).rows = s.rows :=
        congrArg Size.rows hExtent
      have hCols : (s.printAll chars).cols = s.cols :=
        congrArg Size.cols hExtent
      have hStop (p : Position)
          (hp :
            (Op.commands caps s.cols st (.text chars width)).2.cursor =
              some p) :
          p = ⟨s.row, s.col + width⟩ ∧ s.pendingWrap = false
            ∧ s.row < s.rows ∧ s.col + width < s.cols := by
        rcases Option.bind_eq_some_iff.mp hp with ⟨q, hq, hShort⟩
        rcases h.cursor q hq with ⟨rfl, hPending⟩
        have hRow := (h.inside _ hq).1
        split at hShort
        · rename_i hFitsLine
          exact
            ⟨(Option.some.inj hShort).symm, hPending, hRow,
              hFitsLine⟩
        · simp at hShort
      refine ⟨(Screen.style_printAll s chars).trans h.style, ?_, ?_⟩
      · intro p hp
        rcases hStop p hp with ⟨rfl, hPending, _, hShort⟩
        rw [← hColumns] at hShort ⊢
        exact
          Screen.printAll_within hFits.printable hPending hShort
      · intro p hp
        rcases hStop p hp with ⟨rfl, _, hRow, hShort⟩
        simp only [Screen.execute, hRows, hCols]
        exact ⟨hRow, hShort⟩
  | eraseToEndOfLine =>
      simp only [commands, Screen.execute, Screen.eraseLine,
        Screen.splitPair_eq]
      exact ⟨h.style, h.cursor, h.inside⟩
  | showCursor => exact ⟨h.style, h.cursor, h.inside⟩
  | hideCursor => exact ⟨h.style, h.cursor, h.inside⟩
  | setCursorShape shape => exact ⟨h.style, h.cursor, h.inside⟩

end Op

------------------------------------------------------------
-- Plans
------------------------------------------------------------

theorem commandsOf_cons
    (caps : Capabilities)
    (cols : Nat)
    (st : FrameState)
    (op : Op)
    (later : List Op) :
    commandsOf caps cols st (op :: later) =
      (op.commands caps cols st).1
        ++ commandsOf caps cols (op.commands caps cols st).2 later :=
  rfl

/- The commands of steps that fit can all be read. -/
theorem isReadable_commandsOf
    (caps : Capabilities)
    {st : FrameState}
    {s : Screen}
    (h : st.Describes s)
    (hRows : s.rows ≤ Parser.maxParameter)
    (hCols : s.cols ≤ Parser.maxParameter)
    {ops : List Op}
    (hFits : ∀ op ∈ ops, op.Fits s.rows s.cols) :
    ∀ c ∈ commandsOf caps s.cols st ops, c.IsReadable := by
  induction ops generalizing st s with
  | nil => simp [commandsOf]
  | cons op later ih =>
      have hOp := hFits op (by simp)
      have hExtent := Screen.extent_execute caps s op
      have hRows' : (s.execute caps op).rows = s.rows :=
        congrArg Size.rows hExtent
      have hCols' : (s.execute caps op).cols = s.cols :=
        congrArg Size.cols hExtent
      have hLater :=
        ih (op.describes_commands caps h hOp)
          (by omega) (by omega)
          (fun op' hop' => by
            rw [hRows', hCols']
            exact hFits op' (by simp [hop']))
      rw [hCols'] at hLater
      intro c hc
      rw [commandsOf_cons] at hc
      rcases List.mem_append.mp hc with hNow | hRest
      · exact
          op.isReadable_commands caps hRows hCols h.inside hOp c
            hNow
      · exact hLater c hRest

/- The commands of steps that fit do what the steps say. -/
theorem Screen.agrees_commandsOf
    (caps : Capabilities)
    {st : FrameState}
    {s t : Screen}
    (hAgrees : s.Agrees t)
    (h : st.Describes t)
    {ops : List Op}
    (hFits : ∀ op ∈ ops, op.Fits t.rows t.cols) :
    (s.obeyAll (commandsOf caps t.cols st ops)).Agrees
      (t.executeAll caps ops) := by
  induction ops generalizing st s t with
  | nil => exact hAgrees
  | cons op later ih =>
      have hOp := hFits op (by simp)
      have hExtent := Screen.extent_execute caps t op
      have hRows : (t.execute caps op).rows = t.rows :=
        congrArg Size.rows hExtent
      have hCols : (t.execute caps op).cols = t.cols :=
        congrArg Size.cols hExtent
      have hNow :
          (s.obeyAll (op.commands caps t.cols st).1).Agrees
            (t.execute caps op) :=
        (hAgrees.obeyAll
          (op.standsAlone_commands caps st hOp)).trans
          (op.agrees_commands caps h hOp)
      have hLater :=
        ih hNow (op.describes_commands caps h hOp)
          (fun op' hop' => by
            rw [hRows, hCols]
            exact hFits op' (by simp [hop']))
      rw [hCols] at hLater
      rw [commandsOf_cons, Screen.obeyAll_append]
      exact hLater

/-
  Commands of which the first starts with an escape, whatever
  was begun before them.
-/
theorem Receiver.feed_commands_of_escape
    (r : Receiver)
    {c : Command}
    {cs : List Command}
    (hEscape : c.chars.head? = some '\x1b')
    (hReadable : ∀ d ∈ c :: cs, d.IsReadable) :
    r.feed ((c :: cs).flatMap Command.bytes) =
      ⟨.ground,
        (r.screen.performAll r.parser.abandoned).obeyAll
          (c :: cs)⟩ := by
  rw [List.flatMap_cons, Receiver.feed_append,
    Receiver.feed_bytes_of_escape r (hReadable c (by simp))
      hEscape,
    Receiver.feed_commands _
      (fun d hd => hReadable d (by simp [hd]))]
  rfl

namespace Plan

/- The marks of a frame change nothing that shows. -/
theorem obeyAll_commands
    (caps : Capabilities)
    (p : Plan)
    (s : Screen) :
    s.obeyAll (p.commands caps) =
      s.obeyAll (p.bodyCommands caps) := by
  unfold commands
  split
  · rename_i hEmpty
    have hNil : p.ops = [] := List.isEmpty_iff.mp hEmpty
    simp [bodyCommands, hNil, commandsOf]
  · split
    · simp [Screen.obeyAll, Screen.obey]
    · rfl

theorem isReadable_commands
    (caps : Capabilities)
    {p : Plan}
    (hBody : ∀ c ∈ p.bodyCommands caps, c.IsReadable) :
    ∀ c ∈ p.commands caps, c.IsReadable := by
  intro c hc
  unfold commands at hc
  split at hc
  · simp at hc
  · split at hc
    · simp only [List.mem_cons, List.mem_append,
        List.not_mem_nil, or_false] at hc
      rcases hc with rfl | hc | rfl
      · trivial
      · exact hBody c hc
      · trivial
    · exact hBody c hc

/- The bytes of a plan from the cursor it starts at. -/
theorem feed_encode
    (caps : Capabilities)
    {p : Plan}
    {s : Screen}
    (h : FrameState.Describes ⟨p.origin, .default⟩ s)
    (hWidth : p.cols = s.cols)
    (hRows : s.rows ≤ Parser.maxParameter)
    (hCols : s.cols ≤ Parser.maxParameter)
    (hFits : ∀ op ∈ p.ops, op.Fits s.rows s.cols) :
    ∃ t,
      (Receiver.mk .ground s).feed (p.encode caps) =
          ⟨.ground, t⟩ ∧
        t.Agrees (s.executeAll caps p.ops) := by
  have hReadable :=
    isReadable_commandsOf caps h hRows hCols hFits
  rw [← hWidth] at hReadable
  refine ⟨s.obeyAll (p.commands caps), ?_, ?_⟩
  · exact
      Receiver.feed_commands s
        (isReadable_commands caps hReadable)
  · rw [obeyAll_commands, bodyCommands, hWidth]
    exact Screen.agrees_commandsOf caps (.refl s) h hFits

/-
  The bytes of a plan that clears the screen first, whatever
  the terminal has been told before.
-/
theorem feed_encode_of_clear
    (caps : Capabilities)
    {p : Plan}
    {later : List Op}
    (hOps : p.ops = .clearScreen :: later)
    (hOrigin : p.origin = none)
    (r : Receiver)
    (hWidth : p.cols = r.screen.cols)
    (hRows : r.screen.rows ≤ Parser.maxParameter)
    (hCols : r.screen.cols ≤ Parser.maxParameter)
    (hFits :
      ∀ op ∈ later, op.Fits r.screen.rows r.screen.cols) :
    ∃ t,
      r.feed (p.encode caps) = ⟨.ground, t⟩ ∧
        t.Agrees
          ((r.screen.performAll r.parser.abandoned).executeAll caps
            p.ops) := by
  let s := r.screen.performAll r.parser.abandoned
  let cleared := s.execute caps .clearScreen
  have hExtent : cleared.extent = r.screen.extent :=
    (Screen.extent_execute caps s .clearScreen).trans
      (Screen.extent_performAll _ _)
  have hRows' : cleared.rows = r.screen.rows :=
    congrArg Size.rows hExtent
  have hCols' : cleared.cols = r.screen.cols :=
    congrArg Size.cols hExtent
  have hDescribes :
      FrameState.Describes ⟨none, .default⟩ cleared :=
    ⟨rfl, by simp, by simp⟩
  have hLater :
      ∀ op ∈ later, op.Fits cleared.rows cleared.cols := by
    rw [hRows', hCols']
    exact hFits
  have hBody :
      p.bodyCommands caps =
        .resetStyle :: .clearScreen
          :: commandsOf caps cleared.cols ⟨none, .default⟩
              later := by
    rw [bodyCommands, hOps, hOrigin, hWidth, hCols']
    rfl
  have hReadable : ∀ c ∈ p.commands caps, c.IsReadable := by
    apply isReadable_commands caps
    rw [hBody]
    intro c hc
    simp only [List.mem_cons] at hc
    rcases hc with rfl | rfl | hc
    · trivial
    · trivial
    · exact
        isReadable_commandsOf caps hDescribes (by omega)
          (by omega) hLater c hc
  have hFirst :
      ∃ c cs, p.commands caps = c :: cs ∧
        c.chars.head? = some '\x1b' := by
    have hSome : p.isEmpty = false := by
      simp [isEmpty, hOps]
    simp only [commands, hSome, Bool.false_eq_true, if_false]
    split
    · exact ⟨_, _, rfl, rfl⟩
    · exact ⟨_, _, hBody, rfl⟩
  rcases hFirst with ⟨c, cs, hCommands, hEscape⟩
  rw [hCommands] at hReadable
  refine ⟨s.obeyAll (p.commands caps), ?_, ?_⟩
  · rw [encode, hCommands]
    exact Receiver.feed_commands_of_escape r hEscape hReadable
  · rw [obeyAll_commands, hBody, hOps]
    exact
      Screen.agrees_commandsOf caps (.refl cleared) hDescribes
        hLater

end Plan

end Redraw
