import Redraw.Proofs.Frame.Encoding
import Redraw.Proofs.Frame.Inertness
import Redraw.Proofs.Frame.Phrases

/-
  Vocabulary: a frame asks nothing of a terminal that the
  terminal was not said to have.

  What a frame holds beside its texts is read as a terminal
  reads it: as line ends and sequences.  Sequences that change
  the style are taken phrase by phrase, and the marks of a frame
  stand around it or nowhere.

  Key definitions include:
    * `ControlSequence.IsSync`: a mark of a frame
    * `Action.IsWithin`: what a terminal understands
    * `Capabilities.Understands`: characters read as such
    * `Plan.StaysWithin`

  Main declarations:
    * `Capabilities.understands_command`
    * `Op.isWithin_commands`, `isWithin_commandsOf`
    * `Plan.stays_within_capabilities`
-/

namespace Redraw

------------------------------------------------------------
-- Numbers of Any Size
------------------------------------------------------------

namespace Parser

/- A digit or one of the two characters between numbers. -/
def IsNumeric (c : Char) : Prop :=
  0x30 ≤ c.toNat ∧ c.toNat ≤ 0x3B

/-
  Numbers tell no kind of sequence.  One that is too large is
  not read back, so nothing is said about their values.
-/
theorem exists_readChars_numeric
    (p : Partial)
    {params : List Char}
    (h : ∀ c ∈ params, IsNumeric c) :
    ∃ q, (sequence p).readChars params = ([], .sequence q) ∧
      q.marks = p.marks := by
  have hOne (p : Partial) {c : Char} (hc : IsNumeric c) :
      ∃ q, (sequence p).readChars [c] = ([], .sequence q) ∧
        q.marks = p.marks := by
    rcases hc with ⟨hLow, hHigh⟩
    rw [readChars_ascii _ (by omega)]
    simp only [step, continueSequence,
      toNat_ofNat_byte (show c.toNat < 256 by omega)]
    rw [if_neg (by omega), if_neg (by omega)]
    split
    · exact ⟨_, rfl, rfl⟩
    · split
      · exact ⟨_, rfl, rfl⟩
      · rw [if_pos (by omega)]
        exact ⟨_, rfl, rfl⟩
  induction params generalizing p with
  | nil => exact ⟨p, rfl, rfl⟩
  | cons c params ih =>
      rw [List.forall_mem_cons] at h
      rcases hOne p h.1 with ⟨q, hRead, hMarks⟩
      rcases ih q h.2 with ⟨r, hRest, hRestMarks⟩
      refine ⟨r, ?_, hRestMarks.trans hMarks⟩
      rw [← List.singleton_append, readChars_append hRead, hRest]
      rfl

theorem isNumeric_decimal
    {n : Nat}
    {c : Char}
    (h : c ∈ decimal n) :
    IsNumeric c := by
  rcases toNat_of_mem_decimal h with ⟨hLow, hHigh⟩
  exact ⟨hLow, by omega⟩

end Parser

------------------------------------------------------------
-- What Is Understood
------------------------------------------------------------

namespace ControlSequence

/- A mark at the start or the end of a frame: mode 2026. -/
def IsSync (seq : ControlSequence) : Prop :=
  seq.marks = ['?'] ∧ [2026] ∈ seq.groups

/-
  A sequence that a terminal understands.  What is said by a
  change of style is taken phrase by phrase, so that an index
  after 38 or 48 is no parameter of its own.
-/
structure IsWithin
    (caps : Capabilities)
    (seq : ControlSequence) : Prop where
  marked : seq.IsSync → caps.synchronizedOutput = true
  said :
    seq.final = 'm' →
      seq.marks = [] ∧ Rendition.IsWithin caps seq.groups

/- Sequences that neither mark a frame nor change the style. -/
theorem isWithin_of_other
    (caps : Capabilities)
    {seq : ControlSequence}
    (hFinal : seq.final ≠ 'm')
    (hSync : ¬ seq.IsSync) :
    seq.IsWithin caps :=
  ⟨fun h => absurd h hSync, fun h => absurd h hFinal⟩

end ControlSequence

/- The controls among these are the two that end a line. -/
def Action.IsWithin
    (caps : Capabilities) : Action → Prop
  | .print _ => False
  | .control byte => byte = 0x0D ∨ byte = 0x0A
  | .sequence seq => seq.IsWithin caps

namespace Capabilities

/-
  A terminal reads some characters to their end and understands
  everything that it reads.
-/
def Understands
    (caps : Capabilities)
    (chars : List Char) : Prop :=
  ∃ actions, Parser.ground.readChars chars = (actions, .ground) ∧
    ∀ action ∈ actions, action.IsWithin caps

theorem understands_nil
    (caps : Capabilities) :
    caps.Understands [] :=
  ⟨[], rfl, by simp⟩

variable {caps : Capabilities}

theorem Understands.append
    {chars more : List Char}
    (h : caps.Understands chars)
    (hMore : caps.Understands more) :
    caps.Understands (chars ++ more) := by
  rcases h with ⟨actions, hRead, hActions⟩
  rcases hMore with ⟨others, hRest, hOthers⟩
  refine ⟨actions ++ others, ?_, ?_⟩
  · rw [Parser.readChars_append hRead, hRest]
  · intro action hAction
    rcases List.mem_append.mp hAction with hFirst | hLater
    · exact hActions action hFirst
    · exact hOthers action hLater

/- A single action that is understood. -/
theorem understands_of_read
    {chars : List Char}
    {action : Action}
    (hRead : Parser.ground.readChars chars = ([action], .ground))
    (h : action.IsWithin caps) :
    caps.Understands chars :=
  ⟨[action], hRead, by simpa using h⟩

/- A sequence of numbers that does not change the style. -/
theorem understands_numbers
    (caps : Capabilities)
    {params : List Char}
    (hParams : ∀ c ∈ params, Parser.IsNumeric c)
    {final : Char}
    (hFinal : 0x40 ≤ final.toNat ∧ final.toNat < 0x7F)
    (hOther : final ≠ 'm') :
    caps.Understands (Command.sequence params final) := by
  rcases Parser.exists_readChars_numeric {} hParams with
    ⟨q, hRead, hMarks⟩
  apply understands_of_read (Parser.readChars_sequence _ hRead hFinal)
  apply ControlSequence.isWithin_of_other caps hOther
  intro hSync
  have hNone : q.marks = ['?'] := hSync.1
  rw [hMarks] at hNone
  exact absurd hNone (by decide)

/- The same with a number that is left out where assumed. -/
theorem understands_unless
    (caps : Capabilities)
    (assumed : Prop)
    [Decidable assumed]
    (n : Nat)
    {final : Char}
    (hFinal : 0x40 ≤ final.toNat ∧ final.toNat < 0x7F)
    (hOther : final ≠ 'm') :
    caps.Understands
      (Command.sequence (if assumed then [] else decimal n)
        final) := by
  apply caps.understands_numbers _ hFinal hOther
  intro c hc
  split at hc
  · simp at hc
  · exact Parser.isNumeric_decimal hc

theorem understands_absolute
    (caps : Capabilities)
    (row col : Nat) :
    caps.Understands (Command.absolute row col) := by
  unfold Command.absolute
  split
  · exact caps.understands_unless _ _ (by decide) (by decide)
  · apply caps.understands_numbers _ (by decide) (by decide)
    intro c hc
    rcases List.mem_append.mp hc with hRow | hCol
    · exact Parser.isNumeric_decimal hRow
    · rcases List.mem_cons.mp hCol with rfl | hCol
      · exact ⟨by decide, by decide⟩
      · exact Parser.isNumeric_decimal hCol

/- A private mode; the mode of frames has to be supported. -/
theorem understands_mode
    (caps : Capabilities)
    (mode : Nat)
    (hMode : mode ≤ Parser.maxParameter)
    {final : Char}
    (hFinal : final = 'h' ∨ final = 'l')
    (hSync : mode = 2026 → caps.synchronizedOutput = true) :
    caps.Understands
      (Command.privateMode (decimal mode) final) := by
  have hEnds : 0x40 ≤ final.toNat ∧ final.toNat < 0x7F := by
    rcases hFinal with rfl | rfl <;> decide
  apply understands_of_read (Parser.readChars_mode _ hMode hEnds)
  constructor
  · intro h
    have hSame := h.2
    simp only [List.mem_singleton, List.cons.injEq, and_true]
      at hSame
    exact hSync hSame.symm
  · intro hStyle
    have hSame : final = 'm' := hStyle
    rcases hFinal with rfl | rfl <;> cases hSame

theorem understands_sgr
    {sgr : Sgr}
    (hReadable : sgr.IsReadable)
    (h : sgr.IsWithin caps) :
    caps.Understands sgr.chars := by
  cases hEmpty : sgr.isEmpty with
  | true =>
      rw [Sgr.chars, if_pos hEmpty]
      exact caps.understands_nil
  | false =>
      apply understands_of_read
        (Parser.readChars_sgr _ hReadable hEmpty)
      constructor
      · intro hSync
        exact absurd hSync.1 (by simp)
      · intro _
        exact ⟨rfl, h⟩

end Capabilities

------------------------------------------------------------
-- Commands
------------------------------------------------------------

/- A command that is told only to terminals that have it. -/
def Command.IsWithin
    (caps : Capabilities) : Command → Prop
  | .setStyle sgr => sgr.IsReadable ∧ sgr.IsWithin caps
  | .beginSync => caps.synchronizedOutput = true
  | .endSync => caps.synchronizedOutput = true
  | _ => True

namespace Capabilities

/- Such a command is understood. -/
theorem understands_command
    {caps : Capabilities}
    {c : Command}
    (hText : c.text? = none)
    (h : c.IsWithin caps) :
    caps.Understands c.chars := by
  cases c with
  | text chars => cases hText
  | carriageReturn =>
      exact understands_of_read rfl (Or.inl rfl)
  | lineFeed => exact understands_of_read rfl (Or.inr rfl)
  | cursorTo row col => exact caps.understands_absolute row col
  | cursorColumn n
  | cursorForward n
  | cursorBack n
  | cursorUp n
  | cursorDown n =>
      exact caps.understands_unless _ _ (by decide) (by decide)
  | cursorShape shape =>
      have hParam : shape.param ≤ Parser.maxParameter := by
        cases shape <;> decide
      apply understands_of_read
        (Parser.readChars_shape _ hParam (by decide))
      apply ControlSequence.isWithin_of_other caps (by simp)
      intro hSync
      have hMarks : [' '] = ['?'] := hSync.1
      exact absurd hMarks (by decide)
  | clearScreen =>
      have hDigit : ∀ d ∈ ['2'], Parser.IsNumeric d :=
        fun _ hd => Parser.isNumeric_decimal (n := 2) hd
      exact
        caps.understands_numbers hDigit (by decide) (by decide)
  | eraseToEndOfLine =>
      exact
        caps.understands_numbers (by simp) (by decide) (by decide)
  | resetStyle =>
      have hReset : (Sgr.empty.push 0).IsReadable := by
        simp [Sgr.IsReadable, Sgr.push, Sgr.append, Sgr.empty,
          SgrParam.IsReadable]
      exact
        understands_sgr hReset
          ((Sgr.isSpoken_empty caps).push (by decide)).isWithin
  | setStyle sgr => exact understands_sgr h.1 h.2
  | hideCursor =>
      exact
        caps.understands_mode 25 (by decide) (Or.inr rfl) (by simp)
  | showCursor =>
      exact
        caps.understands_mode 25 (by decide) (Or.inl rfl) (by simp)
  | beginSync =>
      exact
        caps.understands_mode 2026 (by decide) (Or.inl rfl)
          fun _ => h
  | endSync =>
      exact
        caps.understands_mode 2026 (by decide) (Or.inr rfl)
          fun _ => h
  | enterAlternate =>
      exact
        caps.understands_mode 1049 (by decide) (Or.inl rfl) (by simp)
  | leaveAlternate =>
      exact
        caps.understands_mode 1049 (by decide) (Or.inr rfl) (by simp)

/- So are such commands one after another. -/
theorem understands_commands
    {caps : Capabilities}
    {cs : List Command}
    (hText : ∀ c ∈ cs, c.text? = none)
    (h : ∀ c ∈ cs, c.IsWithin caps) :
    caps.Understands (cs.flatMap Command.chars) := by
  induction cs with
  | nil => exact caps.understands_nil
  | cons c cs ih =>
      rw [List.forall_mem_cons] at hText h
      rw [List.flatMap_cons]
      exact
        (understands_command hText.1 h.1).append (ih hText.2 h.2)

end Capabilities

------------------------------------------------------------
-- Steps
------------------------------------------------------------

theorem Move.isWithin_commands
    (caps : Capabilities)
    (move : Move) :
    ∀ c ∈ move.commands, c.IsWithin caps := by
  cases move with
  | absolute target => simp [commands, Command.IsWithin]
  | nextLine => simp [commands, Command.IsWithin]
  | relative v h =>
      cases v <;> cases h <;>
        simp [commands, Vertical.commands, Horizontal.commands,
          Command.IsWithin]

namespace Op

/- A step is told with commands that the terminal has. -/
theorem isWithin_commands
    (caps : Capabilities)
    (cols : Nat)
    {st : FrameState}
    (hStyle : st.style.IsWithin caps)
    (op : Op) :
    ∀ c ∈ (op.commands caps cols st).1, c.IsWithin caps := by
  cases op with
  | moveTo target =>
      simp only [commands]
      split
      · simp
      · exact Move.isWithin_commands caps _
  | setStyle style =>
      intro c hc
      rw [List.mem_singleton.mp hc]
      exact
        ⟨(Transition.leads_between st.style
            (caps.underline_adaptStyle style)).readable,
          (Transition.isSpoken_between hStyle
            (caps.isWithin_adaptStyle style)).isWithin⟩
  | _ => simp [commands, Command.IsWithin]

/- The style that is believed stays one the terminal can show. -/
theorem isWithin_style
    (caps : Capabilities)
    (cols : Nat)
    {st : FrameState}
    (hStyle : st.style.IsWithin caps)
    (op : Op) :
    (op.commands caps cols st).2.style.IsWithin caps := by
  cases op with
  | clearScreen => exact caps.isWithin_default
  | setStyle style => exact caps.isWithin_adaptStyle style
  | moveTo target =>
      simp only [commands]
      split
      · exact hStyle
      · exact hStyle
  | _ => exact hStyle

end Op

/- So are all steps, from a style that the terminal can show. -/
theorem isWithin_commandsOf
    (caps : Capabilities)
    (cols : Nat)
    {st : FrameState}
    (hStyle : st.style.IsWithin caps)
    (ops : List Op) :
    ∀ c ∈ commandsOf caps cols st ops, c.IsWithin caps := by
  induction ops generalizing st with
  | nil => simp [commandsOf]
  | cons op later ih =>
      intro c hc
      rw [commandsOf_cons] at hc
      rcases List.mem_append.mp hc with hNow | hLater
      · exact op.isWithin_commands caps cols hStyle c hNow
      · exact ih (op.isWithin_style caps cols hStyle) c hLater

------------------------------------------------------------
-- Frames
------------------------------------------------------------

/- The same terminal, told to show things as they come. -/
def Capabilities.unmarked (caps : Capabilities) : Capabilities :=
  { caps with synchronizedOutput := false }

/- What is said within the marks does not depend on them. -/
theorem commandsOf_unmarked
    (caps : Capabilities)
    (cols : Nat)
    (st : FrameState)
    (ops : List Op) :
    commandsOf caps.unmarked cols st ops =
      commandsOf caps cols st ops := by
  induction ops generalizing st with
  | nil => rfl
  | cons op later ih =>
      have hOp :
          op.commands caps.unmarked cols st =
            op.commands caps cols st := by
        cases op <;> rfl
      rw [commandsOf_cons, commandsOf_cons, hOp, ih]

namespace Plan

theorem isWithin_commands
    (p : Plan)
    (caps : Capabilities) :
    ∀ c ∈ p.commands caps, c.IsWithin caps := by
  have hBody : ∀ c ∈ p.bodyCommands caps, c.IsWithin caps :=
    isWithin_commandsOf caps p.cols caps.isWithin_default p.ops
  unfold commands
  split
  · simp
  · split
    · rename_i hSync
      intro c hc
      simp only [List.mem_cons, List.mem_append, List.not_mem_nil,
        or_false] at hc
      rcases hc with rfl | hc | rfl
      · exact hSync
      · exact hBody c hc
      · exact hSync
    · exact hBody

/- The bytes of a frame beside its texts. -/
def controlBytes
    (p : Plan)
    (caps : Capabilities) : List UInt8 :=
  ((p.commands caps).filter (·.text?.isNone)).flatMap Command.bytes

/- They are understood, whatever stands between them. -/
theorem read_controlBytes
    (p : Plan)
    (caps : Capabilities) :
    ∃ actions,
      Parser.ground.read (p.controlBytes caps) =
          (actions, .ground) ∧
        ∀ action ∈ actions, action.IsWithin caps := by
  have hText :
      ∀ c ∈ (p.commands caps).filter (·.text?.isNone),
        c.text? = none := by
    intro c hc
    exact Option.isNone_iff_eq_none.mp (List.mem_filter.mp hc).2
  have hWithin :
      ∀ c ∈ (p.commands caps).filter (·.text?.isNone),
        c.IsWithin caps := by
    intro c hc
    exact p.isWithin_commands caps c (List.mem_filter.mp hc).1
  rcases Capabilities.understands_commands hText hWithin with
    ⟨actions, hRead, hActions⟩
  refine ⟨actions, ?_, hActions⟩
  rw [Parser.readChars, List.flatMap_assoc] at hRead
  exact hRead

/- A frame with marks is the frame without them, between two. -/
theorem encode_of_sync
    {p : Plan}
    {caps : Capabilities}
    (hSync : caps.synchronizedOutput = true)
    (hSome : p.ops ≠ []) :
    p.encode caps =
      Command.beginSync.bytes ++
        (p.encode caps.unmarked ++ Command.endSync.bytes) := by
  have hBody : p.bodyCommands caps.unmarked = p.bodyCommands caps :=
    commandsOf_unmarked caps p.cols _ p.ops
  have hPlan : p.isEmpty = false := by
    simpa [isEmpty] using hSome
  have hPlain : caps.unmarked.synchronizedOutput = false := rfl
  simp [encode, commands, hPlan, hSync, hPlain, hBody]

/-
  A frame beside its texts.  It is line ends and sequences that
  the terminal understands; an empty plan takes no bytes; and
  marks stand around a frame, if the terminal supports them, and
  never inside it.
-/
structure StaysWithin
    (p : Plan)
    (caps : Capabilities) : Prop where
  texts :
    (p.commands caps).filterMap Command.text? =
      p.ops.filterMap Op.text?
  controls :
    ∃ actions,
      Parser.ground.read (p.controlBytes caps) =
          (actions, .ground) ∧
        ∀ action ∈ actions, action.IsWithin caps
  empty : p.ops = [] → p.encode caps = []
  marked :
    caps.synchronizedOutput = true → p.ops ≠ [] →
      p.encode caps =
        Command.beginSync.bytes ++
          (p.encode caps.unmarked ++ Command.endSync.bytes)
  body :
    ∀ seq,
      Action.sequence seq ∈
          (Parser.ground.read (p.controlBytes caps.unmarked)).1 →
        ¬ seq.IsSync

/- Every frame stays within what its terminal understands. -/
theorem stays_within_capabilities
    (p : Plan)
    (caps : Capabilities) :
    p.StaysWithin caps where
  texts := p.filterMap_text?_commands caps
  controls := p.read_controlBytes caps
  empty := fun hEmpty => encode_of_ops_eq_nil hEmpty caps
  marked := encode_of_sync
  body := by
    intro seq hSeq hSync
    rcases p.read_controlBytes caps.unmarked with
      ⟨actions, hRead, hWithin⟩
    rw [hRead] at hSeq
    have hMarked := (hWithin _ hSeq).marked hSync
    exact absurd hMarked Bool.false_ne_true

/- A frame that only shows the cursor, between its marks. -/
example :
    Parser.ground.read
        ([.beginSync, .showCursor, .endSync].flatMap
          Command.bytes) =
      ([.sequence ⟨['?'], [[2026]], 'h'⟩,
        .sequence ⟨['?'], [[25]], 'h'⟩,
        .sequence ⟨['?'], [[2026]], 'l'⟩], .ground) := by
  decide +kernel

end Plan

end Redraw
