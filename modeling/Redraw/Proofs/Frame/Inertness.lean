import Redraw.Frame
import Redraw.Proofs.Plan.Contents

/-
  Inertness: no text of a cell is obeyed by a terminal.

  A frame is the characters of its commands, in UTF-8.  What is
  not text in it is a control sequence or a single control
  character, so that a scan which knows nothing of the commands
  finds the texts of the plan, and every control character is
  one that the encoder wrote.

  Key definitions include:
    * `Command.IsControl`: what is written for no text
    * `Scan.printed`: what is left without control sequences
    * `Plan.frameChars`: the characters of a frame
    * `Plan.Made`: the plans of a diff and of a repaint
    * `Plan.Inert`

  Main declarations:
    * `Command.isControl_chars`
    * `Scan.printed_commands`
    * `Plan.filterMap_text?_commands`
    * `Plan.Made.inert`
-/

namespace Redraw

------------------------------------------------------------
-- Texts and Sequences
------------------------------------------------------------

/- The text of a step, if it is one. -/
def Op.text? : Op → Option (List Char)
  | .text chars _ => some chars
  | _ => none

namespace Command

/- The text of a command, if it is one. -/
def text? : Command → Option (List Char)
  | .text chars => some chars
  | _ => none

/- A character of the parameters of a control sequence. -/
def IsParameter (c : Char) : Prop :=
  0x20 ≤ c.toNat ∧ c.toNat < 0x40

/- A character that ends a control sequence. -/
def IsFinal (c : Char) : Prop :=
  0x40 ≤ c.toNat ∧ c.toNat < 0x7F

instance (c : Char) : Decidable (IsParameter c) :=
  inferInstanceAs (Decidable (_ ∧ _))

instance (c : Char) : Decidable (IsFinal c) :=
  inferInstanceAs (Decidable (_ ∧ _))

/- What stands for a command that is no text. -/
inductive IsControl : List Char → Prop
  | nothing : IsControl []
  | carriageReturn : IsControl ['\r']
  | lineFeed : IsControl ['\n']
  | sequence
      {params : List Char}
      {final : Char}
      (parameters : ∀ c ∈ params, IsParameter c)
      (ends : IsFinal final) :
      IsControl (sequence params final)

theorem isParameter_decimal
    (n : Nat) :
    ∀ c ∈ decimal n, IsParameter c := by
  intro c hc
  rcases toNat_of_mem_decimal hc with ⟨hLow, hHigh⟩
  exact ⟨by omega, by omega⟩

theorem isParameter_of_all
    {cs : List Char}
    (h : cs.all (IsParameter ·)) :
    ∀ c ∈ cs, IsParameter c := by
  simpa using h

theorem isParameter_append
    {cs ds : List Char}
    (h : ∀ c ∈ cs, IsParameter c)
    (hMore : ∀ c ∈ ds, IsParameter c) :
    ∀ c ∈ cs ++ ds, IsParameter c := by
  intro c hc
  rcases List.mem_append.mp hc with hFirst | hLater
  · exact h c hFirst
  · exact hMore c hLater

/- A parameter of a style change is digits and colons. -/
theorem isParameter_param
    (param : SgrParam) :
    ∀ c ∈ param.chars, IsParameter c := by
  cases param with
  | code n => exact isParameter_decimal n
  | sub n m =>
      apply isParameter_append (isParameter_decimal n)
      exact List.forall_mem_cons.mpr
        ⟨by decide, isParameter_decimal m⟩

theorem isParameter_body
    (sgr : Sgr) :
    ∀ c ∈ sgr.body, IsParameter c := by
  unfold Sgr.body
  induction sgr.params with
  | nil => simp
  | cons first later ih =>
      cases later with
      | nil => simpa using isParameter_param first
      | cons second later =>
          rw [List.map_cons, List.map_cons,
            List.intercalate_cons_cons]
          apply isParameter_append _ ih
          apply isParameter_append (isParameter_param first)
          exact isParameter_of_all rfl

/- A number that is left out where it would be assumed. -/
theorem isParameter_unless
    (assumed : Prop)
    [Decidable assumed]
    (n : Nat) :
    ∀ c ∈ if assumed then [] else decimal n, IsParameter c := by
  split
  · simp
  · exact isParameter_decimal n

theorem isControl_absolute
    (row col : Nat) :
    IsControl (absolute row col) := by
  unfold absolute
  split
  · exact .sequence (isParameter_unless _ _) (by decide)
  · refine .sequence ?_ (by decide)
    apply isParameter_append (isParameter_decimal _)
    exact List.forall_mem_cons.mpr
      ⟨by decide, isParameter_decimal _⟩

theorem isControl_sgr
    (sgr : Sgr) :
    IsControl sgr.chars := by
  unfold Sgr.chars
  split
  · exact .nothing
  · exact .sequence (isParameter_body sgr) (by decide)

/- A command is a text, or nothing a terminal would show. -/
theorem isControl_chars
    {c : Command}
    (h : c.text? = none) :
    IsControl c.chars := by
  cases c with
  | text chars => cases h
  | carriageReturn => exact .carriageReturn
  | lineFeed => exact .lineFeed
  | cursorTo row col => exact isControl_absolute row col
  | cursorColumn n
  | cursorForward n
  | cursorBack n
  | cursorUp n
  | cursorDown n =>
      exact .sequence (isParameter_unless _ _) (by decide)
  | cursorShape shape =>
      refine .sequence ?_ (by decide)
      apply isParameter_append (isParameter_decimal _)
      exact isParameter_of_all rfl
  | setStyle sgr => exact isControl_sgr sgr
  | _ => exact .sequence (isParameter_of_all rfl) (by decide)

theorem chars_of_text
    {c : Command}
    {chars : List Char}
    (h : c.text? = some chars) :
    c.chars = chars := by
  cases c <;> simp_all [text?, Command.chars]

end Command

------------------------------------------------------------
-- Scanning
------------------------------------------------------------

/- Where a scan for control sequences is. -/
inductive Scan
  | plain
  | escape
  | sequence
  deriving DecidableEq

namespace Scan

/-
  What is left of some characters when control sequences and
  single control characters are taken out.  It does not know
  which commands were written.
-/
def printed : Scan → List Char → List Char
  | _, [] => []
  | .plain, c :: later =>
      if c = '\x1b' then printed .escape later
      else if isControl c then printed .plain later
      else c :: printed .plain later
  | .escape, c :: later =>
      if c = '[' then printed .sequence later
      else printed .plain later
  | .sequence, c :: later =>
      if Command.IsFinal c then printed .plain later
      else printed .sequence later

/- Text without control characters is left as it is. -/
theorem printed_text
    {chars : List Char}
    (h : chars.any isControl = false)
    (later : List Char) :
    printed .plain (chars ++ later) =
      chars ++ printed .plain later := by
  induction chars with
  | nil => rfl
  | cons c chars ih =>
      rw [List.any_cons, Bool.or_eq_false_iff] at h
      have hEscape : c ≠ '\x1b' := by
        rintro rfl
        exact absurd h.1 (by decide)
      rw [List.cons_append, printed, if_neg hEscape, h.1,
        if_neg Bool.false_ne_true, ih h.2, List.cons_append]

theorem printed_parameters
    {params : List Char}
    (h : ∀ c ∈ params, Command.IsParameter c)
    (later : List Char) :
    printed .sequence (params ++ later) = printed .sequence later := by
  induction params with
  | nil => rfl
  | cons c params ih =>
      rw [List.forall_mem_cons] at h
      have hInside : ¬ Command.IsFinal c := fun hFinal =>
        Nat.not_lt.mpr hFinal.1 h.1.2
      rw [List.cons_append, printed, if_neg hInside, ih h.2]

/- Nothing is left of what is no text. -/
theorem printed_control
    {chars : List Char}
    (h : Command.IsControl chars)
    (later : List Char) :
    printed .plain (chars ++ later) = printed .plain later := by
  cases h with
  | nothing => rfl
  | carriageReturn => rfl
  | lineFeed => rfl
  | @sequence params final parameters ends =>
      change printed .sequence (params ++ [final] ++ later) = _
      rw [List.append_assoc, printed_parameters parameters,
        List.singleton_append, printed, if_pos ends]

/- By the commands: only texts leave something. -/
theorem printed_commands
    {cs : List Command}
    (h :
      ∀ c ∈ cs, ∀ chars, c.text? = some chars →
        chars.any isControl = false) :
    printed .plain (cs.flatMap Command.chars) =
      (cs.filterMap Command.text?).flatten := by
  induction cs with
  | nil => rfl
  | cons c cs ih =>
      rw [List.forall_mem_cons] at h
      rw [List.flatMap_cons]
      cases hText : c.text? with
      | none =>
          rw [printed_control (Command.isControl_chars hText), ih h.2,
            List.filterMap_cons_none hText]
      | some chars =>
          rw [Command.chars_of_text hText,
            printed_text (h.1 chars hText), ih h.2,
            List.filterMap_cons_some hText, List.flatten_cons]

end Scan

------------------------------------------------------------
-- Frames
------------------------------------------------------------

theorem Move.filterMap_text?_commands
    (move : Move) :
    move.commands.filterMap Command.text? = [] := by
  cases move with
  | absolute target => rfl
  | nextLine => rfl
  | relative v h => cases v <;> cases h <;> rfl

/- Only a text is encoded as a text, and as itself. -/
theorem Op.filterMap_text?_commands
    (caps : Capabilities)
    (cols : Nat)
    (st : FrameState)
    (op : Op) :
    (op.commands caps cols st).1.filterMap Command.text? =
      op.text?.toList := by
  cases op with
  | moveTo target =>
      simp only [commands]
      split
      · rfl
      · exact Move.filterMap_text?_commands _
  | text chars width => rfl
  | clearScreen => rfl
  | setStyle style => rfl
  | eraseToEndOfLine => rfl
  | showCursor => rfl
  | hideCursor => rfl
  | setCursorShape shape => rfl

theorem filterMap_text?_commandsOf
    (caps : Capabilities)
    (cols : Nat)
    (st : FrameState)
    (ops : List Op) :
    (commandsOf caps cols st ops).filterMap Command.text? =
      ops.filterMap Op.text? := by
  induction ops generalizing st with
  | nil => rfl
  | cons op later ih =>
      have hOp := op.filterMap_text?_commands caps cols st
      rw [commandsOf, List.filterMap_append, hOp, ih]
      cases hText : op.text? with
      | none => rw [List.filterMap_cons_none hText]; rfl
      | some chars => rw [List.filterMap_cons_some hText]; rfl

/- Where a character stands in what some commands write. -/
theorem Command.exists_of_flatMap_chars
    {cs : List Command}
    {before after : List Char}
    {c : Char}
    (h : cs.flatMap Command.chars = before ++ c :: after) :
    ∃ front command back u v,
      cs = front ++ command :: back ∧
        command.chars = u ++ c :: v ∧
        before = front.flatMap Command.chars ++ u ∧
        after = v ++ back.flatMap Command.chars := by
  have hParts :
      ∃ fronts u v backs,
        cs.map Command.chars = fronts ++ (u ++ c :: v) :: backs ∧
          before = fronts.flatten ++ u ∧
          after = v ++ backs.flatten := by
    rw [List.flatMap_def] at h
    rcases List.flatten_eq_append_iff.mp h with
      ⟨fronts, rest, hAll, rfl, hRest⟩ |
        ⟨fronts, u, d, v, backs, hAll, rfl, hRest⟩
    · -- The character starts a part, after some that are empty.
      rcases List.flatten_eq_cons_iff.mp hRest.symm with
        ⟨nils, v, backs, rfl, hNil, rfl⟩
      refine ⟨fronts ++ nils, [], v, backs, by simp [hAll], ?_, rfl⟩
      simp [List.flatten_eq_nil_iff.mpr hNil]
    · obtain ⟨rfl, rfl⟩ := List.cons.inj hRest
      exact ⟨fronts, u, v, backs, hAll, rfl, rfl⟩
  rcases hParts with ⟨fronts, u, v, backs, hAll, rfl, rfl⟩
  rcases List.map_eq_append_iff.mp hAll with
    ⟨front, rest, rfl, rfl, hRest⟩
  rcases List.map_eq_cons_iff.mp hRest with
    ⟨command, back, rfl, hChars, rfl⟩
  exact ⟨front, command, back, u, v, rfl, hChars, rfl, rfl⟩

namespace Plan

/- The characters of a frame. -/
def frameChars
    (p : Plan)
    (caps : Capabilities) : List Char :=
  (p.commands caps).flatMap Command.chars

/- Its bytes are these in UTF-8. -/
theorem encode_eq
    (p : Plan)
    (caps : Capabilities) :
    p.encode caps =
      (p.frameChars caps).flatMap String.utf8EncodeChar := by
  rw [encode, frameChars, List.flatMap_assoc]
  rfl

/- A plan without steps has no bytes. -/
theorem encode_of_ops_eq_nil
    {p : Plan}
    (h : p.ops = [])
    (caps : Capabilities) :
    p.encode caps = [] := by
  rw [encode, commands, isEmpty, h]
  rfl

/- The texts of a frame are those of its plan, in order. -/
theorem filterMap_text?_commands
    (p : Plan)
    (caps : Capabilities) :
    (p.commands caps).filterMap Command.text? =
      p.ops.filterMap Op.text? := by
  unfold commands
  split
  · rename_i hEmpty
    rw [List.isEmpty_iff.mp hEmpty]
    rfl
  · have hBody :
        (p.bodyCommands caps).filterMap Command.text? =
          p.ops.filterMap Op.text? :=
      filterMap_text?_commandsOf caps p.cols _ p.ops
    split
    · rw [List.filterMap_cons_none rfl, List.filterMap_append, hBody]
      simp [Command.text?]
    · exact hBody

/- A plan that was made for two screens or for one. -/
inductive Made : Plan → Prop
  | diff
      {prev curr : Snapshot}
      {belief : Belief}
      {plan : Plan}
      (plans : Plan.diff prev curr belief = .ok plan) :
      Made plan
  | repaint
      {curr : Snapshot}
      {plan : Plan}
      (plans : Plan.repaint curr = .ok plan) :
      Made plan

theorem Made.text
    {p : Plan}
    (h : p.Made)
    {chars : List Char}
    {width : Nat}
    (hText : .text chars width ∈ p.ops) :
    chars ≠ [] ∧ chars.any isControl = false := by
  have hDrawn : (Op.text chars width).IsDrawn := by
    cases h with
    | diff plans => exact drawn_diffGrids plans _ hText
    | repaint plans =>
        rcases repaint_eq_ok plans with ⟨inner, hInner, rfl⟩
        rcases List.mem_cons.mp hText with hClear | hInnerText
        · cases hClear
        · exact drawn_diffGrids hInner _ hInnerText
  cases hDrawn with
  | @text cells nonempty units =>
      constructor
      · intro hNil
        rcases List.exists_mem_of_ne_nil cells nonempty with ⟨c, hc⟩
        exact Cell.text_ne_nil (units c hc)
          (List.flatMap_eq_nil_iff.mp hNil c hc)
      · rw [List.any_flatMap, List.any_eq_false]
        intro c _
        simp [c.noControl_text]

/-
  The texts of a plan are printable.  Its frame is UTF-8 and
  holds them in order between commands that are no text, which
  is also what a scan of the frame finds; a control character
  in it is part of such a command.
-/
structure Inert
    (p : Plan)
    (caps : Capabilities) : Prop where
  texts :
    ∀ chars width, .text chars width ∈ p.ops →
      chars ≠ [] ∧ chars.any isControl = false
  decodes :
    (p.encode caps).toByteArray.utf8Decode? =
      some (p.frameChars caps).toArray
  parts :
    (p.commands caps).filterMap Command.text? =
      p.ops.filterMap Op.text?
  scanned :
    Scan.printed .plain (p.frameChars caps) =
      (p.ops.filterMap Op.text?).flatten
  controls :
    ∀ before c after,
      p.frameChars caps = before ++ c :: after →
        isControl c = true →
          ∃ front command back u v,
            p.commands caps = front ++ command :: back ∧
              command.text? = none ∧
              command.chars = u ++ c :: v ∧
              before = front.flatMap Command.chars ++ u ∧
              after = v ++ back.flatMap Command.chars

theorem Made.inert
    {p : Plan}
    (h : p.Made)
    (caps : Capabilities) :
    p.Inert caps := by
  have hParts := p.filterMap_text?_commands caps
  have hTexts :
      ∀ command ∈ p.commands caps, ∀ chars,
        command.text? = some chars → chars.any isControl = false := by
    intro command hCommand chars hChars
    have hMember : chars ∈ p.ops.filterMap Op.text? := by
      rw [← hParts]
      exact List.mem_filterMap.mpr ⟨command, hCommand, hChars⟩
    rcases List.mem_filterMap.mp hMember with ⟨op, hOp, hText⟩
    cases op with
    | text written width =>
        obtain rfl : written = chars := Option.some.inj hText
        exact (h.text hOp).2
    | _ => cases hText
  refine ⟨fun chars width hText => h.text hText, ?_, hParts, ?_, ?_⟩
  · rw [encode_eq]
    exact List.utf8Decode?_utf8Encode
  · rw [← hParts]
    exact Scan.printed_commands hTexts
  · intro before c after hSplit hControl
    rcases Command.exists_of_flatMap_chars hSplit with
      ⟨front, command, back, u, v, hCommands, hChars, hBefore, hAfter⟩
    refine
      ⟨front, command, back, u, v, hCommands, ?_, hChars, hBefore,
        hAfter⟩
    cases hText : command.text? with
    | none => rfl
    | some chars =>
        have hClean :=
          hTexts command (by rw [hCommands]; simp) chars hText
        rw [← Command.chars_of_text hText, hChars] at hClean
        simp [hControl] at hClean

/- A cell that was to hold an escape character. -/
theorem Made.inert_escape :
    ∃ p,
      Plan.repaint
          ⟨1, (Grid.blank 1 2).set 0 0 (.styled ['\x1b'] .default)⟩ =
        .ok p ∧
        p.Inert .minimal := by
  have hPlan :
      ∃ p,
        Plan.repaint
            ⟨1, (Grid.blank 1 2).set 0 0 (.styled ['\x1b'] .default)⟩ =
          .ok p := ⟨_, rfl⟩
  rcases hPlan with ⟨p, hPlan⟩
  exact ⟨p, hPlan, (Made.repaint hPlan).inert .minimal⟩

end Plan

end Redraw
