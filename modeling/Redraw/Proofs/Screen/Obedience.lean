import Redraw.Proofs.Screen.Reading
import Redraw.Screen.Execution

/-
  Obedience: a terminal that reads the bytes of a command does
  what the command says.

  Key definitions include:
    * `Screen.obey`: what a command does to a screen
    * `Command.IsReadable`: commands whose numbers a terminal
      can take

  Main declarations:
    * `Receiver.feed_bytes`: one command
    * `Receiver.feed_commands`: commands one after another
    * `Receiver.feed_bytes_of_escape`: a sequence, whatever was
      begun before it
-/

namespace Redraw

------------------------------------------------------------
-- Style Changes
------------------------------------------------------------

namespace SgrParam

/- The group that a parameter is read as. -/
def group : SgrParam → List Nat
  | .code n => [n]
  | .sub n m => [n, m]

/- A parameter whose numbers are not cut. -/
def IsReadable : SgrParam → Prop
  | .code n => n ≤ Parser.maxParameter
  | .sub n m =>
      n ≤ Parser.maxParameter ∧ m ≤ Parser.maxParameter

instance : DecidablePred IsReadable
  | .code n => inferInstanceAs (Decidable (n ≤ _))
  | .sub n m => inferInstanceAs (Decidable (n ≤ _ ∧ m ≤ _))

end SgrParam

namespace Parser

/- A parameter is read as its group. -/
theorem readChars_param
    (p : Partial)
    (hGroup : p.group = [])
    (hNumber : p.number = 0)
    {param : SgrParam}
    (h : param.IsReadable) :
    ∃ q, (sequence p).readChars param.chars = ([], .sequence q) ∧
      q.marks = p.marks ∧
      closedGroups q = p.groups ++ [param.group] := by
  cases param with
  | code n =>
      refine ⟨{ p with number := n },
        readChars_decimal p hNumber h, rfl, ?_⟩
      simp [closedGroups, hGroup, SgrParam.group]
  | sub n m =>
      refine ⟨{ p with group := [n], number := m }, ?_, rfl, ?_⟩
      · have hLast :=
          readChars_decimal
            { p with group := [n], number := 0 } rfl h.2
        unfold SgrParam.chars
        rw [readChars_append (readChars_decimal p hNumber h.1)]
        change
          ([] ++ ((sequence _).readChars
              ([':'] ++ decimal m)).1,
            ((sequence _).readChars ([':'] ++ decimal m)).2) = _
        rw [readChars_append (readChars_colon _)]
        simp [hGroup, hLast]
      · simp [closedGroups, SgrParam.group]

/- Parameters between semicolons are read as their groups. -/
theorem readChars_params
    (first : SgrParam)
    (later : List SgrParam)
    (p : Partial)
    (hGroup : p.group = [])
    (hNumber : p.number = 0)
    (h : ∀ param ∈ first :: later, param.IsReadable) :
    ∃ q,
      (sequence p).readChars
          ([';'].intercalate
            ((first :: later).map SgrParam.chars)) =
        ([], .sequence q) ∧
      q.marks = p.marks ∧
      closedGroups q =
        p.groups ++ (first :: later).map SgrParam.group := by
  induction later generalizing first p with
  | nil =>
      rcases readChars_param p hGroup hNumber
          (h first (by simp)) with
        ⟨q, hRead, hMarks, hGroups⟩
      exact ⟨q, by simpa using hRead, hMarks, by simpa using hGroups⟩
  | cons second later ih =>
      rcases readChars_param p hGroup hNumber
          (h first (by simp)) with
        ⟨q, hRead, hMarks, hGroups⟩
      rcases ih second
          { marks := q.marks, groups := closedGroups q } rfl rfl
          (fun param hParam => h param (by simp [hParam])) with
        ⟨r, hRest, hRestMarks, hRestGroups⟩
      refine ⟨r, ?_, by simpa [hMarks] using hRestMarks, ?_⟩
      · have hSplit :
            [';'].intercalate
                ((first :: second :: later).map SgrParam.chars) =
              first.chars ++ ([';'] ++
                [';'].intercalate
                  ((second :: later).map SgrParam.chars)) := by
          simp [List.intercalate]
        rw [hSplit, readChars_append hRead,
          readChars_append (readChars_semicolon q), hRest]
        rfl
      · rw [hRestGroups]
        simp [hGroups]

end Parser

namespace Sgr

/- The groups that a style change is read as. -/
def groups (s : Sgr) : List (List Nat) :=
  s.params.map SgrParam.group

/- A style change whose numbers are not cut. -/
def IsReadable (s : Sgr) : Prop :=
  ∀ param ∈ s.params, param.IsReadable

end Sgr

------------------------------------------------------------
-- Commands
------------------------------------------------------------

/-
  A command whose numbers are not cut and whose text holds no
  control character.
-/
def Command.IsReadable : Command → Prop
  | .cursorTo row col =>
      row < Parser.maxParameter ∧ col < Parser.maxParameter
  | .cursorColumn col => col < Parser.maxParameter
  | .cursorForward n => n ≤ Parser.maxParameter
  | .cursorBack n => n ≤ Parser.maxParameter
  | .cursorUp n => n ≤ Parser.maxParameter
  | .cursorDown n => n ≤ Parser.maxParameter
  | .setStyle sgr => sgr.IsReadable
  | .text chars => ∀ c ∈ chars, isPrintable c
  | _ => True

namespace Screen

/- What a style change does; one without parameters nothing. -/
def restyle
    (s : Screen)
    (sgr : Sgr) : Screen :=
  if sgr.isEmpty then s
  else
    { s with
      style := (Rendition.read? sgr.groups s.style).getD s.style }

/- What a command does to a screen. -/
def obey
    (s : Screen) :
    Command → Screen
  | .cursorTo row col => s.moveTo row col
  | .cursorColumn col => s.moveTo s.row col
  | .cursorForward n => s.moveTo s.row (s.col + max 1 n)
  | .cursorBack n => s.moveTo s.row (s.col - max 1 n)
  | .cursorUp n => s.moveTo (s.row - max 1 n) s.col
  | .cursorDown n => s.moveTo (s.row + max 1 n) s.col
  | .carriageReturn => s.carriageReturn
  | .lineFeed => s.lineFeed
  | .hideCursor => { s with visible := false }
  | .showCursor => { s with visible := true }
  | .cursorShape shape => { s with shape := shape }
  | .clearScreen => s.clear
  | .eraseToEndOfLine => s.eraseLine
  | .resetStyle => { s with style := .default }
  | .setStyle sgr => s.restyle sgr
  | .text chars => s.printAll chars
  | .beginSync => s
  | .endSync => s
  | .enterAlternate => s
  | .leaveAlternate => s

/- Commands one after another. -/
def obeyAll
    (s : Screen)
    (cs : List Command) : Screen :=
  cs.foldl obey s

/- Do things one after another. -/
def performAll
    (s : Screen)
    (actions : List Action) : Screen :=
  actions.foldl perform s

theorem performAll_append
    (s : Screen)
    (actions later : List Action) :
    s.performAll (actions ++ later) =
      (s.performAll actions).performAll later := by
  simp [performAll]

end Screen

------------------------------------------------------------
-- What Is Read
------------------------------------------------------------

namespace Parser

/- A sequence without parameters. -/
theorem readChars_plain
    (p : Parser)
    {final : Char}
    (hFinal : 0x40 ≤ final.toNat ∧ final.toNat < 0x7F) :
    p.readChars (Command.sequence [] final) =
      (p.abandoned ++ [.sequence ⟨[], [[0]], final⟩], .ground) :=
  readChars_sequence p (readChars_nil _) hFinal

/- A sequence with one parameter. -/
theorem readChars_counted
    (p : Parser)
    {n : Nat}
    (h : n ≤ maxParameter)
    {final : Char}
    (hFinal : 0x40 ≤ final.toNat ∧ final.toNat < 0x7F) :
    p.readChars (Command.sequence (decimal n) final) =
      (p.abandoned ++ [.sequence ⟨[], [[n]], final⟩], .ground) :=
  readChars_sequence p (readChars_decimal {} rfl h) hFinal

/-
  A parameter of one may be left out; it is assumed then, since
  a terminal counts zero as one.
-/
theorem readChars_assumed
    (p : Parser)
    {n : Nat}
    (h : n ≤ maxParameter)
    {final : Char}
    (hFinal : 0x40 ≤ final.toNat ∧ final.toNat < 0x7F) :
    ∃ k,
      p.readChars
          (Command.sequence (if n = 1 then [] else decimal n)
            final) =
        (p.abandoned ++ [.sequence ⟨[], [[k]], final⟩],
          .ground) ∧
      max 1 k = max 1 n := by
  by_cases hOne : n = 1
  · refine ⟨0, ?_, ?_⟩
    · rw [if_pos hOne]
      exact readChars_plain p hFinal
    · rw [hOne]
      rfl
  · refine ⟨n, ?_, rfl⟩
    rw [if_neg hOne]
    exact readChars_counted p h hFinal

/- A sequence with two parameters. -/
theorem readChars_addressed
    (p : Parser)
    {n m : Nat}
    (hn : n ≤ maxParameter)
    (hm : m ≤ maxParameter)
    {final : Char}
    (hFinal : 0x40 ≤ final.toNat ∧ final.toNat < 0x7F) :
    p.readChars
        (Command.sequence (decimal n ++ ';' :: decimal m) final) =
      (p.abandoned ++ [.sequence ⟨[], [[n], [m]], final⟩],
        .ground) := by
  have hSecond :
      (sequence { number := n }).readChars (';' :: decimal m) =
        ([], .sequence { groups := [[n]], number := m }) := by
    change (sequence _).readChars ([';'] ++ decimal m) = _
    rw [readChars_append (readChars_semicolon _),
      readChars_decimal _ rfl hm]
    rfl
  have hBoth :
      (sequence {}).readChars (decimal n ++ ';' :: decimal m) =
        ([], .sequence { groups := [[n]], number := m }) := by
    rw [readChars_append (readChars_decimal {} rfl hn), hSecond]
    rfl
  exact readChars_sequence p hBoth hFinal

/- A sequence that switches a private mode. -/
theorem readChars_mode
    (p : Parser)
    {n : Nat}
    (h : n ≤ maxParameter)
    {final : Char}
    (hFinal : 0x40 ≤ final.toNat ∧ final.toNat < 0x7F) :
    p.readChars (Command.privateMode (decimal n) final) =
      (p.abandoned ++ [.sequence ⟨['?'], [[n]], final⟩],
        .ground) := by
  have hBoth :
      (sequence {}).readChars ('?' :: decimal n) =
        ([], .sequence { marks := ['?'], number := n }) := by
    change (sequence _).readChars (['?'] ++ decimal n) = _
    rw [readChars_append (readChars_mark _ (Or.inr rfl)),
      readChars_decimal _ rfl h]
    rfl
  exact readChars_sequence p hBoth hFinal

/- The sequence that sets the shape of the cursor. -/
theorem readChars_shape
    (p : Parser)
    {n : Nat}
    (h : n ≤ maxParameter)
    {final : Char}
    (hFinal : 0x40 ≤ final.toNat ∧ final.toNat < 0x7F) :
    p.readChars (Command.sequence (decimal n ++ [' ']) final) =
      (p.abandoned ++ [.sequence ⟨[' '], [[n]], final⟩],
        .ground) := by
  have hBoth :
      (sequence {}).readChars (decimal n ++ [' ']) =
        ([], .sequence { marks := [' '], number := n }) := by
    rw [readChars_append (readChars_decimal {} rfl h),
      readChars_mark _ (Or.inl rfl)]
    rfl
  exact readChars_sequence p hBoth hFinal

/- A style change that says something. -/
theorem readChars_sgr
    (p : Parser)
    {sgr : Sgr}
    (h : sgr.IsReadable)
    (hSome : sgr.isEmpty = false) :
    p.readChars sgr.chars =
      (p.abandoned ++ [.sequence ⟨[], sgr.groups, 'm'⟩],
        .ground) := by
  rcases sgr with ⟨params⟩
  cases params with
  | nil => simp [Sgr.isEmpty] at hSome
  | cons first later =>
      rcases readChars_params first later {} rfl rfl h with
        ⟨q, hRead, hMarks, hGroups⟩
      have hChars :
          Sgr.chars ⟨first :: later⟩ =
            Command.sequence
              ([';'].intercalate
                ((first :: later).map SgrParam.chars)) 'm' := by
        simp [Sgr.chars, Sgr.isEmpty, Sgr.body, Command.sequence]
      rw [hChars, readChars_sequence p hRead (by decide), hMarks,
        hGroups]
      rfl

/- Text is read as its characters. -/
theorem readChars_text
    {chars : List Char}
    (h : ∀ c ∈ chars, isPrintable c) :
    ground.readChars chars = (chars.map .print, .ground) := by
  induction chars with
  | nil => rfl
  | cons c chars ih =>
      have hShown : isPrintable c = true := h c (by simp)
      simp only [isPrintable, isControl, Bool.not_eq_true',
        Bool.or_eq_false_iff, Bool.and_eq_false_iff,
        decide_eq_false_iff_not] at hShown
      have hFirst : ground.readChars [c] = ([.print c], .ground) := by
        rw [readChars_singleton (by omega), actionOf,
          if_neg (by omega)]
      change ground.readChars ([c] ++ chars) = _
      rw [readChars_append hFirst,
        ih (fun d hd => h d (by simp [hd]))]
      rfl

end Parser

------------------------------------------------------------
-- What Is Done
------------------------------------------------------------

namespace Receiver

/- Feeding is reading first and doing what was read then. -/
theorem feed_eq_performAll
    (r : Receiver)
    (bytes : List UInt8) :
    r.feed bytes =
      ⟨(r.parser.read bytes).2,
        r.screen.performAll (r.parser.read bytes).1⟩ := by
  induction bytes generalizing r with
  | nil => rfl
  | cons b bytes ih =>
      change (r.take b).feed bytes = _
      rw [ih]
      simp [take, Parser.read, Screen.performAll]

theorem feed_append
    (r : Receiver)
    (bytes later : List UInt8) :
    r.feed (bytes ++ later) = (r.feed bytes).feed later := by
  simp [feed]

end Receiver

namespace Screen

theorem perform_print
    (s : Screen)
    (chars : List Char) :
    s.performAll (chars.map .print) = s.printAll chars := by
  simp [performAll, printAll, List.foldl_map, perform]

/-
  A command is read as one sequence that does what the command
  says; something begun is given up before it.
-/
def Tells
    (p : Parser)
    (c : Command) : Prop :=
  ∃ seq,
    p.readChars c.chars =
        (p.abandoned ++ [.sequence seq], .ground) ∧
      ∀ s : Screen, s.runSequence seq = s.obey c

/- Sequences that move by a number or switch on it. -/
theorem tells_of_count
    (p : Parser)
    {c : Command}
    (n : Nat)
    (final : Char)
    (hChars :
      c.chars =
        Command.sequence (if n = 1 then [] else decimal n) final)
    (hn : n ≤ Parser.maxParameter)
    (hFinal : 0x40 ≤ final.toNat ∧ final.toNat < 0x7F)
    (hObey :
      ∀ (s : Screen) (k : Nat), max 1 k = max 1 n →
        s.plainSequence ⟨[], [[k]], final⟩ = s.obey c) :
    Tells p c := by
  rcases Parser.readChars_assumed p hn hFinal with
    ⟨k, hRead, hCount⟩
  refine ⟨⟨[], [[k]], final⟩, by rw [hChars, hRead], ?_⟩
  intro s
  rw [runSequence, if_pos rfl, hObey s k hCount]

/- Sequences with a given parameter. -/
theorem tells_of_parameter
    (p : Parser)
    {c : Command}
    (n : Nat)
    (final : Char)
    (hChars : c.chars = Command.sequence (decimal n) final)
    (hn : n ≤ Parser.maxParameter)
    (hFinal : 0x40 ≤ final.toNat ∧ final.toNat < 0x7F)
    (hObey :
      ∀ s : Screen,
        s.plainSequence ⟨[], [[n]], final⟩ = s.obey c) :
    Tells p c := by
  refine ⟨⟨[], [[n]], final⟩, ?_, ?_⟩
  · rw [hChars, Parser.readChars_counted p hn hFinal]
  · intro s
    rw [runSequence, if_pos rfl, hObey s]

/- Sequences that switch a private mode on or off. -/
theorem tells_of_mode
    (p : Parser)
    {c : Command}
    (n : Nat)
    (final : Char)
    (hChars : c.chars = Command.privateMode (decimal n) final)
    (hn : n ≤ Parser.maxParameter)
    (hFinal : final = 'h' ∨ final = 'l')
    (hObey :
      ∀ s : Screen, s.setMode n (final = 'h') = s.obey c) :
    Tells p c := by
  refine ⟨⟨['?'], [[n]], final⟩, ?_, ?_⟩
  · have hRange : 0x40 ≤ final.toNat ∧ final.toNat < 0x7F := by
      rcases hFinal with rfl | rfl <;> decide
    rw [hChars, Parser.readChars_mode p hn hRange]
  · intro s
    rw [← hObey s]
    simp [runSequence, hFinal]

/- Every command that starts with an escape tells what to do. -/
theorem tells_of_escape
    (p : Parser)
    {c : Command}
    (hReadable : c.IsReadable)
    (hEscape : c.chars.head? = some '\x1b') :
    Tells p c := by
  cases c with
  | cursorTo row col =>
      rcases hReadable with ⟨hRow, hCol⟩
      by_cases hFirst : col = 0
      · refine tells_of_count p (row + 1) 'H'
          (by simp [Command.chars, Command.absolute, hFirst])
          hRow (by decide) ?_
        intro s k hCount
        simp [plainSequence, obey, hFirst, hCount,
          ControlSequence.count, ControlSequence.parameter]
      · refine ⟨⟨[], [[row + 1], [col + 1]], 'H'⟩, ?_, ?_⟩
        · rw [Command.chars, Command.absolute, if_neg hFirst]
          exact Parser.readChars_addressed p hRow hCol (by decide)
        · intro s
          simp [runSequence, plainSequence, obey,
            ControlSequence.count, ControlSequence.parameter]
  | cursorColumn col =>
      refine tells_of_count p (col + 1) 'G'
        (by simp [Command.chars]) hReadable (by decide) ?_
      intro s k hCount
      simp [plainSequence, obey, hCount,
        ControlSequence.count, ControlSequence.parameter]
  | cursorForward n =>
      refine tells_of_count p n 'C' rfl
        hReadable (by decide) ?_
      intro s k hCount
      simp [plainSequence, obey, hCount,
        ControlSequence.count, ControlSequence.parameter]
  | cursorBack n =>
      refine tells_of_count p n 'D' rfl
        hReadable (by decide) ?_
      intro s k hCount
      simp [plainSequence, obey, hCount,
        ControlSequence.count, ControlSequence.parameter]
  | cursorUp n =>
      refine tells_of_count p n 'A' rfl
        hReadable (by decide) ?_
      intro s k hCount
      simp [plainSequence, obey, hCount,
        ControlSequence.count, ControlSequence.parameter]
  | cursorDown n =>
      refine tells_of_count p n 'B' rfl
        hReadable (by decide) ?_
      intro s k hCount
      simp [plainSequence, obey, hCount,
        ControlSequence.count, ControlSequence.parameter]
  | cursorShape shape =>
      refine ⟨⟨[' '], [[shape.param]], 'q'⟩, ?_, ?_⟩
      · exact Parser.readChars_shape p
          (by cases shape <;> decide) (by decide)
      · intro s
        simp [runSequence, obey, ControlSequence.parameter,
          CursorShape.ofParam_param]
  | clearScreen =>
      exact tells_of_parameter p 2 'J'
        (by decide) (by decide) (by decide) (fun s => rfl)
  | resetStyle =>
      exact tells_of_parameter p 0 'm'
        (by decide) (by decide) (by decide) (fun s => rfl)
  | eraseToEndOfLine =>
      refine ⟨⟨[], [[0]], 'K'⟩, ?_, fun s => rfl⟩
      exact Parser.readChars_plain p (by decide)
  | setStyle sgr =>
      have hSome : sgr.isEmpty = false := by
        cases hEmpty : sgr.isEmpty with
        | false => rfl
        | true => simp [Command.chars, Sgr.chars, hEmpty] at hEscape
      refine ⟨⟨[], sgr.groups, 'm'⟩,
        Parser.readChars_sgr p hReadable hSome, ?_⟩
      intro s
      simp [runSequence, plainSequence, obey, restyle, hSome]
  | hideCursor =>
      exact tells_of_mode p 25 'l'
        (by decide) (by decide) (by decide) (fun s => rfl)
  | showCursor =>
      exact tells_of_mode p 25 'h'
        (by decide) (by decide) (by decide) (fun s => rfl)
  | beginSync =>
      exact tells_of_mode p 2026 'h'
        (by decide) (by decide) (by decide) (fun s => rfl)
  | endSync =>
      exact tells_of_mode p 2026 'l'
        (by decide) (by decide) (by decide) (fun s => rfl)
  | enterAlternate =>
      exact tells_of_mode p 1049 'h'
        (by decide) (by decide) (by decide) (fun s => rfl)
  | leaveAlternate =>
      exact tells_of_mode p 1049 'l'
        (by decide) (by decide) (by decide) (fun s => rfl)
  | text chars =>
      have hPrintable : isPrintable '\x1b' = true :=
        hReadable _ (List.mem_of_mem_head? hEscape)
      exact absurd hPrintable (by decide)
  | carriageReturn => simp [Command.chars] at hEscape
  | lineFeed => simp [Command.chars] at hEscape

end Screen

------------------------------------------------------------
-- Feeding Commands
------------------------------------------------------------

namespace Receiver

/- A sequence is obeyed, whatever was begun before it. -/
theorem feed_bytes_of_escape
    (r : Receiver)
    {c : Command}
    (hReadable : c.IsReadable)
    (hEscape : c.chars.head? = some '\x1b') :
    r.feed c.bytes =
      ⟨.ground, (r.screen.performAll r.parser.abandoned).obey c⟩ := by
  rcases Screen.tells_of_escape r.parser hReadable hEscape with
    ⟨seq, hRead, hRun⟩
  have hBytes :
      r.parser.read c.bytes =
        (r.parser.abandoned ++ [.sequence seq], .ground) := hRead
  rw [feed_eq_performAll, hBytes, Screen.performAll_append]
  simp only [Receiver.mk.injEq, true_and]
  exact hRun _

/- Between commands, the bytes of a command are obeyed. -/
theorem feed_bytes
    (s : Screen)
    {c : Command}
    (hReadable : c.IsReadable) :
    (Receiver.mk .ground s).feed c.bytes =
      ⟨.ground, s.obey c⟩ := by
  by_cases hEscape : c.chars.head? = some '\x1b'
  · exact feed_bytes_of_escape ⟨.ground, s⟩ hReadable hEscape
  · have hBytes :
        Parser.ground.read c.bytes =
          Parser.ground.readChars c.chars := rfl
    rw [feed_eq_performAll, hBytes]
    cases c with
    | text chars =>
        rw [Command.chars, Parser.readChars_text hReadable,
          Screen.perform_print]
        rfl
    | carriageReturn => rfl
    | lineFeed => rfl
    | setStyle sgr =>
        cases hEmpty : sgr.isEmpty with
        | true =>
            simp [Command.chars, Sgr.chars, hEmpty, Screen.obey,
              Screen.restyle, Screen.performAll]
        | false => simp [Command.chars, Sgr.chars, hEmpty] at hEscape
    | cursorTo row col =>
        by_cases hFirst : col = 0 <;>
          simp [Command.chars, Command.absolute, Command.sequence,
            hFirst] at hEscape
    | _ => exact absurd (by rfl) hEscape

/- Commands one after another are obeyed in order. -/
theorem feed_commands
    (s : Screen)
    {cs : List Command}
    (hReadable : ∀ c ∈ cs, c.IsReadable) :
    (Receiver.mk .ground s).feed (cs.flatMap Command.bytes) =
      ⟨.ground, s.obeyAll cs⟩ := by
  induction cs generalizing s with
  | nil => rfl
  | cons c cs ih =>
      rw [List.flatMap_cons, feed_append,
        feed_bytes s (hReadable c (by simp)),
        ih _ (fun d hd => hReadable d (by simp [hd]))]
      rfl

end Receiver

end Redraw
