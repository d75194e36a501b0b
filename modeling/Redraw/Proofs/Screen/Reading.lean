import Redraw.Escape.Command
import Redraw.Screen.Parser

/-
  Reading what was written: bytes are taken for the characters
  and the control sequences that they were written for.

  Main declarations:
    * `Parser.read`: what some bytes make a terminal do
    * `Parser.readChars_singleton`: a character is read back
    * `Parser.readChars_escape`: an escape gives up what was
      begun
    * `Parser.readChars_sequence`: a control sequence is read
      back
-/

namespace Redraw

namespace Parser

------------------------------------------------------------
-- Bytes
------------------------------------------------------------

/- What is done on some bytes, and what is begun after them. -/
def read :
    Parser → List UInt8 → List Action × Parser
  | p, [] => ([], p)
  | p, b :: later =>
      let (now, q) := p.step b
      let (rest, r) := read q later
      (now ++ rest, r)

/- The same for characters in UTF-8. -/
def readChars
    (p : Parser)
    (cs : List Char) : List Action × Parser :=
  p.read (cs.flatMap String.utf8EncodeChar)

theorem read_append
    (p : Parser)
    (bytes later : List UInt8) :
    p.read (bytes ++ later) =
      ((p.read bytes).1 ++ ((p.read bytes).2.read later).1,
        ((p.read bytes).2.read later).2) := by
  induction bytes generalizing p with
  | nil => simp [read]
  | cons b bytes ih =>
      simp [read, ih]

@[simp] theorem readChars_nil
    (p : Parser) :
    p.readChars [] = ([], p) := rfl

/- Reading goes on where a part of what was written ends. -/
theorem readChars_append
    {p q : Parser}
    {cs : List Char}
    {actions : List Action}
    (h : p.readChars cs = (actions, q))
    (later : List Char) :
    p.readChars (cs ++ later) =
      (actions ++ (q.readChars later).1,
        (q.readChars later).2) := by
  unfold readChars at h ⊢
  rw [List.flatMap_append, read_append, h]

------------------------------------------------------------
-- Characters
------------------------------------------------------------

/- A character below 128 is a single byte. -/
theorem readChars_ascii
    (p : Parser)
    {c : Char}
    (h : c.toNat < 0x80) :
    p.readChars [c] = p.step (UInt8.ofNat c.toNat) := by
  have hSize : c.val.toNat ≤ 0x7f := by
    have hVal : c.val.toNat = c.toNat := rfl
    omega
  have hByte :
      String.utf8EncodeChar c = [UInt8.ofNat c.toNat] := by
    unfold String.utf8EncodeChar
    rw [if_pos hSize]
    rfl
  simp [readChars, hByte, read]

theorem toNat_ofNat_byte
    {n : Nat}
    (h : n < 256) :
    (UInt8.ofNat n).toNat = n := by
  rw [UInt8.toNat_ofNat']
  exact Nat.mod_eq_of_lt h

/- A first byte says how many bytes are missing. -/
theorem step_ground_first
    {n : Nat}
    (h : n < 256) :
    ground.step (UInt8.ofNat n) = start n := by
  simp only [step, toNat_ofNat_byte h]

/- A further byte brings six bits of a character. -/
theorem step_character_further
    {missing value bits : Nat}
    (h : bits < 64) :
    (character missing value).step (UInt8.ofNat (bits + 0x80)) =
      if missing ≤ 1 then
        ([actionOf (Char.ofNat (value * 64 + bits))], .ground)
      else ([], .character (missing - 1) (value * 64 + bits)) := by
  have hRange : 0x80 ≤ bits + 0x80 ∧ bits + 0x80 ≤ 0xBF := by
    omega
  have hByte : bits + 0x80 < 256 := by
    omega
  simp only [step, toNat_ofNat_byte hByte, continueCharacter,
    if_pos hRange, Nat.add_sub_cancel]

/- A character is read back from its bytes. -/
theorem readChars_singleton
    {c : Char}
    (h : c.toNat ≠ 0x1B) :
    ground.readChars [c] = ([actionOf c], .ground) := by
  have hBound : c.toNat < 0x110000 := by
    have hVal : c.val.toNat = c.toNat := rfl
    rcases c.valid with hLow | hHigh <;> omega
  have hBack (n : Nat) (hn : n = c.toNat) : Char.ofNat n = c := by
    rw [hn, Char.ofNat_toNat]
  by_cases h₁ : c.toNat < 0x80
  · -- One byte; the other cases are two, three and four bytes.
    rw [readChars_ascii ground h₁, step_ground_first (by omega)]
    simp [start, h, h₁, Char.ofNat_toNat]
  · have hVal : c.val.toNat = c.toNat := rfl
    simp only [readChars, List.flatMap_cons, List.flatMap_nil,
      List.append_nil, String.utf8EncodeChar, hVal]
    rw [if_neg (by omega)]
    split
    · simp only [read]
      rw [step_ground_first (by omega)]
      simp only [start]
      rw [if_neg (by omega), if_neg (by omega), if_pos (by omega)]
      simp only
      rw [step_character_further (by omega), if_pos (by omega),
        hBack _ (by omega)]
      rfl
    · split
      · simp only [read]
        rw [step_ground_first (by omega)]
        simp only [start]
        rw [if_neg (by omega), if_neg (by omega),
          if_neg (by omega), if_pos (by omega)]
        simp only
        rw [step_character_further (by omega), if_neg (by omega)]
        simp only
        rw [step_character_further (by omega), if_pos (by omega),
          hBack _ (by omega)]
        rfl
      · simp only [read]
        rw [step_ground_first (by omega)]
        simp only [start]
        rw [if_neg (by omega), if_neg (by omega),
          if_neg (by omega), if_neg (by omega), if_pos (by omega)]
        simp only
        rw [step_character_further (by omega), if_neg (by omega)]
        simp only
        rw [step_character_further (by omega), if_neg (by omega)]
        simp only
        rw [step_character_further (by omega), if_pos (by omega),
          hBack _ (by omega)]
        rfl

------------------------------------------------------------
-- Parameters
------------------------------------------------------------

/- The groups of a sequence if it ended here. -/
def closedGroups (p : Partial) : List (List Nat) :=
  p.groups ++ [p.group ++ [p.number]]

/- A digit goes to the number that is being read. -/
theorem readChars_digit
    (p : Partial)
    {d : Nat}
    (h : d < 10) :
    (sequence p).readChars [d.digitChar] =
      ([], .sequence
        { p with number := min maxParameter (p.number * 10 + d) }) := by
  have hCode : d.digitChar.toNat = 48 + d :=
    Nat.toNat_digitChar_of_lt_ten h
  rw [readChars_ascii _ (by omega), hCode]
  simp only [step, toNat_ofNat_byte (show 48 + d < 256 by omega),
    continueSequence]
  rw [if_neg (by omega), if_neg (by omega), if_pos (by omega)]
  simp only [show 48 + d - 0x30 = d by omega]

/- A decimal number is read back. -/
theorem readChars_decimal
    (p : Partial)
    (hNumber : p.number = 0)
    {n : Nat}
    (h : n ≤ maxParameter) :
    (sequence p).readChars (decimal n) =
      ([], .sequence { p with number := n }) := by
  induction n using Nat.strongRecOn with
  | ind n ih =>
      unfold decimal
      by_cases hSmall : n < 10
      · rw [Nat.toDigits_of_lt_base hSmall,
          readChars_digit p hSmall]
        simp [hNumber, h]
      · rw [Nat.toDigits_of_base_le (by omega) (by omega)]
        have hFront := ih (n / 10) (by omega) (by omega)
        unfold decimal at hFront
        rw [readChars_append hFront,
          readChars_digit _ (Nat.mod_lt _ (by omega))]
        have hWhole : n / 10 * 10 + n % 10 = n := by
          omega
        simp [hWhole, h]

/- A semicolon ends a group. -/
theorem readChars_semicolon
    (p : Partial) :
    (sequence p).readChars [';'] =
      ([], .sequence
        { marks := p.marks, groups := closedGroups p }) := by
  rw [readChars_ascii _ (by decide)]
  simp [step, continueSequence, closedGroups]

/- A colon ends a number within a group. -/
theorem readChars_colon
    (p : Partial) :
    (sequence p).readChars [':'] =
      ([], .sequence
        { p with group := p.group ++ [p.number], number := 0 }) := by
  rw [readChars_ascii _ (by decide)]
  simp [step, continueSequence]

/- Spaces and question marks tell kinds of sequences apart. -/
theorem readChars_mark
    (p : Partial)
    {c : Char}
    (h : c = ' ' ∨ c = '?') :
    (sequence p).readChars [c] =
      ([], .sequence { p with marks := p.marks ++ [c] }) := by
  rcases h with rfl | rfl <;>
    rw [readChars_ascii _ (by decide)] <;>
    simp [step, continueSequence]

------------------------------------------------------------
-- Sequences
------------------------------------------------------------

/- What is shown for something begun that an escape ends. -/
def abandoned : Parser → List Action
  | .character _ _ => [.print replacement]
  | _ => []

/- An escape gives up what was begun. -/
theorem readChars_escape
    (p : Parser) :
    p.readChars ['\x1b'] = (p.abandoned, .escape) := by
  rw [readChars_ascii _ (by decide)]
  cases p <;>
    simp [step, start, continueCharacter, continueEscape,
      continueSequence, abandoned]

/- A whole sequence is read back, whatever was begun. -/
theorem readChars_sequence
    (p : Parser)
    {params : List Char}
    {q : Partial}
    {final : Char}
    (hParams : (sequence {}).readChars params = ([], .sequence q))
    (hFinal : 0x40 ≤ final.toNat ∧ final.toNat < 0x7F) :
    p.readChars (Command.sequence params final) =
      (p.abandoned ++
          [.sequence ⟨q.marks, closedGroups q, final⟩],
        .ground) := by
  have hBracket :
      escape.readChars ['['] = ([], .sequence {}) := by
    rw [readChars_ascii _ (by decide)]
    simp [step, continueEscape]
  have hEnd :
      (sequence q).readChars [final] =
        ([.sequence ⟨q.marks, closedGroups q, final⟩],
          .ground) := by
    rw [readChars_ascii _ (by omega)]
    simp only [step,
      toNat_ofNat_byte (show final.toNat < 256 by omega),
      continueSequence]
    rw [if_neg (by omega), if_neg (by omega), if_neg (by omega),
      if_neg (by omega), if_neg (by omega), if_neg (by omega),
      if_pos (by omega)]
    simp only [finish, closedGroups, Char.ofNat_toNat]
  have hAll :
      Command.sequence params final =
        ['\x1b'] ++ (['['] ++ (params ++ [final])) := rfl
  rw [hAll, readChars_append (readChars_escape p),
    readChars_append hBracket, readChars_append hParams, hEnd]
  simp

end Parser

end Redraw
