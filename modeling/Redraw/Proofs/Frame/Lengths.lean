import Redraw.Proofs.Frame.Inertness

/-
  Lengths: how many bytes a sequence takes.

  Sequences are ASCII, so that they have as many bytes as
  characters.  The length that a move or a style change is said
  to have is counted without writing it.

  Key definitions include:
    * `Move.bytes`

  Main declarations:
    * `Command.length_bytes_of_control`
    * `Command.length_absolute`, `Command.length_relative`
    * `Move.length_bytes`
    * `Sgr.length_chars`
    * `Sgr.length_bytes`
-/

namespace Redraw

namespace Command

/- What is written for no text is ASCII. -/
theorem toNat_lt_of_isControl
    {cs : List Char}
    (h : IsControl cs) :
    ∀ c ∈ cs, c.toNat < 0x80 := by
  cases h with
  | nothing => simp
  | carriageReturn => exact List.forall_mem_singleton.mpr (by decide)
  | lineFeed => exact List.forall_mem_singleton.mpr (by decide)
  | sequence parameters ends =>
      rename_i params final
      intro c hc
      simp only [sequence, List.mem_cons, List.mem_append,
        List.not_mem_nil, or_false] at hc
      rcases hc with rfl | rfl | hParam | rfl
      · decide
      · decide
      · exact Nat.lt_trans (parameters c hParam).2 (by decide)
      · exact Nat.lt_trans ends.2 (by decide)

/- Text takes as many bytes as its characters do. -/
theorem length_utf8
    (cs : List Char) :
    (cs.flatMap String.utf8EncodeChar).length =
      (cs.map Char.utf8Size).foldr (· + ·) 0 := by
  induction cs with
  | nil => rfl
  | cons c cs ih =>
      rw [List.flatMap_cons, List.length_append,
        String.length_utf8EncodeChar, ih]
      rfl

theorem length_utf8_of_ascii
    {cs : List Char}
    (h : ∀ c ∈ cs, c.toNat < 0x80) :
    (cs.flatMap String.utf8EncodeChar).length = cs.length := by
  rw [length_utf8]
  induction cs with
  | nil => rfl
  | cons c cs ih =>
      rw [List.forall_mem_cons] at h
      have hSize : c.utf8Size = 1 := by
        rw [Char.utf8Size_eq_one_iff]
        exact Nat.le_of_lt_succ h.1
      rw [List.map_cons, List.foldr_cons, ih h.2, hSize,
        List.length_cons, Nat.add_comm]

/- A command that is no text has a byte for each character. -/
theorem length_bytes_of_control
    {c : Command}
    (h : c.text? = none) :
    c.bytes.length = c.chars.length :=
  length_utf8_of_ascii
    (toNat_lt_of_isControl (isControl_chars h))

theorem length_sequence
    (params : List Char)
    (final : Char) :
    (sequence params final).length = params.length + 3 := by
  simp [sequence]

/- A move by some cells is as long as it is said to be. -/
theorem length_relative
    (n : Nat)
    (final : Char) :
    (relative n final).length = relativeLength n := by
  rw [relative, length_sequence, relativeLength]
  split
  · rfl
  · rw [length_decimal, Nat.add_comm]

/- So is a move to a column. -/
theorem length_cursorColumn
    (col : Nat) :
    (cursorColumn col).chars.length = cursorColumnLength col := by
  rw [chars, length_sequence, cursorColumnLength]
  split
  · rfl
  · rw [length_decimal, Nat.add_comm]

/- And so is a move to a position. -/
theorem length_absolute
    (row col : Nat) :
    (absolute row col).length = cursorToLength row col := by
  rw [absolute, cursorToLength]
  split
  · rw [length_sequence]
    split
    · rfl
    · rw [length_decimal, Nat.add_comm]
  · rw [length_sequence, List.length_append, List.length_cons,
      length_decimal, length_decimal]
    omega

end Command

------------------------------------------------------------
-- Moves
------------------------------------------------------------

/- The bytes of a move. -/
def Move.bytes (m : Move) : List UInt8 :=
  m.commands.flatMap Command.bytes

theorem Vertical.length_bytes
    (v : Vertical) :
    (v.commands.flatMap Command.bytes).length = v.cost := by
  cases v with
  | stay => rfl
  | up n
  | down n =>
      rw [commands, List.flatMap_singleton,
        Command.length_bytes_of_control rfl]
      exact Command.length_relative n _

theorem Horizontal.length_bytes
    (h : Horizontal) :
    (h.commands.flatMap Command.bytes).length = h.cost := by
  cases h with
  | stay => rfl
  | «return» => rfl
  | column col =>
      rw [commands, List.flatMap_singleton,
        Command.length_bytes_of_control rfl]
      exact Command.length_cursorColumn col
  | forward n
  | back n =>
      rw [commands, List.flatMap_singleton,
        Command.length_bytes_of_control rfl]
      exact Command.length_relative n _

/- A move takes as many bytes as it is said to cost. -/
theorem Move.length_bytes
    (m : Move) :
    m.bytes.length = m.cost := by
  cases m with
  | absolute p =>
      rw [bytes, commands, List.flatMap_singleton,
        Command.length_bytes_of_control rfl]
      exact Command.length_absolute p.row p.col
  | nextLine => rfl
  | relative v h =>
      rw [bytes, commands, List.flatMap_append, List.length_append,
        v.length_bytes, h.length_bytes]
      rfl

------------------------------------------------------------
-- Style Changes
------------------------------------------------------------

namespace Sgr

theorem length_body
    (sgr : Sgr) :
    sgr.body.length = bodyLength sgr.params := by
  unfold body
  induction sgr.params with
  | nil => rfl
  | cons first later ih =>
      cases later with
      | nil => simp [bodyLength, SgrParam.length_chars]
      | cons second later =>
          rw [List.map_cons, List.map_cons,
            List.intercalate_cons_cons, ← List.map_cons]
          simp only [List.length_append, List.length_singleton,
            bodyLength, SgrParam.length_chars]
          rw [ih]

/- The length of a style change is that of what is written. -/
theorem length_chars
    (sgr : Sgr) :
    sgr.chars.length = sgr.length := by
  unfold chars length
  split
  · rfl
  · simp [length_body]

/- A style change takes as many bytes as it is said to take. -/
theorem length_bytes
    (sgr : Sgr) :
    (Command.setStyle sgr).bytes.length = sgr.length := by
  rw [Command.length_bytes_of_control rfl]
  exact sgr.length_chars

end Sgr

end Redraw
