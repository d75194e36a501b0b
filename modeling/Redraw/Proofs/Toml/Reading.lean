import Redraw.Toml.Reader

/-
  Reading: what a line of a document is read as.

  Each reader takes its part off the front of what is left and
  stops at the first character that cannot belong to it, so that
  a part followed by such a character is read as that part.  The
  lines of a document are read one after another.

  Key definitions include:
    * `isRun`: keys and words, up to what follows them
    * `Reads`: the statements that a text is read as

  Main declarations:
    * `readPath_append`, `readValue_text`, `readValue_word`
    * `readStatement_assign`, `readStatement_openTable`
    * `Reads.newline`, `Reads.line`: the lines of a document
-/

namespace Redraw

namespace Toml

------------------------------------------------------------
-- Runs of One Kind
------------------------------------------------------------

/- Whether a text has a character and all are of one kind. -/
def isRun
    (kind : Char → Bool)
    (cs : List Char) : Bool :=
  !cs.isEmpty && cs.all kind

section

variable {kind : Char → Bool} {c d : Char}
variable {cs ds rest : List Char}

theorem ne_of_kind
    (hIn : kind c = true)
    (hOut : kind d = false) :
    c ≠ d := by
  rintro rfl
  simp [hIn] at hOut

theorem isRun_iff :
    isRun kind cs = true ↔ cs ≠ [] ∧ ∀ c ∈ cs, kind c = true := by
  simp [isRun]

theorem exists_cons_of_isRun
    (hRun : isRun kind cs = true) :
    ∃ c ds, cs = c :: ds ∧ kind c = true := by
  rcases isRun_iff.mp hRun with ⟨hNe, hAll⟩
  rcases List.exists_cons_of_ne_nil hNe with ⟨c, ds, rfl⟩
  exact ⟨c, ds, rfl, hAll c List.mem_cons_self⟩

/- A text that starts with a run starts with no other kind. -/
theorem append_ne_cons
    (hRun : isRun kind cs = true)
    (hOut : kind d = false) :
    cs ++ rest ≠ d :: ds := by
  rcases exists_cons_of_isRun hRun with ⟨c, cs, rfl, hHead⟩
  exact fun h => ne_of_kind hHead hOut (List.cons.inj h).1

/- What is kept, if what follows starts with what is not. -/
theorem takeWhile_append_stop
    (hRun : isRun kind cs = true)
    (hStop : rest.takeWhile kind = []) :
    (cs ++ rest).takeWhile kind = cs := by
  rw [List.takeWhile_append_of_pos (isRun_iff.mp hRun).2,
    hStop, List.append_nil]

theorem skipBlanks_cons
    (hSpace : c ≠ ' ')
    (hTab : c ≠ '\t') :
    skipBlanks (c :: cs) = c :: cs := by
  simp [skipBlanks, isBlank, hSpace, hTab]

/- There are no blanks before a run of what are none. -/
theorem skipBlanks_append
    (hRun : isRun kind cs = true)
    (hSpace : kind ' ' = false)
    (hTab : kind '\t' = false) :
    skipBlanks (cs ++ rest) = cs ++ rest := by
  rcases exists_cons_of_isRun hRun with ⟨c, cs, rfl, hHead⟩
  exact skipBlanks_cons (ne_of_kind hHead hSpace)
    (ne_of_kind hHead hTab)

end

------------------------------------------------------------
-- Keys
------------------------------------------------------------

section

variable {k : Key} {c : Char} {cs rest : List Char}

/- A key is read up to what cannot be part of it. -/
theorem readKey_append
    (hBare : isRun isBareKeyChar k = true)
    (hStop : rest.takeWhile isBareKeyChar = []) :
    readKey (k ++ rest) = some (k, rest) := by
  have hKept := takeWhile_append_stop hBare hStop
  have hSome := (isRun_iff.mp hBare).1
  unfold readKey
  split
  · rename_i hEq
    exact absurd hEq (append_ne_cons hBare (by decide))
  · rename_i hEq
    exact absurd hEq (append_ne_cons hBare (by decide))
  · simp only [hKept, List.isEmpty_iff, hSome, List.drop_left,
      if_false]

/- A path of one key is read up to the next mark but a dot. -/
theorem readPath_append
    {n : Nat}
    (hBare : isRun isBareKeyChar k = true)
    (hStop : rest.takeWhile isBareKeyChar = [])
    (hNext : skipBlanks rest = c :: cs)
    (hDot : c ≠ '.') :
    readPath (n + 1) (k ++ rest) = some (([], k), c :: cs) := by
  rw [readPath, skipBlanks_append hBare (by decide) (by decide),
    readKey_append hBare hStop, Option.bind_some]
  simp only [hNext]
  split
  · rename_i hEq
    exact absurd (List.cons.inj hEq).1 hDot
  · rfl

end

------------------------------------------------------------
-- Values
------------------------------------------------------------

section

variable {v : Value} {n : Nat} {c : Char} {cs rest : List Char}

theorem isTextual_of_isBareKeyChar
    (hBare : isBareKeyChar c = true) :
    isTextual c = true := by
  have hDelete : c ≠ '\x7F' := ne_of_kind hBare (by decide)
  have hLow : ' ' ≤ c := by
    refine Nat.not_lt.mp fun hSmall => ?_
    have hNone : ∀ n : Fin 32,
        isBareKeyChar (Char.ofNat n.val) = false := by
      decide
    have hChar := hNone ⟨c.toNat, hSmall⟩
    rw [Char.ofNat_toNat, hBare] at hChar
    exact absurd hChar (by decide)
  simp [isTextual, hLow, hDelete]

/- Characters of a key stand for themselves between quotes. -/
theorem readEscaped_append
    (hBare : ∀ c ∈ cs, isBareKeyChar c = true)
    (hLength : cs.length < n) :
    readEscaped n (cs ++ '"' :: rest) = some (cs, rest) := by
  induction cs generalizing n with
  | nil =>
      cases n with
      | zero => simp at hLength
      | succ n => rfl
  | cons c cs ih =>
      rcases List.forall_mem_cons.mp hBare with ⟨hHead, hTail⟩
      cases n with
      | zero => simp at hLength
      | succ n =>
          have hRest := ih hTail (by simpa using hLength)
          have hTextual := isTextual_of_isBareKeyChar hHead
          rw [List.cons_append, readEscaped, hRest]
          · simp [hTextual]
          · exact fun h => absurd h (ne_of_kind hHead (by decide))
          · exact fun h => absurd h (ne_of_kind hHead (by decide))

/- A value that is not in brackets or braces holds no others. -/
theorem readValue_of_flat
    (hBracket : ∀ ds, cs ≠ '[' :: ds)
    (hBrace : ∀ ds, cs ≠ '\x7b' :: ds) :
    readValue n cs = readValue.readFlat cs := by
  cases n with
  | zero => rfl
  | succ n => rw [readValue] <;> assumption

/- A name in quotes is read as the name. -/
theorem readValue_text
    {k : Key}
    (hBare : isRun isBareKeyChar k = true) :
    readValue n ('"' :: k ++ '"' :: rest) =
      some (.text k, rest) := by
  have hRead :
      readEscaped ((k ++ '"' :: rest).length + 1)
        (k ++ '"' :: rest) = some (k, rest) :=
    readEscaped_append (isRun_iff.mp hBare).2 (by
      simp only [List.length_append, List.length_cons]
      omega)
  have hText : readText ('"' :: (k ++ '"' :: rest)) =
      some (k, rest) := by
    rw [readText]
    · exact hRead
    · exact fun _ h => absurd h (append_ne_cons hBare (by decide))
  rw [List.cons_append, readValue_of_flat (by simp) (by simp),
    readValue.readFlat, hText]
  rfl

/- A word is read up to the end of its line. -/
theorem readValue_word
    (hWord : isRun isTokenChar cs = true)
    (hRead : ofToken? cs = some v) :
    readValue n (cs ++ '\n' :: rest) = some (v, '\n' :: rest) := by
  have hKept : (cs ++ '\n' :: rest).takeWhile isTokenChar = cs :=
    takeWhile_append_stop hWord rfl
  -- After a blank a date could go on with a time, here it cannot.
  have hScalar :
      readScalar (cs ++ '\n' :: rest) = some (v, '\n' :: rest) := by
    simp [readScalar, hKept, hRead]
  rw [readValue_of_flat, readValue.readFlat, hScalar]
  · exact fun _ => append_ne_cons hWord (by decide)
  · exact fun _ => append_ne_cons hWord (by decide)
  · exact fun _ => append_ne_cons hWord (by decide)
  · exact fun _ => append_ne_cons hWord (by decide)

end

------------------------------------------------------------
-- Statements
------------------------------------------------------------

section

variable {k : Key} {v : Value} {cs rest : List Char}

/- A key, an equals sign and a value give the key the value. -/
theorem readStatement_assign
    (hBare : isRun isBareKeyChar k = true)
    (hBlanks : skipBlanks cs = cs)
    (hRead : readValue depthLimit cs = some (v, rest)) :
    readStatement (k ++ " = ".toList ++ cs) =
      some (.assign [] k v, rest) := by
  have hPath :
      readPath pathLimit (k ++ ' ' :: '=' :: ' ' :: cs) =
        some (([], k), '=' :: ' ' :: cs) :=
    readPath_append hBare rfl rfl (by decide)
  have hSkip : skipBlanks (' ' :: cs) = cs := hBlanks
  have hShape :
      k ++ " = ".toList ++ cs = k ++ ' ' :: '=' :: ' ' :: cs := by
    simp
  rw [hShape]
  unfold readStatement
  split
  · rename_i hEq
    exact absurd hEq (append_ne_cons hBare (by decide))
  · rename_i hEq
    exact absurd hEq (append_ne_cons hBare (by decide))
  · simp [hPath, hSkip, hRead]

/- A key in brackets opens a table. -/
theorem readStatement_openTable
    (hBare : isRun isBareKeyChar k = true) :
    readStatement ('[' :: k ++ ']' :: rest) =
      some (.openTable [] k, rest) := by
  have hPath :
      readPath pathLimit (k ++ ']' :: rest) =
        some (([], k), ']' :: rest) :=
    readPath_append hBare rfl rfl (by decide)
  have hHeader :
      readHeader [']'] (k ++ ']' :: rest) = some (([], k), rest) := by
    simp [readHeader, hPath]
  rw [List.cons_append, readStatement]
  · simp [hHeader]
  · exact fun cs h => absurd h (append_ne_cons hBare (by decide))

end

------------------------------------------------------------
-- Lines
------------------------------------------------------------

section

variable {text rest : List Char}
variable {st : Statement} {sts : List Statement}

/- Whether a character starts a key or a header. -/
def startsLine (c : Char) : Bool :=
  c = '[' || isBareKeyChar c

/-
  What a text without a byte order mark is read as, by every
  reader that is given more lines than it has characters.
-/
structure Reads
    (text : List Char)
    (sts : List Statement) : Prop where
  head : text.head? ≠ some '\ufeff'
  lines : ∀ n, text.length < n →
    readStatements n text = some sts

namespace Reads

theorem nil :
    Reads [] [] := by
  refine ⟨by simp, fun n hLines => ?_⟩
  cases n with
  | zero => simp at hLines
  | succ n => rfl

/- A line with nothing on it says nothing. -/
theorem newline
    (hRest : Reads rest sts) :
    Reads ('\n' :: rest) sts := by
  refine ⟨by simp, fun n hLines => ?_⟩
  cases n with
  | zero => simp at hLines
  | succ n => exact hRest.lines n (by simpa using hLines)

/- A line with a statement on it is read as the statement. -/
theorem line
    (hRest : Reads rest sts)
    (hStart : text.head?.any startsLine = true)
    (hShorter : rest.length < text.length)
    (hRead : readStatement text = some (st, '\n' :: rest)) :
    Reads text (st :: sts) := by
  cases text with
  | nil => cases hStart
  | cons c cs =>
      have hNot : ∀ {d : Char}, startsLine d = false → c ≠ d :=
        ne_of_kind hStart
      refine ⟨by simpa using hNot (by decide), fun n hLines => ?_⟩
      cases n with
      | zero => simp at hLines
      | succ n =>
          have hSkip : skipBlanks (c :: cs) = c :: cs :=
            skipBlanks_cons (hNot (by decide)) (hNot (by decide))
          have hFull : afterLine? (c :: cs) = none := by
            simp [afterLine?, hSkip, skipComment, afterNewline?,
              hNot (d := '#') (by decide),
              hNot (d := '\n') (by decide),
              hNot (d := '\r') (by decide)]
          have hEnd : afterLine? ('\n' :: rest) = some rest := rfl
          have hOthers := hRest.lines n
            (Nat.lt_of_lt_of_le hShorter (Nat.le_of_lt_succ hLines))
          rw [readStatements, hSkip]
          simp [hFull, hRead, hEnd, hOthers]

/- A document is what its statements describe. -/
theorem read_eq
    (h : Reads text sts) :
    read text = ofStatements? sts := by
  have hMark : skipMark text = text := by
    unfold skipMark
    split
    · exact absurd rfl h.head
    · rfl
  rw [read, hMark, h.lines _ (Nat.lt_succ_self _)]
  rfl

end Reads

end

end Toml

end Redraw
