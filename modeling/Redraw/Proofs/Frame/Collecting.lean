import Redraw.Escape.Collected
import Redraw.Proofs.Frame.Lengths

/-
  Collecting: what is told of a sequence before it is written.

  No parameter is empty and none holds a semicolon, so that text
  with a semicolon before every parameter but the first can be
  split into the parameters that were pushed.  Each push keeps
  the text that has been collected equal to the parameters
  joined by semicolons.

  Key definitions include:
    * `SgrText.Says`: text that is the joined parameters
    * `SgrText.Tells`: what is told of some pushes

  Main declarations:
    * `Sgr.body_append`
    * `SgrText.exists_says_collect`
    * `lengths_as_told`
-/

namespace Redraw

------------------------------------------------------------
-- Parameters
------------------------------------------------------------

theorem semicolon_not_mem_decimal
    (n : Nat) :
    ';' ∉ decimal n := by
  intro h
  exact absurd (toNat_of_mem_decimal h) (by decide)

namespace SgrParam

theorem chars_ne_nil
    (p : SgrParam) :
    p.chars ≠ [] := by
  cases p with
  | code n => exact Nat.toDigits_ne_nil
  | sub n m => simp [chars]

theorem semicolon_not_mem_chars
    (p : SgrParam) :
    ';' ∉ p.chars := by
  cases p with
  | code n => exact semicolon_not_mem_decimal n
  | sub n m => simp [chars, semicolon_not_mem_decimal]

end SgrParam

namespace Sgr

theorem body_eq_nil_iff
    (s : Sgr) :
    s.body = [] ↔ s.params = [] := by
  rcases s with ⟨params⟩
  cases params with
  | nil => simp [body]
  | cons first later =>
      cases later with
      | nil => simp [body, first.chars_ne_nil]
      | cons second later =>
          simp [body, List.intercalate_cons_cons]

/- Parameters after others are joined to them by a semicolon. -/
theorem body_append
    {s : Sgr}
    {ps : List SgrParam}
    (hSome : s.params ≠ [])
    (hNew : ps ≠ []) :
    (s.append ps).body = s.body ++ ';' :: body ⟨ps⟩ := by
  rcases s with ⟨params⟩
  induction params with
  | nil => exact absurd rfl hSome
  | cons first later ih =>
      cases later with
      | nil =>
          cases ps with
          | nil => exact absurd rfl hNew
          | cons p ps =>
              simp [body, append, List.intercalate_cons_cons]
      | cons second later =>
          have hRest := ih (List.cons_ne_nil _ _)
          simp only [body, append, List.map_cons, List.cons_append,
            List.intercalate_cons_cons] at hRest ⊢
          rw [hRest]
          simp only [List.append_assoc]

/- A push goes on where the pushes before it have ended. -/
theorem params_add
    (s : Sgr)
    (p : Push) :
    (s.add p).params = s.params ++ p.params := by
  cases p with
  | code n => rfl
  | attrs attrs => rfl
  | underline u styled => cases u <;> cases styled <;> rfl
  | foreground c => rfl
  | background c => rfl
  | underlineColor c => cases c <;> rfl

theorem params_collect
    (pushes : List Push) :
    (collect pushes).params = pushes.flatMap Push.params := by
  have hFrom (s : Sgr) :
      (pushes.foldl add s).params =
        s.params ++ pushes.flatMap Push.params := by
    induction pushes generalizing s with
    | nil => simp
    | cons p pushes ih =>
        rw [List.foldl_cons, ih, params_add, List.flatMap_cons,
          List.append_assoc]
  exact hFrom .empty

end Sgr

------------------------------------------------------------
-- Text
------------------------------------------------------------

namespace Octet

/- A sum that fits is the sum of the numbers. -/
theorem exists_add?
    {a b : UInt8}
    (h : a.toNat + b.toNat < 256) :
    ∃ c, add? a b = some c ∧ c.toNat = a.toNat + b.toNat := by
  refine ⟨a + b, if_pos h, ?_⟩
  rw [UInt8.toNat_add, Nat.mod_eq_of_lt h]

theorem exists_sub?
    {a b : UInt8}
    (h : b.toNat ≤ a.toNat) :
    ∃ c, sub? a b = some c ∧ c.toNat = a.toNat - b.toNat := by
  refine ⟨a - b, if_pos h, ?_⟩
  exact UInt8.toNat_sub_of_le _ _ (UInt8.le_iff_toNat_le.mpr h)

end Octet

namespace SgrText

/- Text that is the parameters of a style change, joined. -/
def Says
    (t : SgrText)
    (s : Sgr) : Prop :=
  t.params = s.body

variable {t : SgrText}
variable {s : Sgr}

theorem Says.isEmpty_eq
    (h : t.Says s) :
    t.isEmpty = s.isEmpty := by
  rw [Bool.eq_iff_iff, isEmpty, Sgr.isEmpty, List.isEmpty_iff,
    List.isEmpty_iff, show t.params = s.body from h,
    s.body_eq_nil_iff]

/-
  Text is written after a semicolon just when there are
  parameters before it.
-/
theorem Says.write
    (h : t.Says s)
    {ps : List SgrParam}
    (hNew : ps ≠ []) :
    (t.write (Sgr.body ⟨ps⟩)).Says (s.append ps) := by
  unfold Says SgrText.write separated
  rw [h.isEmpty_eq]
  cases hSome : s.isEmpty with
  | true =>
      have hNone : s.params = [] := List.isEmpty_iff.mp hSome
      have hNoText : t.params = [] :=
        h.trans (s.body_eq_nil_iff.mpr hNone)
      simp [Sgr.append, hNone, hNoText]
  | false =>
      have hParams : s.params ≠ [] := by
        simpa [Sgr.isEmpty] using hSome
      rw [Sgr.body_append hParams hNew, ← show t.params = s.body from h]
      simp

theorem Says.writeParam
    (h : t.Says s)
    (p : SgrParam) :
    (t.write p.chars).Says (s.append [p]) := by
  have hText : Sgr.body ⟨[p]⟩ = p.chars :=
    List.intercalate_singleton
  rw [← hText]
  exact h.write (List.cons_ne_nil _ _)

theorem Says.push
    (h : t.Says s)
    (n : UInt8) :
    (t.push n).Says (s.push n.toNat) :=
  h.writeParam (.code n.toNat)

/- By the table of codes, which lists all attributes in order. -/
theorem Says.pushAttrs
    (h : t.Says s)
    (attrs : Attrs) :
    (t.pushAttrs attrs).Says (s.pushAttrs attrs) := by
  have hCodes :
      attrCodes =
        Attr.all.map fun a => (a, UInt8.ofNat (Sgr.attrCode a)) := rfl
  have hSmall (a : Attr) :
      (UInt8.ofNat (Sgr.attrCode a)).toNat = Sgr.attrCode a := by
    cases a <;> rfl
  have hEach (as : List Attr) :
      ((as.map fun a => (a, UInt8.ofNat (Sgr.attrCode a))).foldl
        (fun t p =>
          if attrs.has p.1 then SgrText.push t p.2 else t) t).Says
        (s.append
          ((as.filter attrs.has).map fun a =>
            .code (Sgr.attrCode a))) := by
    induction as generalizing t s with
    | nil =>
        simpa [Sgr.append] using h
    | cons a as ih =>
        simp only [List.map_cons, List.foldl_cons]
        cases hOn : attrs.has a with
        | false =>
            rw [List.filter_cons_of_neg (by simp [hOn])]
            exact ih h
        | true =>
            have hOne := h.push (.ofNat (Sgr.attrCode a))
            rw [hSmall] at hOne
            rw [List.filter_cons_of_pos hOn]
            simpa [Sgr.append, Sgr.push] using ih hOne
  rw [SgrText.pushAttrs, hCodes]
  exact hEach Attr.all

theorem Says.pushUnderline
    (h : t.Says s)
    (u : Underline)
    (styled : Bool) :
    (t.pushUnderline u styled).Says (s.pushUnderline u styled) := by
  cases u with
  | none => exact h.push 24
  | straight => exact h.push 4
  | double | curly | dotted | dashed =>
      cases styled with
      | true => exact h.writeParam (.sub 4 _)
      | false => exact h.push 4

------------------------------------------------------------
-- Colors
------------------------------------------------------------

theorem indexedText_eq
    (extended i : UInt8) :
    indexedText extended i =
      Sgr.body
        ⟨[.code extended.toNat, .code 5, .code i.toNat]⟩ := by
  have hFive : decimal 5 = ['5'] := by decide
  simp [indexedText, Sgr.body, List.intercalate_cons_cons,
    SgrParam.chars, hFive]

theorem directText_eq
    (extended : UInt8)
    (rgb : Rgb) :
    directText extended rgb =
      Sgr.body
        ⟨[.code extended.toNat, .code 2, .code rgb.red.toNat,
          .code rgb.green.toNat, .code rgb.blue.toNat]⟩ := by
  have hTwo : decimal 2 = ['2'] := by decide
  simp [directText, Sgr.body, List.intercalate_cons_cons,
    SgrParam.chars, hTwo]

/-
  The codes of a color fit, as long as those of the system
  colors do.
-/
theorem colorText?_eq
    {base bright extended : UInt8}
    (hBase : base.toNat + 8 ≤ 256)
    (hBright : bright.toNat + 16 ≤ 256)
    (hExtended : extended.toNat + 1 < 256)
    (c : Color) :
    colorText? c base bright extended =
      some
        (Sgr.body
          ⟨Sgr.colorParams c base.toNat bright.toNat
            extended.toNat⟩) := by
  have hOne (n : Nat) :
      Sgr.body ⟨[.code n]⟩ = decimal n :=
    List.intercalate_singleton
  cases c with
  | default =>
      rcases Octet.exists_add? (a := extended) (b := 1) hExtended with
        ⟨code, hCode, hValue⟩
      simp only [colorText?, hCode, Option.bind_eq_bind,
        Option.bind_some, hValue, Sgr.colorParams, hOne]
      rfl
  | indexed i =>
      have hLow : i < 8 ↔ i.toNat < 8 := UInt8.lt_iff_toNat_lt
      have hHigh : i < 16 ↔ i.toNat < 16 := UInt8.lt_iff_toNat_lt
      simp only [colorText?, Sgr.colorParams, hLow, hHigh]
      by_cases hSystem : i.toNat < 8
      · rcases Octet.exists_add? (a := base) (b := i) (by omega) with
          ⟨code, hCode, hValue⟩
        simp only [if_pos hSystem, hCode, Option.bind_eq_bind,
          Option.bind_some, hValue, hOne]
        rfl
      by_cases hBrightSystem : i.toNat < 16
      · rcases Octet.exists_add? (a := bright) (b := i) (by omega) with
          ⟨sum, hSum, hTotal⟩
        have hEnough : (8 : UInt8).toNat ≤ sum.toNat := by
          rw [hTotal]
          exact Nat.le_add_left_of_le (Nat.le_of_not_lt hSystem)
        rcases Octet.exists_sub? hEnough with ⟨code, hCode, hValue⟩
        simp only [if_neg hSystem, if_pos hBrightSystem, hSum, hCode,
          Option.bind_eq_bind, Option.bind_some, hValue, hTotal, hOne]
        rfl
      · simp only [if_neg hSystem, if_neg hBrightSystem,
          indexedText_eq]
  | direct rgb => exact congrArg some (directText_eq extended rgb)

theorem Sgr.colorParams_ne_nil
    (c : Color)
    (base bright extended : Nat) :
    Sgr.colorParams c base bright extended ≠ [] := by
  cases c with
  | default => exact List.cons_ne_nil _ _
  | indexed i =>
      simp only [Sgr.colorParams]
      split
      · exact List.cons_ne_nil _ _
      · split <;> exact List.cons_ne_nil _ _
  | direct rgb => exact List.cons_ne_nil _ _

theorem Says.underlineColor
    (h : t.Says s)
    (c : Color) :
    (t.write (underlineColorText c)).Says
      (s.pushUnderlineColor c) := by
  cases c with
  | default =>
      have hText : (SgrParam.code 59).chars = ['5', '9'] := by decide
      rw [underlineColorText, ← hText]
      exact h.writeParam (.code 59)
  | indexed i =>
      rw [underlineColorText, indexedText_eq]
      exact h.write (List.cons_ne_nil _ _)
  | direct rgb =>
      rw [underlineColorText, directText_eq]
      exact h.write (List.cons_ne_nil _ _)

------------------------------------------------------------
-- Pushes
------------------------------------------------------------

/- Every push adds to the text what it adds to the parameters. -/
theorem Says.exists_add
    (h : t.Says s)
    (p : Sgr.Push) :
    ∃ t', t.add? p = some t' ∧ t'.Says (s.add p) := by
  have hColor (base bright extended : UInt8) (c : Color) :=
    h.write
      (Sgr.colorParams_ne_nil c base.toNat bright.toNat
        extended.toNat)
  cases p with
  | code n => exact ⟨_, rfl, h.push n⟩
  | attrs attrs => exact ⟨_, rfl, h.pushAttrs attrs⟩
  | underline u styled => exact ⟨_, rfl, h.pushUnderline u styled⟩
  | foreground c =>
      have hText :=
        @colorText?_eq 30 90 38 (by decide) (by decide) (by decide) c
      exact ⟨_, congrArg (Option.map t.write) hText,
        hColor 30 90 38 c⟩
  | background c =>
      have hText :=
        @colorText?_eq 40 100 48 (by decide) (by decide) (by decide) c
      exact ⟨_, congrArg (Option.map t.write) hText,
        hColor 40 100 48 c⟩
  | underlineColor c => exact ⟨_, rfl, h.underlineColor c⟩

theorem exists_says_collect
    (pushes : List Sgr.Push) :
    ∃ t, collect? pushes = some t ∧ t.Says (Sgr.collect pushes) := by
  have hFrom {t : SgrText} {s : Sgr} (h : t.Says s) :
      ∃ t', pushes.foldlM add? t = some t' ∧
        t'.Says (pushes.foldl Sgr.add s) := by
    induction pushes generalizing t s with
    | nil => exact ⟨t, rfl, h⟩
    | cons p pushes ih =>
        rcases h.exists_add p with ⟨t', hAdd, hSays⟩
        rcases ih hSays with ⟨t'', hRest, hEnd⟩
        refine ⟨t'', ?_, hEnd⟩
        rw [List.foldlM_cons, hAdd]
        exact hRest
  exact hFrom (t := {}) (s := .empty) rfl

------------------------------------------------------------
-- Lengths
------------------------------------------------------------

/- The length that is told counts the bytes of the text. -/
theorem length_bytes
    (t : SgrText) :
    t.bytes.length = t.length := by
  unfold bytes chars length
  cases t.isEmpty with
  | true => rfl
  | false =>
      have hStart : '\x1b'.utf8Size = 1 := by decide
      have hOpen : '['.utf8Size = 1 := by decide
      have hEnd : 'm'.utf8Size = 1 := by decide
      simp only [Bool.false_eq_true, if_false, List.flatMap_cons,
        List.flatMap_append, List.flatMap_nil, List.append_nil,
        List.length_append, String.length_utf8EncodeChar,
        Command.length_utf8, hStart, hOpen, hEnd]
      omega

/-
  What is told of some pushes.  The text is written as the style
  change that they make, and has the length that it is said to
  have.  Nothing is written for no parameters; otherwise what
  stands between the start and the end of the sequence splits at
  its semicolons into the parameters, none of them empty.
-/
structure Tells
    (pushes : List Sgr.Push)
    (t : SgrText) : Prop where
  bytes : t.bytes = (Command.setStyle (Sgr.collect pushes)).bytes
  length : t.length = t.bytes.length
  agrees : (Sgr.collect pushes).length = t.length
  nothing : t.length = 0 ↔ pushes.flatMap Sgr.Push.params = []
  joined :
    pushes.flatMap Sgr.Push.params ≠ [] →
      t.chars = Command.sequence t.params 'm' ∧
        t.params.splitOn ';' =
          (pushes.flatMap Sgr.Push.params).map SgrParam.chars
  some :
    ∀ p ∈ pushes.flatMap Sgr.Push.params, p.chars ≠ []

theorem Says.tells
    {pushes : List Sgr.Push}
    (h : t.Says (Sgr.collect pushes)) :
    Tells pushes t := by
  have hEmpty : t.isEmpty = (Sgr.collect pushes).isEmpty :=
    h.isEmpty_eq
  have hParams := Sgr.params_collect pushes
  have hBytes :
      t.bytes = (Command.setStyle (Sgr.collect pushes)).bytes := by
    unfold bytes Command.bytes chars
    rw [hEmpty, show t.params = (Sgr.collect pushes).body from h]
    rfl
  constructor
  case bytes => exact hBytes
  case length => exact t.length_bytes.symm
  case agrees =>
    rw [← t.length_bytes, hBytes, Sgr.length_bytes]
  case nothing =>
    rw [← hParams, ← List.isEmpty_iff, ← Sgr.isEmpty, ← hEmpty]
    unfold length
    split <;> simp_all
  case joined =>
    intro hSome
    have hNotEmpty : t.isEmpty = false := by
      rw [hEmpty, Sgr.isEmpty, hParams]
      simpa using hSome
    refine ⟨by simp [chars, hNotEmpty, Command.sequence], ?_⟩
    rw [show t.params = (Sgr.collect pushes).body from h, Sgr.body,
      hParams]
    apply List.splitOn_intercalate
    · intro text hText
      rcases List.mem_map.mp hText with ⟨p, -, rfl⟩
      exact p.semicolon_not_mem_chars
    · simpa using hSome
  case some => exact fun p _ => p.chars_ne_nil

end SgrText

/-
  The length of a sequence is told without writing it: that of a
  move from its numbers, and that of a style change from what
  has been pushed.
-/
theorem lengths_as_told
    (row col n : Nat)
    (pushes : List Sgr.Push) :
    (Command.cursorTo row col).bytes.length =
        cursorToLength row col ∧
      (Command.cursorColumn col).bytes.length =
          cursorColumnLength col ∧
        (∀ c ∈ [Command.cursorForward n, .cursorBack n, .cursorUp n,
              .cursorDown n],
            c.bytes.length = relativeLength n) ∧
          ∃ t, SgrText.collect? pushes = some t ∧
            SgrText.Tells pushes t := by
  refine ⟨?_, ?_, ?_, ?_⟩
  · rw [Command.length_bytes_of_control rfl]
    exact Command.length_absolute row col
  · rw [Command.length_bytes_of_control rfl]
    exact Command.length_cursorColumn col
  · simp only [List.forall_mem_cons, List.not_mem_nil,
      false_imp_iff, implies_true, and_true]
    refine ⟨?_, ?_, ?_, ?_⟩ <;>
      · rw [Command.length_bytes_of_control rfl]
        exact Command.length_relative n _
  · rcases SgrText.exists_says_collect pushes with
      ⟨t, hCollect, hSays⟩
    exact ⟨t, hCollect, hSays.tells⟩

end Redraw
