import Mathlib.Data.List.TakeWhile
import Redraw.Escape.Decimal
import Redraw.Toml.Reader

/-
  Words: what the decimal digits of a number spell.

  A word of digits only is no date, no time and no float, since
  each of those needs a character between its digits.  What is
  left is an integer, and the digits of a number have no leading
  zero unless they are a single one.

  Main declarations:
    * `isMoment_eq_false`, `isFloat_eq_false`
    * `ofDigits_decimal`
    * `ofToken?_decimal`: a number is read back from its digits
-/

namespace Redraw

------------------------------------------------------------
-- Digits of a Number
------------------------------------------------------------

theorem isDigit_decimal
    (n : Nat) :
    (decimal n).all Char.isDigit = true :=
  List.all_eq_true.mpr fun _ h =>
    Nat.isDigit_of_mem_toDigits (by omega) (by omega) h

theorem decimal_ne_nil
    (n : Nat) :
    decimal n ≠ [] :=
  Nat.toDigits_ne_nil

/- Only zero starts with the digit zero. -/
theorem head?_decimal
    {n : Nat}
    (hPos : 0 < n) :
    (decimal n).head? ≠ some '0' := by
  induction n using Nat.strongRecOn with
  | ind n ih =>
      by_cases hSmall : n < 10
      · have hDigit : ∀ d : Fin 10, 0 < d.val →
            Nat.digitChar d.val ≠ '0' := by
          decide
        simpa [decimal, Nat.toDigits_of_lt_base hSmall]
          using hDigit ⟨n, hSmall⟩ hPos
      · have hFront := ih (n / 10) (by omega) (by omega)
        unfold decimal at hFront ⊢
        rw [Nat.toDigits_of_base_le (by omega) (by omega),
          List.head?_append,
          Option.or_of_isSome
            (List.isSome_head?.mpr Nat.toDigits_ne_nil)]
        exact hFront

namespace Toml

------------------------------------------------------------
-- Dates and Times
------------------------------------------------------------

section

variable {c : Char} {cs rest : List Char}

/- What follows some of the digits of a word are digits. -/
theorem all_isDigit_of_fixedNumber?
    {k n m : Nat}
    (hDigits : cs.all Char.isDigit = true)
    (h : fixedNumber? k n cs = some (m, rest)) :
    rest.all Char.isDigit = true := by
  induction k generalizing n cs with
  | zero =>
      simp only [fixedNumber?, Option.some.injEq, Prod.mk.injEq]
        at h
      exact h.2 ▸ hDigits
  | succ k ih =>
      cases cs with
      | nil => simp [fixedNumber?] at h
      | cons d cs =>
          simp only [List.all_cons, Bool.and_eq_true] at hDigits
          simp only [fixedNumber?, hDigits.1, if_true] at h
          exact ih hDigits.2 h

theorem expect?_of_isDigit
    (hDigits : cs.all Char.isDigit = true)
    (hMark : c.isDigit = false) :
    expect? c cs = none := by
  cases cs with
  | nil => rfl
  | cons d cs =>
      have hNe : d ≠ c := by
        rintro rfl
        simp [hMark] at hDigits
      simp [expect?, hNe]

theorem afterDate?_of_isDigit
    (hDigits : cs.all Char.isDigit = true) :
    afterDate? cs = none := by
  cases hYear : fixedNumber? 4 0 cs with
  | none => simp [afterDate?, hYear]
  | some yearRest =>
      have hRest :=
        all_isDigit_of_fixedNumber? hDigits hYear
      simp [afterDate?, hYear,
        expect?_of_isDigit (c := '-') hRest (by decide)]

theorem afterTime?_of_isDigit
    (hDigits : cs.all Char.isDigit = true) :
    afterTime? cs = none := by
  cases hHour : pair? 23 cs with
  | none => simp [afterTime?, hHour]
  | some hourRest =>
      have hRead := (Option.filter_eq_some_iff.mp hHour).1
      have hRest := all_isDigit_of_fixedNumber? hDigits hRead
      simp [afterTime?, hHour,
        expect?_of_isDigit (c := ':') hRest (by decide)]

/- Digits alone are neither a date nor a time. -/
theorem isMoment_eq_false
    (hDigits : cs.all Char.isDigit = true) :
    isMoment cs = false := by
  simp [isMoment, isDate, isTime, isDateTime,
    afterDate?_of_isDigit hDigits,
    afterTime?_of_isDigit hDigits]

end

------------------------------------------------------------
-- Floats
------------------------------------------------------------

section

variable {cs : List Char}

theorem unsignedFloat?_of_isDigit
    (hDigits : cs.all Char.isDigit = true) :
    unsignedFloat? cs = none := by
  have hWhole : cs.takeWhile isDigitOrGap = cs := by
    rw [List.takeWhile_eq_self_iff]
    intro c hc
    simp [isDigitOrGap, List.all_eq_true.mp hDigits c hc]
  simp [unsignedFloat?, hWhole]

/- Digits alone are no float. -/
theorem isFloat_eq_false
    (hDigits : cs.all Char.isDigit = true) :
    isFloat cs = false := by
  have hNamed : isNamedFloat cs = false := by
    simp only [isNamedFloat, Bool.or_eq_false_iff,
      decide_eq_false_iff_not]
    constructor <;> rintro rfl <;> simp at hDigits
  have hPlain : isFloat.isNonNegativeFloat cs = false := by
    simp [isFloat.isNonNegativeFloat, hNamed,
      unsignedFloat?_of_isDigit hDigits]
  unfold isFloat
  split
  · simp at hDigits
  · simp at hDigits
  · exact hPlain

end

------------------------------------------------------------
-- Integers
------------------------------------------------------------

theorem hexValue?_of_isDigit
    {c : Char}
    (hDigit : c.isDigit = true) :
    hexValue? c = some (c.toNat - '0'.toNat) := by
  simp only [Char.isDigit, Bool.and_eq_true, decide_eq_true_eq]
    at hDigit
  exact if_pos hDigit

theorem toNat_sub_lt
    {c : Char}
    (hDigit : c.isDigit = true) :
    c.toNat - 48 < 10 := by
  simp only [Char.isDigit, Bool.and_eq_true, decide_eq_true_eq]
    at hDigit
  have hTop : c.toNat ≤ 57 := hDigit.2
  omega

/- A word of digits has no gaps to leave out. -/
theorem digits?_of_isDigit
    {cs : List Char}
    (hNe : cs ≠ [])
    (hDigits : cs.all Char.isDigit = true) :
    digits? 10 cs = some (cs.map fun c => c.toNat - '0'.toNat) := by
  induction cs with
  | nil => exact absurd rfl hNe
  | cons c cs ih =>
      simp only [List.all_cons, Bool.and_eq_true] at hDigits
      rcases hDigits with ⟨hHead, hTail⟩
      have hSmall := toNat_sub_lt hHead
      cases cs with
      | nil =>
          simp [digits?, hexValue?_of_isDigit hHead, hSmall]
      | cons d ds =>
          have hGap : d ≠ '_' := by
            rintro rfl
            simp at hTail
          have hRest := ih (by simp) hTail
          rw [digits?, hexValue?_of_isDigit hHead]
          simp [hSmall, hRest, hGap]

/- The digits of a number spell the number. -/
theorem ofDigits_decimal
    (n : Nat) :
    ofDigits 10 ((decimal n).map fun c => c.toNat - '0'.toNat) =
      n := by
  calc
    ofDigits 10 ((decimal n).map fun c => c.toNat - '0'.toNat) =
        Nat.ofDigitChars 10 (decimal n) 0 := by
      simp [ofDigits, List.foldl_map, Nat.ofDigitChars_eq_foldl,
        Nat.mul_comm]
    _ = n := Nat.ofDigitChars_ten_toDigits

theorem plainDigits?_decimal
    (n : Nat) :
    (plainDigits? (decimal n)).map (ofDigits 10) = some n := by
  by_cases hZero : n = 0
  · subst hZero
    rfl
  · have hHead := head?_decimal (Nat.pos_of_ne_zero hZero)
    have hPlain :
        plainDigits? (decimal n) = digits? 10 (decimal n) := by
      unfold plainDigits?
      split
      · rename_i hEq
        exact absurd (by rw [hEq]; rfl) hHead
      · rfl
    rw [hPlain,
      digits?_of_isDigit (decimal_ne_nil n) (isDigit_decimal n),
      Option.map_some, ofDigits_decimal]

/- A word of digits has neither a sign nor the mark of a base. -/
theorem unboundedInteger?_of_isDigit
    {cs : List Char}
    (hDigits : cs.all Char.isDigit = true) :
    unboundedInteger? cs =
      (plainDigits? cs).map fun ds => ↑(ofDigits 10 ds) := by
  unfold unboundedInteger?
  split
  · simp at hDigits
  · simp at hDigits
  · simp at hDigits
  · simp at hDigits
  · simp at hDigits
  · rfl

/-
  The digits of a number are read as the number, if it fits in
  a signed word.
-/
theorem ofToken?_decimal
    {n : Nat}
    (hFits : n ≤ 9223372036854775807) :
    ofToken? (decimal n) = some (.integer n) := by
  have hDigits := isDigit_decimal n
  have hTrue : decimal n ≠ ['t', 'r', 'u', 'e'] := by
    intro h
    simp [h] at hDigits
  have hFalse : decimal n ≠ ['f', 'a', 'l', 's', 'e'] := by
    intro h
    simp [h] at hDigits
  have hValue : unboundedInteger? (decimal n) = some (n : Int) := by
    rw [unboundedInteger?_of_isDigit hDigits]
    rcases Option.map_eq_some_iff.mp (plainDigits?_decimal n) with
      ⟨ds, hRead, hSpelled⟩
    simp [hRead, hSpelled]
  have hWord : isWord n = true := by
    simp only [isWord, Bool.and_eq_true, decide_eq_true_eq]
    omega
  simp [ofToken?, hTrue, hFalse, isMoment_eq_false hDigits,
    isFloat_eq_false hDigits, integer?, hValue,
    Option.filter, hWord]

end Toml

end Redraw
