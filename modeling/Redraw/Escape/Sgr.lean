import Redraw.Escape.Decimal
import Redraw.Style

/-
  Style changes: the parameters of one `SGR` sequence.

  Parameters are collected before anything is written, so that
  a whole style change is one sequence and the lengths of two
  ways to say it can be compared.

  Key definitions include:
    * `SgrParam`, `Sgr`
    * `Sgr.push`, `Sgr.pushAttrs`, `Sgr.pushUnderline`
    * `Sgr.pushFg`, `Sgr.pushBg`, `Sgr.pushUnderlineColor`
    * `Sgr.chars`, `Sgr.length`
-/

namespace Redraw

------------------------------------------------------------
-- Parameters
------------------------------------------------------------

/- A parameter, alone or with a sub-parameter. -/
inductive SgrParam
  | code (n : Nat)
  | sub (n m : Nat)
  deriving DecidableEq, Repr

namespace SgrParam

/- A parameter as written. -/
def chars : SgrParam → List Char
  | .code n => decimal n
  | .sub n m => decimal n ++ ':' :: decimal m

/- The length of a parameter as written. -/
def length : SgrParam → Nat
  | .code n => decimalLength n
  | .sub n m => decimalLength n + 1 + decimalLength m

theorem length_chars
    (p : SgrParam) :
    p.chars.length = p.length := by
  cases p <;> simp [chars, length, length_decimal]
  omega

end SgrParam

------------------------------------------------------------
-- Sequences
------------------------------------------------------------

/- The parameters of one style change. -/
structure Sgr where
  params : List SgrParam := []
  deriving DecidableEq, Repr

namespace Sgr

/- No parameter. -/
def empty : Sgr := {}

/- Whether there is no parameter. -/
def isEmpty (s : Sgr) : Bool :=
  s.params.isEmpty

/- Add parameters at the end. -/
def append
    (s : Sgr)
    (ps : List SgrParam) : Sgr :=
  ⟨s.params ++ ps⟩

/- Add a plain parameter. -/
def push
    (s : Sgr)
    (n : Nat) : Sgr :=
  s.append [.code n]

/- The parameter that turns an attribute on. -/
def attrCode : Attr → Nat
  | .bold => 1
  | .faint => 2
  | .italic => 3
  | .blink => 5
  | .rapidBlink => 6
  | .reverse => 7
  | .invisible => 8
  | .strikethrough => 9
  | .overline => 53

/- Turn on every attribute of a set. -/
def pushAttrs
    (s : Sgr)
    (attrs : Attrs) : Sgr :=
  s.append (attrs.toList.map fun a => .code (attrCode a))

/-
  Set the underline.  Its variants are sub-parameters; without
  `styled` they are all written as a plain underline.
-/
def pushUnderline
    (s : Sgr)
    (u : Underline)
    (styled : Bool) : Sgr :=
  match u with
  | .none => s.push 24
  | .straight => s.push 4
  | _ => if styled then s.append [.sub 4 u.param] else s.push 4

/-
  The parameters of a color.  System colors have numbers of
  their own, from `base` and `bright`; others follow `extended`.
-/
def colorParams
    (c : Color)
    (base bright extended : Nat) : List SgrParam :=
  match c with
  | .default => [.code (extended + 1)]
  | .indexed i =>
      let n := i.toNat
      if n < 8 then [.code (base + n)]
      else if n < 16 then [.code (bright + n - 8)]
      else [.code extended, .code 5, .code n]
  | .direct rgb =>
      [.code extended, .code 2, .code rgb.red.toNat,
        .code rgb.green.toNat, .code rgb.blue.toNat]

/- Set the foreground. -/
def pushFg
    (s : Sgr)
    (c : Color) : Sgr :=
  s.append (colorParams c 30 90 38)

/- Set the background. -/
def pushBg
    (s : Sgr)
    (c : Color) : Sgr :=
  s.append (colorParams c 40 100 48)

/- Set the color of the underline. -/
def pushUnderlineColor
    (s : Sgr)
    (c : Color) : Sgr :=
  match c with
  | .default => s.push 59
  | .indexed i => s.append [.code 58, .code 5, .code i.toNat]
  | .direct rgb =>
      s.append
        [.code 58, .code 2, .code rgb.red.toNat,
          .code rgb.green.toNat, .code rgb.blue.toNat]

------------------------------------------------------------
-- Writing
------------------------------------------------------------

/- The parameters as written, separated by semicolons. -/
def body (s : Sgr) : List Char :=
  [';'].intercalate (s.params.map SgrParam.chars)

/- The sequence; nothing if there is no parameter. -/
def chars (s : Sgr) : List Char :=
  if s.isEmpty then []
  else '\x1b' :: '[' :: (s.body ++ ['m'])

/- The length of the parameters and their separators. -/
def bodyLength : List SgrParam → Nat
  | [] => 0
  | [p] => p.length
  | p :: ps => p.length + 1 + bodyLength ps

/- The length of the sequence. -/
def length (s : Sgr) : Nat :=
  if s.isEmpty then 0 else bodyLength s.params + 3

end Sgr

end Redraw
