import Redraw.Text.EastAsian
import Redraw.Text.Emoji
import Redraw.Text.Ignorable
import Redraw.Text.Marks

/-
  Display width: how many columns a text takes on a terminal.

  Most code points have a width of their own, `charWidth`.
  A variation selector changes the width of the character
  before it, and in a few scripts neighbouring letters are
  drawn as one.  Both look at what follows, so `measure` reads
  the text from its end.

  Texts of two columns and more are all drawn in two, so the
  measure need only be exact below two: joined emoji count
  every member.

  Stated here:
    * `displayWidth_singleton`: a character alone has its own
      width
-/

namespace Redraw

------------------------------------------------------------
-- Single Characters
------------------------------------------------------------

/- Control characters: the general category `Cc`. -/
def isControl (c : Char) : Bool :=
  c.toNat < 0x20 || (0x7F ≤ c.toNat && c.toNat < 0xA0)

/-
  Characters drawn in columns of their own although a rule
  makes them invisible or joins them to their neighbours: two
  joiners of syllables and the half-width voicing marks.
-/
def isDrawnApart (n : Nat) : Bool :=
  n = 0x115F || n = 0x2D7F || n = 0xFF9E || n = 0xFF9F

/-
  Characters that take no column.  Signs drawn above, below
  or around a number take none although no rule makes them
  invisible.
-/
def isZeroWidth (c : Char) : Bool :=
  let n := c.toNat
  if isDrawnApart n then false
  else
    CodeSet.graphemeExtend.contains c
    || CodeSet.defaultIgnorable.contains c
    || (0x1160 ≤ n && n ≤ 0x11FF)
    || (0xD7B0 ≤ n && n ≤ 0xD7C6)
    || (0xD7CB ≤ n && n ≤ 0xD7FB)
    || n = 0x0605 || n = 0x070F || n = 0x0890 || n = 0x0891
    || n = 0x08E2 || n = 0xA8FA
    || (CodeSet.prepended.contains c
      && !CodeSet.prependedConcatenation.contains c)

/- The width of a character by itself. -/
def charWidth (c : Char) : Nat :=
  let n := c.toNat
  if n ≤ 0xA0 then 1
  else if n = 0x17A4 then 2
  else if n = 0x17D8 then 3
  else if isZeroWidth c then 0
  else if n = 0x115F then 2
  else if CodeSet.eastAsianWide.contains c then 2
  else 1

------------------------------------------------------------
-- Ligatures
------------------------------------------------------------

/- What the character to the right may combine with. -/
inductive Ligature
  | alef
  | lamed (joined : Bool)
  | ya (joined : Bool)
  | yaSign
  | tifinagh (joined : Bool)
  | tifinaghJoiner
  | lisuTone
  | orkhonI (joined : Bool)
  | coengLetter
  | kiratE
  | kiratAi
  deriving DecidableEq

namespace Ligature

/- Letters that an Arabic lam combines with. -/
def isAlef (n : Nat) : Bool :=
  n = 0x0622 || n = 0x0623 || n = 0x0625 || n = 0x0627
  || (0x0671 ≤ n && n ≤ 0x0673) || n = 0x0675
  || n = 0x0773 || n = 0x0774
  || (0x0870 ≤ n && n ≤ 0x0882)

/- The Arabic lam and its variants. -/
def isLam (n : Nat) : Bool :=
  n = 0x0644 || (0x06B5 ≤ n && n ≤ 0x06B8)
  || n = 0x076A || n = 0x08A6 || n = 0x08C7

/- Khmer letters that can be written below another. -/
def isCoengLetter (n : Nat) : Bool :=
  (0x1780 ≤ n && n ≤ 0x1782) || (0x1784 ≤ n && n ≤ 0x1787)
  || (0x1789 ≤ n && n ≤ 0x178C) || (0x178E ≤ n && n ≤ 0x1793)
  || (0x1795 ≤ n && n ≤ 0x1798) || (0x179B ≤ n && n ≤ 0x179D)
  || n = 0x17A0 || n = 0x17A2 || n = 0x17A7
  || n = 0x17AB || n = 0x17AC || n = 0x17AF

/- Tifinagh consonants that can form a pair. -/
def isTifinagh (n : Nat) : Bool :=
  (0x2D31 ≤ n && n ≤ 0x2D65) || n = 0x2D6F

/- The ligature that a character may end, if any. -/
def ofChar? (c : Char) : Option Ligature :=
  let n := c.toNat
  if n < 0x05DC then none
  else if n = 0x05DC then some (.lamed false)
  else if isAlef n then some .alef
  else if isCoengLetter n then some .coengLetter
  else if n = 0x1A10 then some (.ya false)
  else if isTifinagh n then some (.tifinagh false)
  else if n = 0xA4FC ∨ n = 0xA4FD then some .lisuTone
  else if n = 0x10C03 then some (.orkhonI false)
  else if n = 0x16D67 then some .kiratE
  else if n = 0x16D68 then some .kiratAi
  else none

/- Ligatures that a variation selector does not part. -/
def keepsOverSelector : Ligature → Bool
  | .kiratE | .kiratAi => false
  | _ => true

/- Ligatures that a joiner or an invisible mark may enter. -/
def letsThrough : Ligature → Bool
  | .alef | .kiratE | .kiratAi => false
  | _ => true

/- The ligature after a zero width joiner. -/
def join : Ligature → Ligature
  | .lamed _ => .lamed true
  | .ya _ => .ya true
  | .tifinagh _ => .tifinagh true
  | .orkhonI _ => .orkhonI true
  | l => l

/-
  What a character before the ligature adds to the width, and
  what remains to combine with; none if they do not combine.
-/
def combine?
    (l : Ligature)
    (c : Char) : Option (Int × Option Ligature) :=
  let n := c.toNat
  match l with
  | .alef =>
      if isLam n then some (0, none)
      else if charWidth c = 0
          && CodeSet.joiningTransparent.contains c then
        some (0, some .alef)
      else none
  | .lamed joined =>
      if joined && n = 0x05D0 then some (0, none) else none
  | .coengLetter =>
      if n = 0x17D2 then some (-1, none) else none
  | .ya joined =>
      if joined && n = 0x1A17 then some (0, some .yaSign)
      else none
  | .yaSign =>
      if n = 0x1A15 then some (0, none) else none
  | .tifinagh joined =>
      if n = 0x2D7F then some (1, some .tifinaghJoiner)
      else if joined && isTifinagh n then some (0, none)
      else none
  | .tifinaghJoiner =>
      if isTifinagh n then some (-1, none) else none
  | .lisuTone =>
      if 0xA4F8 ≤ n && n ≤ 0xA4FB then some (0, none)
      else none
  | .orkhonI joined =>
      if joined && n = 0x10C32 then some (0, none) else none
  | .kiratE =>
      if n = 0x16D63 || n = 0x16D69 then some (0, none)
      else if n = 0x16D67 then some (0, some .kiratAi)
      else if n = 0x16D68 then some (1, some .kiratE)
      else none
  | .kiratAi =>
      if n = 0x16D63 then some (0, none) else none

end Ligature

------------------------------------------------------------
-- Measuring a Text
------------------------------------------------------------

/- A variation selector that has yet to meet its base. -/
inductive Presentation
  | asText
  | asEmoji
  deriving DecidableEq

/- What stands to the right of a character being measured. -/
structure WidthContext where
  ligature : Option Ligature := none
  selector : Option Presentation := none

namespace WidthContext

/- The context once a selector has found no base. -/
def dropSelector (ctx : WidthContext) : WidthContext :=
  { ctx with selector := none }

/- The context left of a variation selector. -/
def select
    (ctx : WidthContext)
    (p : Presentation) : WidthContext where
  ligature := ctx.ligature.filter Ligature.keepsOverSelector
  selector := some p

/-
  Width of a character that no selector waits for, and the
  context to its left.
-/
def stepPlain
    (ctx : WidthContext)
    (c : Char) : Int × WidthContext :=
  let alone := (↑(charWidth c), ⟨Ligature.ofChar? c, none⟩)
  match ctx.ligature with
  | none => alone
  | some l =>
      if l.letsThrough && c.toNat = 0x200D then
        (0, ⟨some l.join, none⟩)
      else if l.letsThrough && CodeSet.ignorableMark.contains c then
        (0, ⟨some l, none⟩)
      else
        match l.combine? c with
        | some (w, rest) => (w, ⟨rest, none⟩)
        | none => alone

/- Width that a character adds, and the context to its left. -/
def step
    (ctx : WidthContext)
    (c : Char) : Int × WidthContext :=
  if ctx.selector = some .asEmoji
      && CodeSet.emojiVariationBase.contains c then
    (2, ⟨none, none⟩)
  else if c.toNat ≤ 0xA0 then
    (1, ⟨none, none⟩)
  else if c.toNat = 0xFE0F then
    (0, ctx.select .asEmoji)
  else if c.toNat = 0xFE0E then
    (0, ctx.select .asText)
  else if ctx.selector = some .asText
      && CodeSet.textVariationBase.contains c then
    (1, ⟨none, none⟩)
  else
    ctx.dropSelector.stepPlain c

end WidthContext

/- Width of a text and the context to its left. -/
def measure : List Char → Int × WidthContext
  | [] => (0, {})
  | c :: cs =>
      let (w, ctx) := measure cs
      let (v, ctx') := ctx.step c
      (v + w, ctx')

/- Columns that a text takes, exact below two. -/
def displayWidth (text : List Char) : Nat :=
  (measure text).1.toNat

/- A character alone has its own width. -/
theorem displayWidth_singleton
    (c : Char) :
    displayWidth [c] = charWidth c := by
  by_cases h₁ : c.toNat ≤ 0xA0
  · simp [displayWidth, measure, WidthContext.step, h₁, charWidth]
  · by_cases h₂ : c.toNat = 0xFE0F
    · have : c = Char.ofNat 0xFE0F := by
        rw [← h₂, Char.ofNat_toNat]
      subst this
      decide +kernel
    · by_cases h₃ : c.toNat = 0xFE0E
      · have : c = Char.ofNat 0xFE0E := by
          rw [← h₃, Char.ofNat_toNat]
        subst this
        decide +kernel
      · simp [displayWidth, measure, WidthContext.step,
          WidthContext.dropSelector, WidthContext.stepPlain,
          h₁, h₂, h₃]

end Redraw
