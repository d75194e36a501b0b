import Redraw.Color

/-
  Everything about a cell's look except its text.

  Key definitions include:
    * `Attr`, `Attrs`: the nine text attributes and sets of them
    * `Underline`
    * `Style`
    * `Style.describe`
-/

namespace Redraw

------------------------------------------------------------
-- Attributes
------------------------------------------------------------

/- A text attribute. -/
inductive Attr
  | bold
  | faint
  | italic
  | blink
  | rapidBlink
  | reverse
  | invisible
  | strikethrough
  | overline
  deriving DecidableEq, Repr

namespace Attr

/- All attributes, in the order of their bits. -/
def all : List Attr :=
  [.bold, .faint, .italic, .blink, .rapidBlink, .reverse,
    .invisible, .strikethrough, .overline]

/- The name of an attribute. -/
def name : Attr → String
  | .bold => "BOLD"
  | .faint => "FAINT"
  | .italic => "ITALIC"
  | .blink => "BLINK"
  | .rapidBlink => "RAPID_BLINK"
  | .reverse => "REVERSE"
  | .invisible => "INVISIBLE"
  | .strikethrough => "STRIKETHROUGH"
  | .overline => "OVERLINE"

/- The position of an attribute in a bit set. -/
def bit : Attr → Nat
  | .bold => 0
  | .faint => 1
  | .italic => 2
  | .blink => 3
  | .rapidBlink => 4
  | .reverse => 5
  | .invisible => 6
  | .strikethrough => 7
  | .overline => 8

end Attr

/- A set of attributes. -/
structure Attrs where
  bold : Bool := false
  faint : Bool := false
  italic : Bool := false
  blink : Bool := false
  rapidBlink : Bool := false
  reverse : Bool := false
  invisible : Bool := false
  strikethrough : Bool := false
  overline : Bool := false
  deriving DecidableEq, Repr

namespace Attrs

/- No attribute. -/
def none : Attrs := {}

/- Whether a set holds an attribute. -/
def has (s : Attrs) : Attr → Bool
  | .bold => s.bold
  | .faint => s.faint
  | .italic => s.italic
  | .blink => s.blink
  | .rapidBlink => s.rapidBlink
  | .reverse => s.reverse
  | .invisible => s.invisible
  | .strikethrough => s.strikethrough
  | .overline => s.overline

/- The set of the attributes that a test accepts. -/
def filter (test : Attr → Bool) : Attrs where
  bold := test .bold
  faint := test .faint
  italic := test .italic
  blink := test .blink
  rapidBlink := test .rapidBlink
  reverse := test .reverse
  invisible := test .invisible
  strikethrough := test .strikethrough
  overline := test .overline

/- Set or clear one attribute. -/
def set
    (s : Attrs)
    (a : Attr)
    (on : Bool) : Attrs :=
  filter fun b => if b = a then on else s.has b

/- The set with the given bits; other bits are dropped. -/
def ofBits (bits : Nat) : Attrs :=
  filter fun a => bits.testBit a.bit

/- The attributes of a set, in the order of their bits. -/
def toList (s : Attrs) : List Attr :=
  Attr.all.filter s.has

theorem has_filter
    (test : Attr → Bool)
    (a : Attr) :
    (filter test).has a = test a := by
  cases a <;> rfl

/- Two sets with the same members are equal. -/
theorem ext_has
    {s t : Attrs}
    (h : ∀ a, s.has a = t.has a) :
    s = t := by
  have h₁ := h .bold
  have h₂ := h .faint
  have h₃ := h .italic
  have h₄ := h .blink
  have h₅ := h .rapidBlink
  have h₆ := h .reverse
  have h₇ := h .invisible
  have h₈ := h .strikethrough
  have h₉ := h .overline
  cases s
  cases t
  simp_all [has]

end Attrs

------------------------------------------------------------
-- Underlines
------------------------------------------------------------

/- The kind of underline of a cell. -/
inductive Underline
  | none
  | straight
  | double
  | curly
  | dotted
  | dashed
  deriving DecidableEq, Repr

namespace Underline

/- Whether there is an underline at all. -/
def isUnderlined (u : Underline) : Bool :=
  u ≠ .none

/- The number of an underline in a style change. -/
def param : Underline → Nat
  | .none => 0
  | .straight => 1
  | .double => 2
  | .curly => 3
  | .dotted => 4
  | .dashed => 5

/- The underline with a number; large numbers are dashed. -/
def ofParam : Nat → Underline
  | 0 => .none
  | 1 => .straight
  | 2 => .double
  | 3 => .curly
  | 4 => .dotted
  | _ => .dashed

/- The name of an underline. -/
def name : Underline → String
  | .none => "None"
  | .straight => "Straight"
  | .double => "Double"
  | .curly => "Curly"
  | .dotted => "Dotted"
  | .dashed => "Dashed"

end Underline

------------------------------------------------------------
-- Styles
------------------------------------------------------------

/- Colors, attributes and underline of a cell. -/
structure Style where
  fg : Color := .default
  bg : Color := .default
  attrs : Attrs := .none
  underline : Underline := .none
  underlineColor : Color := .default
  deriving DecidableEq, Repr

namespace Style

/- The style that a terminal has after a reset. -/
def default : Style := {}

instance : Inhabited Style :=
  ⟨default⟩

/- Whether this is the style after a reset. -/
def isDefault (s : Style) : Bool :=
  s = default

/- The style with another foreground. -/
def withFg
    (s : Style)
    (c : Color) : Style :=
  { s with fg := c }

/- The style with another background. -/
def withBg
    (s : Style)
    (c : Color) : Style :=
  { s with bg := c }

/- The style with other attributes. -/
def withAttrs
    (s : Style)
    (a : Attrs) : Style :=
  { s with attrs := a }

/- The parts of a style that differ from the default, in words. -/
def parts (s : Style) : List String :=
  (if s.fg.isDefault then [] else ["fg=" ++ s.fg.describe])
  ++ (if s.bg.isDefault then [] else ["bg=" ++ s.bg.describe])
  ++ (if s.attrs = .none then []
      else
        ["Attr("
          ++ " | ".intercalate (s.attrs.toList.map Attr.name)
          ++ ")"])
  ++ (if s.underline.isUnderlined then [s.underline.name] else [])
  ++ (if s.underlineColor.isDefault then []
      else ["ul=" ++ s.underlineColor.describe])

/- A style in words. -/
def describe (s : Style) : String :=
  "Style(" ++ ", ".intercalate s.parts ++ ")"

end Style

end Redraw
