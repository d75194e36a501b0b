import Redraw.Style
import Redraw.Text.Quoted
import Redraw.Text.Width

/-
  Cells: what one column of a screen holds.

  A cell is narrow, the first half of a wide character, or the
  continuation that takes the second half.  Text that could
  upset a terminal never gets into a cell: `Ink` is text that
  is not empty and holds no control character.

  Key definitions include:
    * `Ink`, `Glyph`, `Cell`
    * `Cell.styled`: a cell from any text
    * `Cell.blank`, `Cell.continuation`
    * `Cell.width`, `Cell.text`
-/

namespace Redraw

------------------------------------------------------------
-- Ink
------------------------------------------------------------

/- Text that a terminal shows and does not obey. -/
structure Ink where
  chars : List Char
  ne_nil : chars ≠ []
  noControl : chars.any isControl = false
  deriving DecidableEq

namespace Ink

/- Printable text from any text, if it is printable. -/
def ofChars? (chars : List Char) : Option Ink :=
  if h : chars ≠ [] ∧ chars.any isControl = false then
    some ⟨chars, h.1, h.2⟩
  else
    none

/- A space. -/
def space : Ink :=
  ⟨[' '], by decide, by decide⟩

/- What stands for text that cannot be shown. -/
def replacement : Ink :=
  ⟨['?'], by decide, by decide⟩

end Ink

------------------------------------------------------------
-- Cells
------------------------------------------------------------

/- What a column shows. -/
inductive Glyph
  | narrow (ink : Ink)
  | wide (ink : Ink)
  | continuation
  deriving DecidableEq

/- A column of a screen: a glyph and its style. -/
structure Cell where
  glyph : Glyph
  style : Style
  deriving DecidableEq

namespace Cell

/- A space in a style. -/
def blank (style : Style) : Cell :=
  ⟨.narrow .space, style⟩

/- An empty cell: a space in the default style. -/
def empty : Cell :=
  blank .default

instance : Inhabited Cell :=
  ⟨empty⟩

/- The second half of a wide character. -/
def continuation (style : Style) : Cell :=
  ⟨.continuation, style⟩

/-
  A cell from one cluster.  Empty text is a blank; text of no
  width, or with a control character in it, is replaced, since
  a terminal would not advance over it.
-/
def styled
    (text : List Char)
    (style : Style) : Cell :=
  if text.isEmpty then
    blank style
  else
    match Ink.ofChars? text with
    | none => ⟨.narrow .replacement, style⟩
    | some ink =>
        match displayWidth text with
        | 0 => ⟨.narrow .replacement, style⟩
        | 1 => ⟨.narrow ink, style⟩
        | _ => ⟨.wide ink, style⟩

------------------------------------------------------------
-- Queries
------------------------------------------------------------

/- Columns that a cell advances: none for a continuation. -/
def width (c : Cell) : Nat :=
  match c.glyph with
  | .narrow _ => 1
  | .wide _ => 2
  | .continuation => 0

/- The text of a cell; a continuation has none. -/
def text (c : Cell) : List Char :=
  match c.glyph with
  | .narrow ink => ink.chars
  | .wide ink => ink.chars
  | .continuation => []

/- Whether this is the second half of a wide character. -/
def isContinuation (c : Cell) : Bool :=
  match c.glyph with
  | .continuation => true
  | _ => false

/- Whether this is the first half of a wide character. -/
def isWide (c : Cell) : Bool :=
  match c.glyph with
  | .wide _ => true
  | _ => false

/- Whether the cell shows nothing but its background. -/
def isSpace (c : Cell) : Bool :=
  c.text = [' ']

/- Whether the cell is a space in the default style. -/
def isBlank (c : Cell) : Bool :=
  c.isSpace && c.style.isDefault

/- Bytes of the text in UTF-8. -/
def byteLength (c : Cell) : Nat :=
  (c.text.map Char.utf8Size).foldr (· + ·) 0

------------------------------------------------------------
-- Changes
------------------------------------------------------------

/- The cell in another style. -/
def withStyle
    (c : Cell)
    (style : Style) : Cell :=
  { c with style := style }

/- The cell as a space in its own style. -/
def erased (c : Cell) : Cell :=
  blank c.style

/- A cell in words. -/
def describe (c : Cell) : String :=
  if c.isContinuation then
    "Cell(continuation)"
  else
    "Cell(" ++ quoted c.text
      ++ (if c.isWide then ", wide" else "")
      ++ (if c.style.isDefault then "" else ", " ++ c.style.describe)
      ++ ")"

------------------------------------------------------------
-- Small Facts
------------------------------------------------------------

theorem width_eq_zero_iff
    (c : Cell) :
    c.width = 0 ↔ c.isContinuation = true := by
  cases c with
  | mk glyph style => cases glyph <;> simp [width, isContinuation]

theorem isContinuation_blank
    (style : Style) :
    (blank style).isContinuation = false := rfl

theorem isContinuation_styled
    (text : List Char)
    (style : Style) :
    (styled text style).isContinuation = false := by
  unfold styled
  split
  · rfl
  · split
    · rfl
    · split <;> rfl

theorem style_styled
    (text : List Char)
    (style : Style) :
    (styled text style).style = style := by
  unfold styled
  split
  · rfl
  · split
    · rfl
    · split <;> rfl

end Cell

end Redraw
