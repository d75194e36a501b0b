import Redraw.Style

/-
  What a terminal can show, and the nearest it can come to what
  was asked for.

  Key definitions include:
    * `ColorDepth`, `Capabilities`
    * `Capabilities.detect`: a guess from the environment
    * `Capabilities.adaptColor`, `Capabilities.adaptStyle`
-/

namespace Redraw

/- How many colors a terminal has. -/
inductive ColorDepth
  | trueColor
  | indexed256
  | ansi16
  deriving DecidableEq, Repr

/-
  What a terminal supports: colors, kinds and colors of
  underlines, and frames shown as a whole.
-/
structure Capabilities where
  colorDepth : ColorDepth := .trueColor
  styledUnderline : Bool := true
  synchronizedOutput : Bool := true
  deriving DecidableEq, Repr

namespace Capabilities

/- A terminal that can do everything. -/
def full : Capabilities := {}

/- A terminal that can do nothing but the system colors. -/
def minimal : Capabilities where
  colorDepth := .ansi16
  styledUnderline := false
  synchronizedOutput := false

------------------------------------------------------------
-- Detection
------------------------------------------------------------

/- Whether one text occurs in another. -/
def occursIn
    (needle : List Char) :
    List Char → Bool
  | [] => needle.isEmpty
  | c :: cs => needle.isPrefixOf (c :: cs) || occursIn needle cs

/- Terminals that are known to style underlines. -/
def modernNames : List String :=
  ["kitty", "wezterm", "ghostty", "foot", "alacritty"]

/-
  A guess from the environment variables `COLORTERM`, `TERM`
  and `TERM_PROGRAM`, whatever their case.
-/
def detect (lookup : String → Option String) : Capabilities :=
  let value name := ((lookup name).getD "").map Char.toLower
  let colorTerm := value "COLORTERM"
  let term := value "TERM"
  let program := value "TERM_PROGRAM"
  let mentions (name text : String) := occursIn name.toList text.toList
  let modern :=
    modernNames.any fun name => mentions name term || mentions name program
  { colorDepth :=
      if colorTerm = "truecolor" || colorTerm = "24bit" then .trueColor
      else if mentions "256color" term then .indexed256
      else .ansi16
    styledUnderline :=
      modern || program = "iterm.app" || program = "vscode"
    synchronizedOutput :=
      !(term = "" || term = "dumb" || term = "linux") }

------------------------------------------------------------
-- Adaptation
------------------------------------------------------------

/- The nearest color that a terminal can show. -/
def adaptColor
    (caps : Capabilities)
    (c : Color) : Color :=
  match caps.colorDepth with
  | .trueColor => c
  | .indexed256 => c.toIndexed256
  | .ansi16 => c.toAnsi16

/- The underline that a terminal can show. -/
def adaptUnderline
    (caps : Capabilities)
    (u : Underline) : Underline :=
  if !caps.styledUnderline && u.isUnderlined then .straight else u

/- The nearest style that a terminal can show. -/
def adaptStyle
    (caps : Capabilities)
    (s : Style) : Style where
  fg := caps.adaptColor s.fg
  bg := caps.adaptColor s.bg
  attrs := s.attrs
  underline := caps.adaptUnderline s.underline
  underlineColor :=
    if caps.styledUnderline then caps.adaptColor s.underlineColor
    else .default

/- The style after a reset can be shown by every terminal. -/
theorem adaptStyle_default
    (caps : Capabilities) :
    caps.adaptStyle .default = .default := by
  cases caps with
  | mk depth styled sync =>
      cases depth <;> cases styled <;> rfl

end Capabilities

end Redraw
