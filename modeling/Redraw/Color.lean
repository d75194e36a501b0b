import Redraw.Color.Palette
import Redraw.Error
import Redraw.Text.Hex

/-
  Cell colors: the terminal's own default, a palette entry or
  24 bits of red, green and blue.

  Key definitions include:
    * `Color`
    * `Color.indexed?`, `Color.ofHex?`
    * `Color.rgb?`: the color on the reference palette
    * `Color.differs`: whether two colors look different
    * `Color.toIndexed256`, `Color.toAnsi16`: the nearest color
      of a poorer terminal
-/

namespace Redraw

/- A cell color. -/
inductive Color
  | default
  | indexed (index : UInt8)
  | direct (rgb : Rgb)
  deriving DecidableEq, Repr

namespace Color

instance : Inhabited Color :=
  ⟨.default⟩

/- A palette color from a number that may be too large. -/
def indexed? (index : Nat) : Except Error Color :=
  if index < 256 then
    .ok (.indexed (UInt8.ofNat index))
  else
    .error (.invalidColorIndex index)

/- A channel from two hexadecimal digits. -/
def channel?
    (high low : Char) : Option UInt8 := do
  let h ← hexValue? high
  let l ← hexValue? low
  return UInt8.ofNat (16 * h + l)

/- Read three or six hexadecimal digits after an optional `#`. -/
def ofHex? (text : List Char) : Option Color :=
  let digits :=
    match text with
    | '#' :: rest => rest
    | _ => text
  match digits with
  | [r, g, b] => do
      return .direct ⟨← channel? r r, ← channel? g g, ← channel? b b⟩
  | [r₁, r₂, g₁, g₂, b₁, b₂] => do
      return .direct
        ⟨← channel? r₁ r₂, ← channel? g₁ g₂, ← channel? b₁ b₂⟩
  | _ => none

/- Whether this is the terminal's default color. -/
def isDefault (c : Color) : Bool :=
  c = .default

/- The color on the reference palette; the default has none. -/
def rgb? : Color → Option Rgb
  | .default => none
  | .indexed i => some (Palette.rgb i)
  | .direct c => some c

/- Channels that differ by no more than this look the same. -/
def tolerance : Nat := 2

/- Whether two colors would look different. -/
def differs (a b : Color) : Bool :=
  match a.rgb?, b.rgb? with
  | none, none => false
  | some x, some y =>
      tolerance < Palette.channelDistance x.red y.red
      || tolerance < Palette.channelDistance x.green y.green
      || tolerance < Palette.channelDistance x.blue y.blue
  | _, _ => true

/- The nearest color of a terminal with the 256-color palette. -/
def toIndexed256 : Color → Color
  | .direct c => .indexed (Palette.nearest256 c)
  | c => c

/- The nearest color of a terminal with the system colors only. -/
def toAnsi16 : Color → Color
  | .default => .default
  | .indexed i =>
      if i < 16 then .indexed i
      else .indexed (Palette.nearest16 (Palette.rgb i))
  | .direct c => .indexed (Palette.nearest16 c)

/- A color in words. -/
def describe : Color → String
  | .default => "default"
  | .indexed i => "indexed(" ++ toString i.toNat ++ ")"
  | .direct c =>
      String.ofList
        ('#' :: (hexByte c.red ++ hexByte c.green ++ hexByte c.blue))

end Color

end Redraw
