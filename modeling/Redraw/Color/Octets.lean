import Redraw.Color.Palette

/-
  Octets: the nearest entry of the palette, found with numbers
  of eight bits.

  A sum, a difference or a product that does not fit has no
  result, and neither has a place past the end of a table.

  Key definitions include:
    * `Octet.add?`, `Octet.sub?`, `Octet.mul?`
    * `Palette.rgb?`, `Palette.nearest256?`
-/

namespace Redraw

namespace Octet

/- A sum, if it fits into eight bits. -/
def add? (a b : UInt8) : Option UInt8 :=
  if a.toNat + b.toNat < 256 then some (a + b) else none

/- A difference, if it is not below zero. -/
def sub? (a b : UInt8) : Option UInt8 :=
  if b.toNat ≤ a.toNat then some (a - b) else none

/- A product, if it fits into eight bits. -/
def mul? (a b : UInt8) : Option UInt8 :=
  if a.toNat * b.toNat < 256 then some (a * b) else none

end Octet

namespace Palette

/- Channel levels of the cube, in a table. -/
def levels : List UInt8 :=
  [0, 95, 135, 175, 215, 255]

/- The color of a palette entry. -/
def rgb? (index : UInt8) : Option Rgb :=
  if index < 16 then
    system[index.toNat]?
  else if index < 232 then do
    let k ← Octet.sub? index 16
    let red ← levels[(k / 36).toNat]?
    let green ← levels[(k % 36 / 6).toNat]?
    let blue ← levels[(k % 6).toNat]?
    return ⟨red, green, blue⟩
  else do
    let step ← Octet.sub? index 232
    let v ← Octet.add? 8 (← Octet.mul? 10 step)
    return ⟨v, v, v⟩

/- The palette index of levels of the cube. -/
def cubeIndex? (r g b : UInt8) : Option UInt8 := do
  let red ← Octet.add? 16 (← Octet.mul? 36 r)
  let green ← Octet.add? red (← Octet.mul? 6 g)
  Octet.add? green b

/- The nearest entry of the cube or the grey ramp. -/
def nearest256? (c : Rgb) : Option UInt8 := do
  let r := UInt8.ofNat (nearestLevel c.red).val
  let g := UInt8.ofNat (nearestLevel c.green).val
  let b := UInt8.ofNat (nearestLevel c.blue).val
  let cube ← cubeIndex? r g b
  let grey ← Octet.add? 232 (UInt8.ofNat (nearestGrey c).val)
  if distance c (← rgb? grey) < distance c (← rgb? cube) then
    return grey
  else
    return cube

end Palette

end Redraw
