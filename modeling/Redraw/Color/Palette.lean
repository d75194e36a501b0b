/-
  The 256-color palette and nearest matches in it.

  Entries 0 to 15 are the system colors, 16 to 231 a cube of
  six levels a channel, and 232 to 255 a ramp of greys.

  Key definitions include:
    * `Palette.rgb`: the color of an entry
    * `Palette.nearest256`: an entry of the cube or the ramp
    * `Palette.nearest16`: a system color
-/

namespace Redraw

/- A color by its three channels. -/
structure Rgb where
  red : UInt8
  green : UInt8
  blue : UInt8
  deriving DecidableEq, Repr

namespace Palette

------------------------------------------------------------
-- Entries
------------------------------------------------------------

/- The system colors. -/
def system : List Rgb :=
  [ ⟨0, 0, 0⟩, ⟨128, 0, 0⟩, ⟨0, 128, 0⟩, ⟨128, 128, 0⟩,
    ⟨0, 0, 128⟩, ⟨128, 0, 128⟩, ⟨0, 128, 128⟩,
    ⟨192, 192, 192⟩, ⟨128, 128, 128⟩, ⟨255, 0, 0⟩,
    ⟨0, 255, 0⟩, ⟨255, 255, 0⟩, ⟨0, 0, 255⟩,
    ⟨255, 0, 255⟩, ⟨0, 255, 255⟩, ⟨255, 255, 255⟩ ]

/- Channel levels of the cube. -/
def level : Fin 6 → UInt8
  | 0 => 0
  | 1 => 95
  | 2 => 135
  | 3 => 175
  | 4 => 215
  | 5 => 255

/- The color of a cube entry. -/
def cubeRgb
    (r g b : Fin 6) : Rgb :=
  ⟨level r, level g, level b⟩

/- The color of a step on the grey ramp. -/
def greyRgb (step : Fin 24) : Rgb :=
  let v := UInt8.ofNat (8 + 10 * step.val)
  ⟨v, v, v⟩

/- The palette index of a cube entry. -/
def cubeIndex
    (r g b : Fin 6) : UInt8 :=
  UInt8.ofNat (16 + 36 * r.val + 6 * g.val + b.val)

/- The palette index of a step on the grey ramp. -/
def greyIndex (step : Fin 24) : UInt8 :=
  UInt8.ofNat (232 + step.val)

/- The color of a palette entry. -/
def rgb (index : UInt8) : Rgb :=
  let n := index.toNat
  if n < 16 then
    system.getD n ⟨0, 0, 0⟩
  else if n < 232 then
    let k := n - 16
    cubeRgb
      (Fin.ofNat 6 (k / 36))
      (Fin.ofNat 6 (k % 36 / 6))
      (Fin.ofNat 6 (k % 6))
  else
    greyRgb (Fin.ofNat 24 (n - 232))

------------------------------------------------------------
-- Nearest Entries
------------------------------------------------------------

/- Distance between two channel values. -/
def channelDistance (a b : UInt8) : Nat :=
  (a.toNat - b.toNat) + (b.toNat - a.toNat)

/- Squared distance of two colors. -/
def distance (a b : Rgb) : Nat :=
  Nat.pow (channelDistance a.red b.red) 2
    + Nat.pow (channelDistance a.green b.green) 2
    + Nat.pow (channelDistance a.blue b.blue) 2

/- The first element with the least cost; `best` if none beats it. -/
def cheapest {α : Type}
    (cost : α → Nat)
    (best : α) : List α → α
  | [] => best
  | a :: as =>
      cheapest cost (if cost a < cost best then a else best) as

/- The cube level nearest to a channel value. -/
def nearestLevel (v : UInt8) : Fin 6 :=
  cheapest (fun i => channelDistance (level i) v) 0 [1, 2, 3, 4, 5]

/- The grey step nearest to the average of the channels. -/
def nearestGrey (c : Rgb) : Fin 24 :=
  let average := (c.red.toNat + c.green.toNat + c.blue.toNat) / 3
  ⟨min ((average - 3) / 10) 23, by omega⟩

/-
  The entry of the cube or the grey ramp that is nearest; the
  cube wins a tie.  System colors are never chosen, since users
  redefine them.
-/
def nearest256 (c : Rgb) : UInt8 :=
  let r := nearestLevel c.red
  let g := nearestLevel c.green
  let b := nearestLevel c.blue
  let grey := nearestGrey c
  if distance c (greyRgb grey) < distance c (cubeRgb r g b) then
    greyIndex grey
  else
    cubeIndex r g b

/- The system color that is nearest, the first of equals. -/
def nearest16 (c : Rgb) : UInt8 :=
  cheapest (fun i => distance c (rgb i)) 0
    [1, 2, 3, 4, 5, 6, 7, 8, 9, 10, 11, 12, 13, 14, 15]

end Palette

end Redraw
