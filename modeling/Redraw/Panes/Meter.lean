import Redraw.Panes.Log

/-
  The meter pane: a bar for each row.

  What a row shows depends on its level between nothing and
  all, and only through whole shares of it: so many cells of
  the bar, so much of the hue, so many percent.  Drawing takes
  these shares and does not ask where the level comes from.

  Key definitions include:
    * `Shares`
    * `Meter.draw`: bars for any levels
    * `Meter`, `Meter.tick`, `Meter.shares`: levels that drift
-/

namespace Redraw

/-
  How much of a whole the level of a row covers: row first, the
  whole second.
-/
abbrev Shares := Nat → Nat → Nat

/- A meter: how far its levels have drifted. -/
structure Meter where
  phase : Float32 := 0

namespace Meter

------------------------------------------------------------
-- Bars
------------------------------------------------------------

/- A text with blanks after it, up to a width. -/
def padRight
    (width : Nat)
    (text : List Char) : List Char :=
  text ++ List.replicate (width - text.length) ' '

/- The name of a row. -/
def label (row : Nat) : List Char :=
  "cpu".toList ++ padRight 2 (Nat.toDigits 10 row)

/- The percentage of a row. -/
def percentage (n : Nat) : List Char :=
  Log.padLeft 3 (Nat.toDigits 10 n) ++ ['%']

/- The color of a bar by its share of the hue. -/
def barStyle (hue : Nat) : Style :=
  Style.default.withBg
    (.direct ⟨UInt8.ofNat hue, UInt8.ofNat (255 - hue), 96⟩)

/- The style of names. -/
def labelStyle : Style :=
  Style.default.withAttrs { faint := true }

/- One row: its name, its bar and its percentage. -/
def drawRow
    (shares : Shares)
    (width : Nat)
    (g : Grid)
    (row : Nat) : Grid :=
  let bar := Cell.blank (barStyle (shares row 255))
  let named := g.put row 0 (label row) labelStyle
  let filled :=
    (List.range (shares row width)).foldl
      (fun g col => g.set row (6 + col) bar) named
  filled.put row (7 + width) (percentage (shares row 100)) .default

/- A bar for each row. -/
def draw
    (shares : Shares)
    (rows cols : Nat) : Grid :=
  (List.range rows).foldl (drawRow shares (cols - 8))
    (.blank rows cols)

------------------------------------------------------------
-- Levels
------------------------------------------------------------

/- The levels drift on. -/
def tick (m : Meter) : Meter where
  phase := m.phase + 0.15

/- The level of a row, between nothing and all. -/
def level
    (m : Meter)
    (row : Nat) : Float32 :=
  ((m.phase + Float32.ofNat row * 0.7).sin + 1) / 2

/- Shares of the levels, rounded down. -/
def shares (m : Meter) : Shares :=
  fun row whole => (m.level row * Float32.ofNat whole).toUInt16.toNat

end Meter

end Redraw
