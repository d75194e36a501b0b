import Redraw.Grid

/-
  The log pane: numbered lines, the latest at the bottom.

  A line is known by its number, so the pane only remembers how
  many lines there have been and how many of them it keeps.

  Key definitions include:
    * `Log`, `Log.tick`
    * `Log.draw`
-/

namespace Redraw

/- The number of the next line, and how many before it are kept. -/
structure Log where
  next : Nat := 0
  kept : Nat := 0
  deriving DecidableEq, Repr

namespace Log

------------------------------------------------------------
-- Lines
------------------------------------------------------------

/- What lines report, in turn. -/
def words : List String :=
  ["compiling", "linking", "fetching", "resolving", "ok",
    "warning", "中文", "done"]

/- The word of a line. -/
def word (n : Nat) : String :=
  words.getD (n % 8) ""

/- A number with blanks before it, up to a width. -/
def padLeft
    (width : Nat)
    (text : List Char) : List Char :=
  List.replicate (width - text.length) ' ' ++ text

/- A line by its number. -/
def line (n : Nat) : List Char :=
  '[' :: padLeft 5 (Nat.toDigits 10 n) ++ "] ".toList
    ++ (word n).toList ++ " crate-".toList
    ++ Nat.toDigits 10 (n % 13)

/- The style of a line by its number. -/
def lineStyle (n : Nat) : Style :=
  if word n = "warning" then
    (Style.default.withFg (.indexed 3)).withAttrs { bold := true }
  else if word n = "ok" ∨ word n = "done" then
    Style.default.withFg (.indexed 2)
  else .default

------------------------------------------------------------
-- The Pane
------------------------------------------------------------

/- Add a line and keep as many as a height allows. -/
def tick
    (log : Log)
    (height : Nat) : Log where
  next := log.next + 1
  kept := min (log.kept + 1) height

/- Numbers of the kept lines, the oldest first. -/
def numbers (log : Log) : List Nat :=
  List.range' (log.next - log.kept) log.kept

/- The kept lines from the top, cut off at the edges. -/
def draw
    (log : Log)
    (rows cols : Nat) : Grid :=
  (log.numbers.take rows).zipIdx.foldl
    (fun g (n, row) => g.put row 0 (line n) (lineStyle n))
    (.blank rows cols)

end Log

end Redraw
