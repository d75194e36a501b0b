import Redraw.Cursor
import Redraw.Screen.Rendition
import Redraw.Text.Width

/-
  Screens: what a terminal shows, and how it changes.

  The last column is special.  A character written there leaves
  the cursor where it is, and the next one wraps first.  Writing
  over one half of a wide character destroys the other half, and
  what is erased takes the background in force.

  Key definitions include:
    * `Slot`, `Screen`
    * `Screen.moveTo`, `Screen.lineFeed`, `Screen.carriageReturn`
    * `Screen.eraseLine`, `Screen.clear`
    * `Screen.print`
    * `Screen.Agrees`: whether two screens cannot be told apart
-/

namespace Redraw

------------------------------------------------------------
-- Screens
------------------------------------------------------------

/-
  What a position of a screen shows.  The right half of a wide
  character has no text of its own.
-/
structure Slot where
  text : List Char
  style : Style
  continuation : Bool
  deriving DecidableEq, Repr

namespace Slot

/- A space over a background. -/
def blank (bg : Color) : Slot where
  text := [' ']
  style := Style.default.withBg bg
  continuation := false

end Slot

/-
  The state of a terminal.  `pendingWrap` holds while the next
  character goes to the next line; `last` is where marks
  without a width are added.  Slots outside the screen do not
  matter.
-/
structure Screen where
  rows : Nat
  cols : Nat
  slots : Nat → Nat → Slot
  row : Nat
  col : Nat
  pendingWrap : Bool
  style : Style
  visible : Bool
  shape : CursorShape
  last : Option Position

namespace Screen

/- A blank screen with the cursor in its corner. -/
def blank (rows cols : Nat) : Screen where
  rows := rows
  cols := cols
  slots := fun _ _ => .blank .default
  row := 0
  col := 0
  pendingWrap := false
  style := .default
  visible := true
  shape := .default
  last := none

/- Where the cursor stands. -/
def position (s : Screen) : Position :=
  ⟨s.row, s.col⟩

------------------------------------------------------------
-- Slots
------------------------------------------------------------

/- The screen with one slot changed. -/
def setSlot
    (s : Screen)
    (row col : Nat)
    (slot : Slot) : Screen :=
  { s with
    slots := fun r c =>
      if r = row ∧ c = col then slot else s.slots r c }

/- What erasing leaves. -/
def erased (s : Screen) : Slot :=
  .blank s.style.bg

/- Destroy the other half of a wide character at a position. -/
def splitPair
    (s : Screen)
    (row col : Nat) : Screen :=
  let left :=
    if (s.slots row col).continuation && 0 < col then
      s.setSlot row (col - 1) (.blank .default)
    else s
  if col + 1 < s.cols && (s.slots row (col + 1)).continuation then
    left.setSlot row (col + 1) (.blank .default)
  else left

------------------------------------------------------------
-- The Cursor
------------------------------------------------------------

/- Move the cursor to a position, or as near as there is. -/
def moveTo
    (s : Screen)
    (row col : Nat) : Screen :=
  { s with
    row := min row (s.rows - 1)
    col := min col (s.cols - 1)
    pendingWrap := false
    last := none }

/- Go down one line; on the last one, all lines move up. -/
def scroll (s : Screen) : Screen :=
  if s.row + 1 < s.rows then { s with row := s.row + 1 }
  else
    { s with
      slots := fun r c =>
        if r + 1 < s.rows then s.slots (r + 1) c else s.erased }

/- A line feed. -/
def lineFeed (s : Screen) : Screen :=
  scroll { s with pendingWrap := false, last := none }

/- A carriage return. -/
def carriageReturn (s : Screen) : Screen :=
  { s with col := 0, pendingWrap := false, last := none }

/- Go to the start of the next line. -/
def wrap (s : Screen) : Screen :=
  scroll { s with col := 0, pendingWrap := false }

------------------------------------------------------------
-- Erasing
------------------------------------------------------------

/- Erase from the cursor to the end of its line. -/
def eraseLine (s : Screen) : Screen :=
  let split := s.splitPair s.row s.col
  { split with
    slots := fun r c =>
      if r = s.row ∧ s.col ≤ c then s.erased else split.slots r c }

/- Erase the whole screen; the cursor stays. -/
def clear (s : Screen) : Screen :=
  { s with slots := fun _ _ => s.erased }

------------------------------------------------------------
-- Printing
------------------------------------------------------------

/- Add a mark without a width to the last character. -/
def combine
    (s : Screen)
    (c : Char) : Screen :=
  match s.last with
  | none => s
  | some p =>
      let slot := s.slots p.row p.col
      s.setSlot p.row p.col { slot with text := slot.text ++ [c] }

/- Go to the next line if a wide character does not fit. -/
def makeRoom
    (s : Screen)
    (wide : Bool) : Screen :=
  if wide && s.cols ≤ s.col + 1 then
    ((s.splitPair s.row s.col).setSlot s.row s.col s.erased).wrap
  else s

/- Put a character at the cursor and move on. -/
def place
    (s : Screen)
    (c : Char)
    (width : Nat) : Screen :=
  let free := s.splitPair s.row s.col
  let free := if width = 2 then free.splitPair s.row (s.col + 1) else free
  let first := free.setSlot s.row s.col ⟨[c], s.style, false⟩
  let whole :=
    if width = 2 then
      first.setSlot s.row (s.col + 1) ⟨[], s.style, true⟩
    else first
  let next := s.col + width
  { whole with
    col := if s.cols ≤ next then s.cols - 1 else next
    pendingWrap := s.cols ≤ next
    last := some ⟨s.row, s.col⟩ }

/- Show a character. -/
def print
    (s : Screen)
    (c : Char) : Screen :=
  let width := if isControl c then 0 else charWidth c
  if width = 0 then s.combine c
  else
    let ready := if s.pendingWrap then s.wrap else s
    (ready.makeRoom (width = 2)).place c width

/- Show characters one after another. -/
def printAll
    (s : Screen)
    (cs : List Char) : Screen :=
  cs.foldl print s

------------------------------------------------------------
-- Telling Screens Apart
------------------------------------------------------------

/-
  Two screens show the same and go on alike, marks without a
  width apart, which may be added to different characters.
-/
def Agrees (s t : Screen) : Prop :=
  { s with last := none } = { t with last := none }

end Screen

end Redraw
