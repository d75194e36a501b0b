import Redraw.Grid

/-
  Snapshots: a composed screen under a sequence number.
-/

namespace Redraw

/- A screen and its place in the order of submissions. -/
structure Snapshot where
  seq : Nat
  grid : Grid
  deriving DecidableEq

namespace Snapshot

/- An empty screen. -/
def blank (seq rows cols : Nat) : Snapshot :=
  ⟨seq, Grid.blank rows cols⟩

/- The extent of a snapshot. -/
def size (s : Snapshot) : Size :=
  s.grid.size

end Snapshot

end Redraw
