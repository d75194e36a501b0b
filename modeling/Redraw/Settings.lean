import Redraw.Capabilities
import Redraw.Toml.Reader

/-
  Settings of the drawing thread, read from a document.

  A document names only what it changes.  Keys that are not
  known are passed over; a known key with a value of the wrong
  kind spoils the whole document.

  Key definitions include:
    * `Settings`
    * `Settings.ofEntries?`, `Settings.read?`
-/

namespace Redraw

------------------------------------------------------------
-- Durations
------------------------------------------------------------

/- A time span in whole seconds and what is left of one. -/
structure Duration where
  seconds : Nat
  nanoseconds : Nat
  deriving DecidableEq, Repr

/- A time span of so many milliseconds. -/
def Duration.ofMilliseconds (ms : Nat) : Duration where
  seconds := ms / 1000
  nanoseconds := ms % 1000 * 1000000

------------------------------------------------------------
-- Values of the Wanted Kind
------------------------------------------------------------

namespace Toml

/- The value of a key, or what holds when it is missing. -/
def Entries.get?
    {α : Type}
    (es : Entries)
    (key : Key)
    (absent : α)
    (read : Value → Option α) : Option α :=
  match es.lookup key with
  | none => some absent
  | some v => read v

namespace Value

/- A number that is not negative. -/
def natural? : Value → Option Nat
  | integer (.ofNat n) => some n
  | _ => none

/- A truth value. -/
def boolean? : Value → Option Bool
  | boolean b => some b
  | _ => none

/- A text. -/
def text? : Value → Option (List Char)
  | text chars => some chars
  | _ => none

end Value

end Toml

------------------------------------------------------------
-- Capabilities
------------------------------------------------------------

namespace ColorDepth

/- The name of a color depth in a document. -/
def name : ColorDepth → List Char
  | trueColor => "true-color".toList
  | indexed256 => "indexed256".toList
  | ansi16 => "ansi16".toList

/- The color depth of a name. -/
def ofName? (s : List Char) : Option ColorDepth :=
  [trueColor, indexed256, ansi16].find? (·.name = s)

/-
  A color depth by its name, or by a table whose only key is
  the name and holds an empty list or table.
-/
def ofValue? : Toml.Value → Option ColorDepth
  | .text s => ofName? s
  | .table _ [(s, v)] =>
      if v.isEmptyCollection then ofName? s else none
  | _ => none

end ColorDepth

namespace Capabilities

/- The key of the color depth. -/
def colorDepthKey : Toml.Key := "color_depth".toList

/- The key of styled underlines. -/
def styledUnderlineKey : Toml.Key := "styled_underline".toList

/- The key of frames shown as a whole. -/
def synchronizedOutputKey : Toml.Key :=
  "synchronized_output".toList

/- Capabilities from a table; missing keys mean the best. -/
def ofEntries? (es : Toml.Entries) : Option Capabilities := do
  let depth ← es.get? colorDepthKey .trueColor ColorDepth.ofValue?
  let styled ← es.get? styledUnderlineKey true Toml.Value.boolean?
  let sync ← es.get? synchronizedOutputKey true Toml.Value.boolean?
  return ⟨depth, styled, sync⟩

/- Capabilities from a list, in order; members may be missing. -/
def ofItems? (vs : List Toml.Value) : Option Capabilities := do
  let depth ← vs[0]?.elim (some .trueColor) ColorDepth.ofValue?
  let styled ← vs[1]?.elim (some true) Toml.Value.boolean?
  let sync ← vs[2]?.elim (some true) Toml.Value.boolean?
  return ⟨depth, styled, sync⟩

/-
  Capabilities from a table or a list.  A date counts as a
  table without known keys.
-/
def ofValue? : Toml.Value → Option Capabilities
  | .table _ es => ofEntries? es
  | .moment _ => some {}
  | v => v.items?.bind ofItems?

end Capabilities

------------------------------------------------------------
-- Settings
------------------------------------------------------------

/-
  Settings of the drawing thread: the least time between the
  starts of two frames, and how long an end is waited for, both
  in milliseconds, and what the terminal can do.
-/
structure Settings where
  frameInterval : Nat := 8
  shutdownTimeout : Nat := 500
  capabilities : Capabilities := {}
  deriving DecidableEq, Repr

namespace Settings

/- The key of the time between frames. -/
def frameIntervalKey : Toml.Key :=
  "min_frame_interval_ms".toList

/- The key of the time that an end is waited for. -/
def shutdownTimeoutKey : Toml.Key :=
  "shutdown_timeout_ms".toList

/- The key of what the terminal can do. -/
def capabilitiesKey : Toml.Key :=
  "capabilities".toList

/- Settings from a table; missing keys take their defaults. -/
def ofEntries? (es : Toml.Entries) : Option Settings := do
  let interval ← es.get? frameIntervalKey 8 Toml.Value.natural?
  let timeout ← es.get? shutdownTimeoutKey 500 Toml.Value.natural?
  let caps ← es.get? capabilitiesKey {} Capabilities.ofValue?
  return ⟨interval, timeout, caps⟩

/- Settings from a document. -/
def read? (document : List Char) : Option Settings :=
  (Toml.read document).bind ofEntries?

/- The settings for another terminal. -/
def withCapabilities
    (s : Settings)
    (caps : Capabilities) : Settings :=
  { s with capabilities := caps }

end Settings

end Redraw
