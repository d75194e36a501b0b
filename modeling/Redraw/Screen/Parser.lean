import Redraw.Screen

/-
  Reading bytes: what a terminal makes of a stream.

  Bytes are characters in UTF-8, controls and sequences.  A
  stream may stop anywhere; what comes later is read as the
  rest of what was begun, and an escape gives up anything that
  was begun.

  Key definitions include:
    * `Action`: something to do to a screen
    * `Parser`, `Parser.step`
    * `Screen.perform`
    * `Receiver.feed`: bytes to a screen
-/

namespace Redraw

------------------------------------------------------------
-- Actions
------------------------------------------------------------

/-
  A control sequence: characters that mark its kind, groups of
  parameters, and the character that ends it.
-/
structure ControlSequence where
  marks : List Char
  groups : List (List Nat)
  final : Char
  deriving DecidableEq, Repr

/- Something to do to a screen. -/
inductive Action
  | print (c : Char)
  | control (byte : Nat)
  | sequence (seq : ControlSequence)
  deriving DecidableEq, Repr

------------------------------------------------------------
-- Parsing
------------------------------------------------------------

/-
  A control sequence so far: its marks, whole groups, the group
  being read and its last number.
-/
structure Partial where
  marks : List Char := []
  groups : List (List Nat) := []
  group : List Nat := []
  number : Nat := 0
  deriving DecidableEq, Repr

/-
  What has been begun: nothing, a character of which some bytes
  are missing, an escape, or a control sequence.
-/
inductive Parser
  | ground
  | character (missing value : Nat)
  | escape
  | sequence (begun : Partial)
  deriving DecidableEq, Repr

namespace Parser

/- The greatest parameter; larger ones are cut. -/
def maxParameter : Nat := 65535

/- What is shown for bytes that are no character. -/
def replacement : Char := Char.ofNat 0xFFFD

/- The action of a whole character. -/
def actionOf (c : Char) : Action :=
  if c.toNat < 0x20 ∨ (0x80 ≤ c.toNat ∧ c.toNat < 0xA0) then
    .control c.toNat
  else .print c

/- A byte with nothing begun before it. -/
def start (b : Nat) : List Action × Parser :=
  if b = 0x1B then ([], .escape)
  else if b < 0x80 then ([actionOf (Char.ofNat b)], .ground)
  else if 0xC2 ≤ b ∧ b ≤ 0xDF then ([], .character 1 (b - 0xC0))
  else if 0xE0 ≤ b ∧ b ≤ 0xEF then ([], .character 2 (b - 0xE0))
  else if 0xF0 ≤ b ∧ b ≤ 0xF4 then ([], .character 3 (b - 0xF0))
  else ([.print replacement], .ground)

/- A byte of a character. -/
def continueCharacter
    (missing value b : Nat) : List Action × Parser :=
  if 0x80 ≤ b ∧ b ≤ 0xBF then
    let value := value * 64 + (b - 0x80)
    if missing ≤ 1 then ([actionOf (Char.ofNat value)], .ground)
    else ([], .character (missing - 1) value)
  else
    let (actions, next) := start b
    (.print replacement :: actions, next)

/- A sequence that is over. -/
def finish
    (p : Partial)
    (final : Nat) : ControlSequence where
  marks := p.marks
  groups := p.groups ++ [p.group ++ [p.number]]
  final := Char.ofNat final

/- A byte of a sequence. -/
def continueSequence
    (p : Partial)
    (b : Nat) : List Action × Parser :=
  if b = 0x1B then ([], .escape)
  else if b < 0x20 then
    ([.control b], if b = 0x18 ∨ b = 0x1A then .ground else .sequence p)
  else if 0x30 ≤ b ∧ b ≤ 0x39 then
    ([], .sequence
      { p with number := min maxParameter (p.number * 10 + (b - 0x30)) })
  else if b = 0x3A then
    ([], .sequence { p with group := p.group ++ [p.number], number := 0 })
  else if b = 0x3B then
    ([], .sequence
      { p with
        groups := p.groups ++ [p.group ++ [p.number]]
        group := []
        number := 0 })
  else if b < 0x40 then
    ([], .sequence { p with marks := p.marks ++ [Char.ofNat b] })
  else if b < 0x7F then ([.sequence (finish p b)], .ground)
  else ([], .sequence p)

/- A byte after an escape; other sequences are passed over. -/
def continueEscape (b : Nat) : List Action × Parser :=
  if b = 0x1B then ([], .escape)
  else if b = 0x5B then ([], .sequence {})
  else if b < 0x20 then ([.control b], .escape)
  else ([], .ground)

/- One byte. -/
def step
    (p : Parser)
    (b : UInt8) : List Action × Parser :=
  match p with
  | .ground => start b.toNat
  | .character missing value => continueCharacter missing value b.toNat
  | .escape => continueEscape b.toNat
  | .sequence begun => continueSequence begun b.toNat

end Parser

------------------------------------------------------------
-- Performing
------------------------------------------------------------

namespace ControlSequence

/- A parameter by its place; a missing one is zero. -/
def parameter
    (seq : ControlSequence)
    (i : Nat) : Nat :=
  (seq.groups.getD i []).headD 0

/- A parameter that counts; zero counts as one. -/
def count
    (seq : ControlSequence)
    (i : Nat) : Nat :=
  max 1 (seq.parameter i)

end ControlSequence

namespace Screen

/- What a control does. -/
def control
    (s : Screen)
    (byte : Nat) : Screen :=
  if byte = 0x0D then s.carriageReturn
  else if byte = 0x0A ∨ byte = 0x0B ∨ byte = 0x0C then s.lineFeed
  else if byte = 0x08 then s.moveTo s.row (s.col - 1)
  else s

/- Switch a mode on or off. -/
def setMode
    (s : Screen)
    (mode : Nat)
    (on : Bool) : Screen :=
  if mode = 25 then { s with visible := on } else s

/- What a sequence without marks does. -/
def plainSequence
    (s : Screen)
    (seq : ControlSequence) : Screen :=
  let n := seq.count 0
  match seq.final with
  | 'H' => s.moveTo (n - 1) (seq.count 1 - 1)
  | 'f' => s.moveTo (n - 1) (seq.count 1 - 1)
  | 'G' => s.moveTo s.row (n - 1)
  | 'A' => s.moveTo (s.row - n) s.col
  | 'B' => s.moveTo (s.row + n) s.col
  | 'C' => s.moveTo s.row (s.col + n)
  | 'D' => s.moveTo s.row (s.col - n)
  | 'J' => if seq.parameter 0 = 2 then s.clear else s
  | 'K' => if seq.parameter 0 = 0 then s.eraseLine else s
  | 'm' =>
      { s with style := (Rendition.read? seq.groups s.style).getD s.style }
  | _ => s

/-
  What a sequence does.  Only what a frame can hold is known;
  anything else is passed over.
-/
def runSequence
    (s : Screen)
    (seq : ControlSequence) : Screen :=
  if seq.marks = [] then s.plainSequence seq
  else if seq.marks = ['?'] ∧ (seq.final = 'h' ∨ seq.final = 'l') then
    seq.groups.foldl
      (fun s g => s.setMode (g.headD 0) (seq.final = 'h')) s
  else if seq.marks = [' '] ∧ seq.final = 'q' then
    { s with shape := .ofParam (seq.parameter 0) }
  else s

/- Do one thing. -/
def perform
    (s : Screen) :
    Action → Screen
  | .print c => s.print c
  | .control b => s.control b
  | .sequence seq => s.runSequence seq

end Screen

------------------------------------------------------------
-- Receiving
------------------------------------------------------------

/- A terminal: a parser in front of a screen. -/
structure Receiver where
  parser : Parser := .ground
  screen : Screen

namespace Receiver

/- Take one byte. -/
def take
    (r : Receiver)
    (b : UInt8) : Receiver :=
  let (actions, parser) := r.parser.step b
  ⟨parser, actions.foldl Screen.perform r.screen⟩

/- Take bytes one after another. -/
def feed
    (r : Receiver)
    (bytes : List UInt8) : Receiver :=
  bytes.foldl take r

end Receiver

end Redraw
