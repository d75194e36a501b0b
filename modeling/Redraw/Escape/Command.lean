import Redraw.Cursor
import Redraw.Escape.Sgr

/-
  Commands: what a terminal is told, one escape sequence or one
  stretch of text at a time.

  Positions count from zero here and from one on the wire.  A
  parameter that a terminal would assume anyway is left out.

  Key definitions include:
    * `Command`
    * `Command.chars`: a command as written
    * `Command.bytes`: in UTF-8
    * `cursorToLength`, `cursorColumnLength`, `relativeLength`
-/

namespace Redraw

/- One thing to tell a terminal. -/
inductive Command
  | cursorTo (row col : Nat)
  | cursorColumn (col : Nat)
  | cursorForward (n : Nat)
  | cursorBack (n : Nat)
  | cursorUp (n : Nat)
  | cursorDown (n : Nat)
  | carriageReturn
  | lineFeed
  | hideCursor
  | showCursor
  | cursorShape (shape : CursorShape)
  | clearScreen
  | eraseToEndOfLine
  | resetStyle
  | setStyle (sgr : Sgr)
  | beginSync
  | endSync
  | enterAlternate
  | leaveAlternate
  | text (chars : List Char)
  deriving DecidableEq

namespace Command

/- A control sequence. -/
def sequence
    (params : List Char)
    (final : Char) : List Char :=
  '\x1b' :: '[' :: (params ++ [final])

/- A sequence that sets or clears a private mode. -/
def privateMode
    (mode : List Char)
    (final : Char) : List Char :=
  sequence ('?' :: mode) final

/- A move by `n` cells; a single cell is assumed. -/
def relative
    (n : Nat)
    (final : Char) : List Char :=
  sequence (if n = 1 then [] else decimal n) final

/- An absolute move; the first row and column are assumed. -/
def absolute (row col : Nat) : List Char :=
  if col = 0 then
    sequence (if row = 0 then [] else decimal (row + 1)) 'H'
  else
    sequence (decimal (row + 1) ++ ';' :: decimal (col + 1)) 'H'

/- A command as written. -/
def chars : Command → List Char
  | .cursorTo row col => absolute row col
  | .cursorColumn col =>
      sequence (if col = 0 then [] else decimal (col + 1)) 'G'
  | .cursorForward n => relative n 'C'
  | .cursorBack n => relative n 'D'
  | .cursorUp n => relative n 'A'
  | .cursorDown n => relative n 'B'
  | .carriageReturn => ['\r']
  | .lineFeed => ['\n']
  | .hideCursor => privateMode ['2', '5'] 'l'
  | .showCursor => privateMode ['2', '5'] 'h'
  | .cursorShape shape =>
      sequence (decimal shape.param ++ [' ']) 'q'
  | .clearScreen => sequence ['2'] 'J'
  | .eraseToEndOfLine => sequence [] 'K'
  | .resetStyle => sequence ['0'] 'm'
  | .setStyle sgr => sgr.chars
  | .beginSync => privateMode ['2', '0', '2', '6'] 'h'
  | .endSync => privateMode ['2', '0', '2', '6'] 'l'
  | .enterAlternate => privateMode ['1', '0', '4', '9'] 'h'
  | .leaveAlternate => privateMode ['1', '0', '4', '9'] 'l'
  | .text chars => chars

/- A command in UTF-8. -/
def bytes (c : Command) : List UInt8 :=
  c.chars.flatMap String.utf8EncodeChar

end Command

------------------------------------------------------------
-- Predicted Lengths
------------------------------------------------------------

/- The length of an absolute move. -/
def cursorToLength (row col : Nat) : Nat :=
  if col = 0 then
    if row = 0 then 3 else 3 + decimalLength (row + 1)
  else
    4 + decimalLength (row + 1) + decimalLength (col + 1)

/- The length of a move to a column. -/
def cursorColumnLength (col : Nat) : Nat :=
  if col = 0 then 3 else 3 + decimalLength (col + 1)

/- The length of a move by `n` cells. -/
def relativeLength (n : Nat) : Nat :=
  if n = 1 then 3 else 3 + decimalLength n

end Redraw
