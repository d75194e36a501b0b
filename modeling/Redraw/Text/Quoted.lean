import Redraw.Text.Hex
import Redraw.Text.Marks
import Redraw.Text.Unprintable

/-
  Text in quotes, for messages meant for developers.

  Quotes, backslashes and the usual controls are written as
  two-character escapes.  Marks that would attach to their
  neighbour and characters that cannot be seen are spelled
  out by number.
-/

namespace Redraw

/- Whether a character is spelled out by number. -/
def needsNumber (c : Char) : Bool :=
  CodeSet.graphemeExtend.contains c || CodeSet.unprintable.contains c

/- A character inside quotes. -/
def quoteChar (c : Char) : List Char :=
  if c = '\x00' then ['\\', '0']
  else if c = '\t' then ['\\', 't']
  else if c = '\r' then ['\\', 'r']
  else if c = '\n' then ['\\', 'n']
  else if c = '"' then ['\\', '"']
  else if c = '\\' then ['\\', '\\']
  else if needsNumber c then
    ['\\', 'u', '\x7b'] ++ hexDigits c.toNat ++ ['\x7d']
  else [c]

/- A text in quotes. -/
def quoted (text : List Char) : String :=
  String.ofList ('"' :: (text.flatMap quoteChar ++ ['"']))

end Redraw
