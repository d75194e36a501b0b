import Redraw.Escape.Decimal
import Redraw.Settings

/-
  Writing settings as a document.

  A document may hold any of the keys, each with its value; a
  table without keys is left out.  Numbers have to fit in a
  signed word of 64 bits.

  Key definitions include:
    * `Setting`
    * `Settings.document`: the document of chosen keys
    * `Settings.write?`: the document of all keys
-/

namespace Redraw

/- A key of the settings. -/
inductive Setting
  | frameInterval
  | shutdownTimeout
  | colorDepth
  | styledUnderline
  | synchronizedOutput
  deriving DecidableEq, Repr

namespace Setting

/- Keys at the top of a document. -/
def top : List Setting :=
  [frameInterval, shutdownTimeout]

/- Keys of the table of capabilities. -/
def nested : List Setting :=
  [colorDepth, styledUnderline, synchronizedOutput]

/- A key as it is written. -/
def key : Setting → Toml.Key
  | frameInterval => Settings.frameIntervalKey
  | shutdownTimeout => Settings.shutdownTimeoutKey
  | colorDepth => Capabilities.colorDepthKey
  | styledUnderline => Capabilities.styledUnderlineKey
  | synchronizedOutput => Capabilities.synchronizedOutputKey

end Setting

namespace Settings

/- A truth value as it is written. -/
def truth (b : Bool) : List Char :=
  if b then "true".toList else "false".toList

/- The value of a key as it is written. -/
def valueText
    (s : Settings) :
    Setting → List Char
  | .frameInterval => decimal s.frameInterval
  | .shutdownTimeout => decimal s.shutdownTimeout
  | .colorDepth => '"' :: s.capabilities.colorDepth.name ++ ['"']
  | .styledUnderline => truth s.capabilities.styledUnderline
  | .synchronizedOutput => truth s.capabilities.synchronizedOutput

/- The line of a key. -/
def line
    (s : Settings)
    (k : Setting) : List Char :=
  k.key ++ " = ".toList ++ s.valueText k ++ ['\n']

/- The header of the table of capabilities. -/
def header : List Char :=
  '[' :: capabilitiesKey ++ [']', '\n']

/- The document with the chosen keys. -/
def document
    (s : Settings)
    (chosen : Setting → Bool) : List Char :=
  let top := (Setting.top.filter chosen).flatMap s.line
  let nested := (Setting.nested.filter chosen).flatMap s.line
  let gap := if top.isEmpty then [] else ['\n']
  top ++ (if nested.isEmpty then [] else gap ++ header ++ nested)

/- The greatest number that can be written. -/
def numberLimit : Nat := 9223372036854775807

/- Whether the numbers can be written. -/
def isWritable (s : Settings) : Bool :=
  s.frameInterval ≤ numberLimit && s.shutdownTimeout ≤ numberLimit

/- The document with all keys. -/
def write? (s : Settings) : Option (List Char) :=
  if s.isWritable then some (s.document fun _ => true) else none

end Settings

end Redraw
