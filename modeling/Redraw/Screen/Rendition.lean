import Redraw.Style

/-
  Reading style changes: what the parameters of an `SGR`
  sequence do to the style in force.

  Parameters come in groups, one for each part between
  semicolons; the parts of a group stand between colons.  A
  color of the palette or of 24 bits takes several groups, or
  is one group with all its parts.

  Key definitions include:
    * `Rendition.extendedColor?`
    * `Rendition.one?`: what one parameter does
    * `Rendition.read?`: what all of them do
-/

namespace Redraw

namespace Rendition

------------------------------------------------------------
-- Colors
------------------------------------------------------------

/- A number as a byte; larger ones are cut. -/
def toByte (n : Nat) : UInt8 :=
  UInt8.ofNat (min n 255)

/- A color from its three channels. -/
def direct (r g b : Nat) : Color :=
  .direct ⟨toByte r, toByte g, toByte b⟩

/- A color within one group, the parts after its kind. -/
def colorParts? : List Nat → Option Color
  | 5 :: n :: _ => some (.indexed (toByte n))
  | 2 :: parts =>
      match parts.reverse with
      | b :: g :: r :: _ => some (direct r g b)
      | _ => none
  | _ => none

/- A color in the groups after its kind, and the groups left. -/
def colorGroups? :
    List (List Nat) → Option (Color × List (List Nat))
  | (5 :: _) :: (n :: _) :: rest => some (.indexed (toByte n), rest)
  | (2 :: _) :: (r :: _) :: (g :: _) :: (b :: _) :: rest =>
      some (direct r g b, rest)
  | _ => none

/-
  The color that a group and those after it name, and the
  groups left.
-/
def extendedColor?
    (parts : List Nat)
    (rest : List (List Nat)) :
    Option (Color × List (List Nat)) :=
  if parts.isEmpty then colorGroups? rest
  else (colorParts? parts).map fun c => (c, rest)

------------------------------------------------------------
-- Single Parameters
------------------------------------------------------------

/- The underline of a sub-parameter. -/
def underlineOf (n : Nat) : Underline :=
  if n = 0 then .none
  else if n = 2 then .double
  else if n = 3 then .curly
  else if n = 4 then .dotted
  else if n = 5 then .dashed
  else .straight

/- A style with an attribute on or off. -/
def withAttr
    (s : Style)
    (a : Attr)
    (on : Bool) : Style :=
  { s with attrs := s.attrs.set a on }

/- A system color. -/
def system (n : Nat) : Color :=
  .indexed (UInt8.ofNat n)

/-
  What a parameter that stands for itself does.  Some numbers
  turn two attributes off.
-/
def one?
    (code : Nat)
    (parts : List Nat)
    (s : Style) : Option Style :=
  match code with
  | 0 => some .default
  | 1 => some (withAttr s .bold true)
  | 2 => some (withAttr s .faint true)
  | 3 => some (withAttr s .italic true)
  | 4 => some { s with underline := parts.head?.elim .straight underlineOf }
  | 5 => some (withAttr s .blink true)
  | 6 => some (withAttr s .rapidBlink true)
  | 7 => some (withAttr s .reverse true)
  | 8 => some (withAttr s .invisible true)
  | 9 => some (withAttr s .strikethrough true)
  | 21 => some { s with underline := .double }
  | 22 => some (withAttr (withAttr s .bold false) .faint false)
  | 23 => some (withAttr s .italic false)
  | 24 => some { s with underline := .none }
  | 25 => some (withAttr (withAttr s .blink false) .rapidBlink false)
  | 27 => some (withAttr s .reverse false)
  | 28 => some (withAttr s .invisible false)
  | 29 => some (withAttr s .strikethrough false)
  | 39 => some { s with fg := .default }
  | 49 => some { s with bg := .default }
  | 53 => some (withAttr s .overline true)
  | 55 => some (withAttr s .overline false)
  | 59 => some { s with underlineColor := .default }
  | n =>
      if 30 ≤ n ∧ n ≤ 37 then some { s with fg := system (n - 30) }
      else if 40 ≤ n ∧ n ≤ 47 then some { s with bg := system (n - 40) }
      else if 90 ≤ n ∧ n ≤ 97 then some { s with fg := system (n - 82) }
      else if 100 ≤ n ∧ n ≤ 107 then
        some { s with bg := system (n - 92) }
      else none

/- A style with the color of a kind: 38, 48 or 58. -/
def withColor
    (s : Style)
    (kind : Nat)
    (c : Color) : Style :=
  if kind = 38 then { s with fg := c }
  else if kind = 48 then { s with bg := c }
  else { s with underlineColor := c }

------------------------------------------------------------
-- All Parameters
------------------------------------------------------------

/-
  The style after all parameters, if every one of them is
  understood.  The first argument bounds their number.
-/
def readFrom? :
    Nat → List (List Nat) → Style → Option Style
  | _, [], s => some s
  | 0, _ :: _, _ => none
  | n + 1, group :: rest, s =>
      let code := group.headD 0
      if code = 38 ∨ code = 48 ∨ code = 58 then
        (extendedColor? group.tail rest).bind fun (c, rest) =>
          readFrom? n rest (withColor s code c)
      else (one? code group.tail s).bind (readFrom? n rest)

/- The style after the groups of a sequence; none is a reset. -/
def read?
    (groups : List (List Nat))
    (s : Style) : Option Style :=
  if groups.isEmpty then some .default
  else readFrom? groups.length groups s

end Rendition

end Redraw
