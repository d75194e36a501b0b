import Redraw.Color.Octets
import Redraw.Escape.Sgr

/-
  Style changes collected as text.

  Parameters are kept as they will be written: each of them has
  a semicolon before it, unless nothing has been collected yet.
  How long the sequence will be is told from the length of that
  text.  Codes are octets, and one that does not fit into eight
  bits has no result.

  Key definitions include:
    * `Sgr.Push`, `Sgr.collect`
    * `SgrText`, `SgrText.collect?`
    * `SgrText.bytes`, `SgrText.length`
-/

namespace Redraw

------------------------------------------------------------
-- What Is Pushed
------------------------------------------------------------

namespace Sgr

/- A way to add parameters to a style change. -/
inductive Push
  | code (n : UInt8)
  | attrs (attrs : Attrs)
  | underline (u : Underline) (styled : Bool)
  | foreground (c : Color)
  | background (c : Color)
  | underlineColor (c : Color)
  deriving DecidableEq, Repr

/- Add the parameters of one push. -/
def add
    (s : Sgr) :
    Push → Sgr
  | .code n => s.push n.toNat
  | .attrs attrs => s.pushAttrs attrs
  | .underline u styled => s.pushUnderline u styled
  | .foreground c => s.pushFg c
  | .background c => s.pushBg c
  | .underlineColor c => s.pushUnderlineColor c

/- The style change that some pushes make, in order. -/
def collect (pushes : List Push) : Sgr :=
  pushes.foldl add .empty

/- The parameters of one push. -/
def Push.params (p : Push) : List SgrParam :=
  (Sgr.empty.add p).params

end Sgr

------------------------------------------------------------
-- Text
------------------------------------------------------------

/- Parameters as they are written, with what separates them. -/
structure SgrText where
  params : List Char := []
  deriving DecidableEq, Repr

namespace SgrText

/- Whether nothing has been collected. -/
def isEmpty (t : SgrText) : Bool :=
  t.params.isEmpty

/- Separate what has been collected from what follows. -/
def separated (t : SgrText) : SgrText :=
  if t.isEmpty then t else ⟨t.params ++ [';']⟩

/- Add text after a separator. -/
def write
    (t : SgrText)
    (text : List Char) : SgrText :=
  ⟨t.separated.params ++ text⟩

/- Add a plain parameter. -/
def push
    (t : SgrText)
    (n : UInt8) : SgrText :=
  t.write (decimal n.toNat)

/- Add a parameter with a sub-parameter. -/
def pushSub
    (t : SgrText)
    (n m : UInt8) : SgrText :=
  t.write (decimal n.toNat ++ ':' :: decimal m.toNat)

/- Attributes with the codes that turn them on. -/
def attrCodes : List (Attr × UInt8) :=
  [(.bold, 1), (.faint, 2), (.italic, 3), (.blink, 5),
    (.rapidBlink, 6), (.reverse, 7), (.invisible, 8),
    (.strikethrough, 9), (.overline, 53)]

/- Turn on every attribute of a set. -/
def pushAttrs
    (t : SgrText)
    (attrs : Attrs) : SgrText :=
  attrCodes.foldl
    (fun t (a, code) => if attrs.has a then t.push code else t) t

/- Set the underline. -/
def pushUnderline
    (t : SgrText)
    (u : Underline)
    (styled : Bool) : SgrText :=
  match u with
  | .none => t.push 24
  | .straight => t.push 4
  | _ => if styled then t.pushSub 4 (.ofNat u.param) else t.push 4

/- Three codes that name a palette entry. -/
def indexedText (extended i : UInt8) : List Char :=
  decimal extended.toNat ++ [';', '5', ';'] ++ decimal i.toNat

/- Five codes that name a color by its channels. -/
def directText
    (extended : UInt8)
    (rgb : Rgb) : List Char :=
  decimal extended.toNat ++ [';', '2', ';'] ++ decimal rgb.red.toNat
    ++ ';' :: decimal rgb.green.toNat
    ++ ';' :: decimal rgb.blue.toNat

/- The text of a color, if its codes fit into eight bits. -/
def colorText?
    (c : Color)
    (base bright extended : UInt8) : Option (List Char) :=
  match c with
  | .default => do
      return decimal (← Octet.add? extended 1).toNat
  | .indexed i =>
      if i < 8 then do
        return decimal (← Octet.add? base i).toNat
      else if i < 16 then do
        return decimal
          (← Octet.sub? (← Octet.add? bright i) 8).toNat
      else
        some (indexedText extended i)
  | .direct rgb => some (directText extended rgb)

/- The text of the color of an underline. -/
def underlineColorText : Color → List Char
  | .default => ['5', '9']
  | .indexed i => indexedText 58 i
  | .direct rgb => directText 58 rgb

/- Add the parameters of one push, if its codes fit. -/
def add?
    (t : SgrText) :
    Sgr.Push → Option SgrText
  | .code n => some (t.push n)
  | .attrs attrs => some (t.pushAttrs attrs)
  | .underline u styled => some (t.pushUnderline u styled)
  | .foreground c => (colorText? c 30 90 38).map t.write
  | .background c => (colorText? c 40 100 48).map t.write
  | .underlineColor c => some (t.write (underlineColorText c))

/- The text that some pushes make, in order. -/
def collect? (pushes : List Sgr.Push) : Option SgrText :=
  pushes.foldlM add? {}

------------------------------------------------------------
-- Writing
------------------------------------------------------------

/- The sequence; nothing if nothing has been collected. -/
def chars (t : SgrText) : List Char :=
  if t.isEmpty then []
  else '\x1b' :: '[' :: (t.params ++ ['m'])

/- The sequence in UTF-8. -/
def bytes (t : SgrText) : List UInt8 :=
  t.chars.flatMap String.utf8EncodeChar

/- The length that the sequence is said to have. -/
def length (t : SgrText) : Nat :=
  if t.isEmpty then 0
  else (t.params.map Char.utf8Size).foldr (· + ·) 0 + 3

end SgrText

end Redraw
