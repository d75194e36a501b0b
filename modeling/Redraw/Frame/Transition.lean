import Redraw.Escape.Sgr

/-
  Transitions: from one style to another in one sequence.

  A transition says only what changes, or resets everything and
  says the whole new style, whichever is shorter.

  Key definitions include:
    * `Transition.incremental`
    * `Transition.fromReset`
    * `Transition.between`
-/

namespace Redraw

namespace Transition

------------------------------------------------------------
-- Attributes
------------------------------------------------------------

/-
  Change two attributes that one number turns off together.
  What stays on is turned on again after it.
-/
def pushPair
    (a b : Attr)
    (off : Nat)
    (source target : Attrs)
    (sgr : Sgr) : Sgr :=
  let inPair := fun x => x = a || x = b
  let removed := fun x => source.has x && !target.has x
  let added := fun x => target.has x && !source.has x
  if removed a || removed b then
    (sgr.push off).pushAttrs
      (.filter fun x => inPair x && target.has x)
  else
    sgr.pushAttrs (.filter fun x => inPair x && added x)

/- Change an attribute that has a number of its own. -/
def pushToggle
    (a : Attr)
    (off : Nat)
    (source target : Attrs)
    (sgr : Sgr) : Sgr :=
  if source.has a && !target.has a then sgr.push off
  else if target.has a && !source.has a then
    sgr.push (Sgr.attrCode a)
  else sgr

/- Change the attributes that differ. -/
def pushAttrs
    (source target : Attrs)
    (sgr : Sgr) : Sgr :=
  sgr
    |> pushPair .bold .faint 22 source target
    |> pushPair .blink .rapidBlink 25 source target
    |> pushToggle .italic 23 source target
    |> pushToggle .reverse 27 source target
    |> pushToggle .invisible 28 source target
    |> pushToggle .strikethrough 29 source target
    |> pushToggle .overline 55 source target

------------------------------------------------------------
-- Styles
------------------------------------------------------------

/- Say only what differs. -/
def incremental
    (source target : Style)
    (styled : Bool) : Sgr :=
  let sgr := pushAttrs source.attrs target.attrs .empty
  let sgr :=
    if source.underline = target.underline then sgr
    else sgr.pushUnderline target.underline styled
  let sgr :=
    if source.fg = target.fg then sgr else sgr.pushFg target.fg
  let sgr :=
    if source.bg = target.bg then sgr else sgr.pushBg target.bg
  if source.underlineColor = target.underlineColor then sgr
  else sgr.pushUnderlineColor target.underlineColor

/- Reset everything and say the whole style. -/
def fromReset
    (target : Style)
    (styled : Bool) : Sgr :=
  let sgr := (Sgr.empty.push 0).pushAttrs target.attrs
  let sgr :=
    if target.underline.isUnderlined
    then sgr.pushUnderline target.underline styled
    else sgr
  let sgr :=
    if target.fg.isDefault then sgr else sgr.pushFg target.fg
  let sgr :=
    if target.bg.isDefault then sgr else sgr.pushBg target.bg
  if target.underlineColor.isDefault then sgr
  else sgr.pushUnderlineColor target.underlineColor

/- The shorter way from one style to another. -/
def between
    (source target : Style)
    (styled : Bool) : Sgr :=
  if source = target then .empty
  else
    let inc := incremental source target styled
    let reset := fromReset target styled
    if reset.length < inc.length then reset else inc

end Transition

end Redraw
