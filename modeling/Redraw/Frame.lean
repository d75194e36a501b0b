import Redraw.Capabilities
import Redraw.Frame.Move
import Redraw.Frame.Transition
import Redraw.Plan

/-
  Frames: a plan as told to a terminal.

  The encoder follows the cursor and the style for one frame
  only.  What a terminal cannot show is replaced before styles
  are compared, so that styles which look the same on it cost
  nothing.

  Key definitions include:
    * `FrameState`
    * `Op.commands`: one step of a plan
    * `Plan.commands`: a whole plan
    * `Plan.encode`: its bytes
-/

namespace Redraw

/- What the encoder believes while it writes a frame. -/
structure FrameState where
  cursor : Option Position
  style : Style
  deriving DecidableEq

namespace Op

/- The commands of a step, and what is believed after them. -/
def commands
    (caps : Capabilities)
    (cols : Nat)
    (st : FrameState) :
    Op → List Command × FrameState
  | .clearScreen =>
      ([.resetStyle, .clearScreen], { st with style := .default })
  | .moveTo target =>
      if st.cursor = some target then ([], st)
      else
        ((Move.best st.cursor target).commands,
          { st with cursor := some target })
  | .setStyle style =>
      let target := caps.adaptStyle style
      ([.setStyle
          (Transition.between st.style target caps.styledUnderline)],
        { st with style := target })
  | .text chars width =>
      let stop (p : Position) : Option Position :=
        if p.col + width < cols then some ⟨p.row, p.col + width⟩
        else none
      ([.text chars], { st with cursor := st.cursor.bind stop })
  | .eraseToEndOfLine => ([.eraseToEndOfLine], st)
  | .showCursor => ([.showCursor], st)
  | .hideCursor => ([.hideCursor], st)
  | .setCursorShape shape => ([.cursorShape shape], st)

end Op

/- The commands of some steps, one after another. -/
def commandsOf
    (caps : Capabilities)
    (cols : Nat)
    (st : FrameState) :
    List Op → List Command
  | [] => []
  | op :: later =>
      let (cs, st') := op.commands caps cols st
      cs ++ commandsOf caps cols st' later

namespace Plan

/- The commands between the marks of a frame. -/
def bodyCommands
    (p : Plan)
    (caps : Capabilities) : List Command :=
  commandsOf caps p.cols ⟨p.origin, .default⟩ p.ops

/- The commands of a plan.  An empty plan has none at all. -/
def commands
    (p : Plan)
    (caps : Capabilities) : List Command :=
  if p.isEmpty then []
  else if caps.synchronizedOutput then
    .beginSync :: (p.bodyCommands caps ++ [.endSync])
  else
    p.bodyCommands caps

/- The bytes of a plan. -/
def encode
    (p : Plan)
    (caps : Capabilities) : List UInt8 :=
  (p.commands caps).flatMap Command.bytes

end Plan

end Redraw
