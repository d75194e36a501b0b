import Redraw.Proofs.Frame.Encoding

/-
  Meaning: what the bytes of a plan do, whoever made the plan.

  A plan names every position and every style in full.  Its
  bytes leave out what the encoder believes of the terminal
  anyway, so they mean the same only as long as the beliefs are
  true.  They are true from the start on any screen where the
  plan may begin.

  Key definitions include:
    * `Plan.StartsOn`: screens where a plan may begin

  Main declarations:
    * `Plan.screen_of_encode`
-/

namespace Redraw

namespace Plan

/-
  A screen where a plan may begin.  It has the plan's extent
  and the default style.  If the plan has an origin, the cursor
  stands there and no wrap is pending; if not, the cursor may
  be anywhere on the screen.
-/
structure StartsOn
    (p : Plan)
    (s : Screen) : Prop where
  extent : s.extent = ⟨p.rows, p.cols⟩
  row_lt : s.row < s.rows
  col_lt : s.col < s.cols
  style : s.style = .default
  origin :
    ∀ q, p.origin = some q →
      s.position = q ∧ s.pendingWrap = false

/- The encoder begins with beliefs that are true there. -/
theorem StartsOn.describes
    {p : Plan}
    {s : Screen}
    (h : p.StartsOn s) :
    FrameState.Describes ⟨p.origin, .default⟩ s where
  style := h.style
  cursor := h.origin
  inside := by
    intro q hq
    rw [← (h.origin q hq).1]
    exact ⟨h.row_lt, h.col_lt⟩

/-
  The bytes of a plan whose steps fit leave the terminal as the
  steps themselves do, one after another, and leave nothing
  begun.
-/
theorem screen_of_encode
    (caps : Capabilities)
    {p : Plan}
    (hRows : p.rows < 2 ^ 16)
    (hCols : p.cols < 2 ^ 16)
    (hFits : ∀ op ∈ p.ops, op.Fits p.rows p.cols)
    {s : Screen}
    (hStarts : p.StartsOn s) :
    let r := (Receiver.mk .ground s).feed (p.encode caps)
    r.parser = .ground ∧
      r.screen.Agrees (s.executeAll caps p.ops) := by
  intro r
  have hHeight : s.rows = p.rows := congrArg Size.rows hStarts.extent
  have hWidth : s.cols = p.cols := congrArg Size.cols hStarts.extent
  have hReadable :
      s.rows ≤ Parser.maxParameter ∧ s.cols ≤ Parser.maxParameter := by
    unfold Parser.maxParameter
    omega
  rw [← hHeight, ← hWidth] at hFits
  rcases feed_encode caps hStarts.describes hWidth.symm
      hReadable.1 hReadable.2 hFits with
    ⟨t, hFeed, hAgrees⟩
  rw [show r = ⟨.ground, t⟩ from hFeed]
  exact ⟨rfl, hAgrees⟩

/-
  Steps that no comparison of screens makes: a text up to the
  margin, one that wraps, a move back to where the cursor is,
  and a style that the terminal cannot show.
-/
def handmade : Plan where
  ops :=
    [.moveTo ⟨0, 2⟩, .text ['a', 'b'] 2, .text ['世'] 2,
      .setStyle
        { Style.default with
          underline := .curly
          fg := .direct ⟨1, 2, 3⟩ },
      .moveTo ⟨0, 2⟩, .moveTo ⟨0, 2⟩, .eraseToEndOfLine]
  rows := 2
  cols := 4
  origin := some ⟨0, 2⟩
  cursor := {}
  after := .unknown
  stats := {}

theorem screen_of_encode_handmade :
    let s := (Screen.blank 2 4).moveTo 0 2
    ((Receiver.mk .ground s).feed
        (handmade.encode .minimal)).screen.Agrees
      (s.executeAll .minimal handmade.ops) := by
  intro s
  have hStarts : handmade.StartsOn s :=
    ⟨rfl, by decide, by decide, rfl, by
      intro q hq
      cases hq
      exact ⟨rfl, rfl⟩⟩
  have hFits :
      ∀ op ∈ handmade.ops, op.Fits handmade.rows handmade.cols := by
    simp only [handmade, List.forall_mem_cons, Op.Fits,
      List.not_mem_nil, false_imp_iff, implies_true, and_true,
      true_and]
    exact
      ⟨by decide,
        ⟨by decide, by decide +kernel, by decide, by decide +kernel⟩,
        ⟨by decide, by decide +kernel, by decide, by decide +kernel⟩,
        by decide, by decide⟩
  exact
    (screen_of_encode .minimal (by decide) (by decide) hFits
      hStarts).2

end Plan

end Redraw
