import Redraw.Proofs.Frame.Lengths
import Redraw.Proofs.Frame.Phrases

/-
  Exactness: a style change is one sequence that a terminal
  reads to its end, and it is never longer than it has to be.

  A transition says phrases of the common rules only, so that
  a terminal which knows no others understands it.  There is
  nothing to say between equal styles, and something between
  any two others, since nothing said would leave the old style.

  Key definitions include:
    * `Sgr.IsListed`: a style change of the common rules
    * `Sgr.Turns`: a style change that is read exactly

  Main declarations:
    * `Transition.between_eq_empty_iff`
    * `Transition.length_between_le`
    * `Transition.exact_between`
-/

namespace Redraw

namespace Transition

------------------------------------------------------------
-- When There Is Nothing to Say
------------------------------------------------------------

/- What leads from a style to another one says something. -/
theorem isEmpty_of_leads
    {sgr : Sgr}
    {source target : Style}
    (h : sgr.Leads source target)
    (hDiffer : source ≠ target) :
    sgr.isEmpty = false := by
  rw [← Bool.not_eq_true]
  intro hEmpty
  have hNil : sgr.params = [] := List.isEmpty_iff.mp hEmpty
  have hRead := h.leads.read
  rw [Sgr.groups, hNil] at hRead
  exact hDiffer (Option.some.inj hRead)

/- Nothing is said exactly between equal styles. -/
theorem between_eq_empty_iff
    {source target : Style}
    {styled : Bool}
    (hPlain :
      styled = false →
        target.underline = .none ∨ target.underline = .straight) :
    (between source target styled).isEmpty = true ↔
      source = target := by
  constructor
  · intro hEmpty
    by_contra hDiffer
    have hSome :=
      isEmpty_of_leads (leads_between source hPlain) hDiffer
    rw [hEmpty] at hSome
    cases hSome
  · intro hSame
    rw [between, if_pos hSame]
    rfl

------------------------------------------------------------
-- The Shorter Way
------------------------------------------------------------

/- A transition is as short as either way to say it. -/
theorem length_between_le
    (source target : Style)
    (styled : Bool) :
    (between source target styled).length ≤
        (incremental source target styled).length ∧
      (between source target styled).length ≤
        (fromReset target styled).length := by
  unfold between
  split
  · exact ⟨Nat.zero_le _, Nat.zero_le _⟩
  · simp only
    split
    · rename_i hShorter
      exact ⟨Nat.le_of_lt hShorter, Nat.le_refl _⟩
    · rename_i hShorter
      exact ⟨Nat.le_refl _, Nat.le_of_not_lt hShorter⟩

end Transition

------------------------------------------------------------
-- Exact Style Changes
------------------------------------------------------------

/- A style change that says phrases of the common rules. -/
def Sgr.IsListed (sgr : Sgr) : Prop :=
  ∃ phrases : List Phrase,
    sgr.groups = phrases.flatMap Phrase.groups ∧
      ∀ ph ∈ phrases, ph.IsListed

theorem Sgr.IsSpoken.isListed
    {caps : Capabilities}
    {sgr : Sgr}
    (h : sgr.IsSpoken caps) :
    sgr.IsListed := by
  rcases h with ⟨phrases, hPhrases, hAll⟩
  exact ⟨phrases, hPhrases, fun ph hph => (hAll ph hph).listed⟩

/-
  A style change that is read exactly: one sequence of common
  phrases, all of which are consumed, after which a screen with
  the one style has the other one and is the same otherwise.
-/
structure Sgr.Turns
    (sgr : Sgr)
    (source target : Style) : Prop where
  written :
    sgr.chars = Command.sequence sgr.body 'm' ∧
      ∀ c ∈ sgr.body, Command.IsParameter c
  listed : sgr.IsListed
  parsed :
    Parser.ground.read (Command.setStyle sgr).bytes =
      ([.sequence ⟨[], sgr.groups, 'm'⟩], .ground)
  consumed : Rendition.read? sgr.groups source = some target
  shown :
    ∀ s : Screen, s.style = source →
      (Receiver.mk .ground s).feed (Command.setStyle sgr).bytes =
        ⟨.ground, { s with style := target }⟩

theorem Sgr.chars_of_some
    {sgr : Sgr}
    (hSome : sgr.isEmpty = false) :
    sgr.chars = Command.sequence sgr.body 'm' := by
  simp [Sgr.chars, Command.sequence, hSome]

/- Listed parameters that lead somewhere are read exactly. -/
theorem Sgr.Leads.turns
    {sgr : Sgr}
    {source target : Style}
    (h : sgr.Leads source target)
    (hListed : sgr.IsListed)
    (hDiffer : source ≠ target) :
    sgr.Turns source target where
  written :=
    ⟨Sgr.chars_of_some (Transition.isEmpty_of_leads h hDiffer),
      Command.isParameter_body sgr⟩
  listed := hListed
  parsed :=
    Parser.readChars_sgr .ground h.readable
      (Transition.isEmpty_of_leads h hDiffer)
  consumed := by
    have hSome := Transition.isEmpty_of_leads h hDiffer
    have hGroups : sgr.groups.isEmpty = false := by
      simpa [Sgr.isEmpty, Sgr.groups] using hSome
    rw [Rendition.read?, hGroups]
    exact h.leads.read
  shown := by
    rintro s rfl
    rw [Receiver.feed_bytes s (c := .setStyle sgr) h.readable]
    exact congrArg _ (Screen.restyle_of_leads s h)

namespace Transition

/-
  Between two styles that a terminal can show, nothing is
  written exactly if they are equal.  Otherwise what is written
  is one sequence that is read exactly, and it is as short as
  either way to say it.
-/
theorem exact_between
    (caps : Capabilities)
    (s t : Style) :
    let source := caps.adaptStyle s
    let target := caps.adaptStyle t
    let sgr := between source target caps.styledUnderline
    let size := fun sgr : Sgr => (Command.setStyle sgr).bytes.length
    ((Command.setStyle sgr).bytes = [] ↔ source = target) ∧
      (source ≠ target → sgr.Turns source target) ∧
      size sgr ≤
        size (incremental source target caps.styledUnderline) ∧
      size sgr ≤ size (fromReset target caps.styledUnderline) := by
  intro source target sgr size
  have hPlain := caps.underline_adaptStyle t
  have hSpoken : sgr.IsSpoken caps :=
    isSpoken_between (caps.isWithin_adaptStyle s)
      (caps.isWithin_adaptStyle t)
  refine ⟨?_, ?_, ?_⟩
  · rw [← between_eq_empty_iff hPlain, ← List.length_eq_zero_iff,
      Sgr.length_bytes]
    change sgr.length = 0 ↔ sgr.isEmpty = true
    unfold Sgr.length
    split <;> simp_all
  · exact (leads_between source hPlain).turns hSpoken.isListed
  · simp only [size, Sgr.length_bytes]
    exact length_between_le source target caps.styledUnderline

/- From bold to faint it is shorter to start again. -/
example :
    (between { attrs := { bold := true } }
        { attrs := { faint := true } } true).params =
      [.code 0, .code 2] := by
  decide +kernel

end Transition

end Redraw
