import Redraw.Proofs.Thread.Watching

/-
  Resting: a thread that is let work comes to rest.

  It finishes the snapshot under way and picks one more, if there
  is one; then nothing is left in the mailbox, and it waits or
  has ended.  That takes it twelve steps, and one to look.

  Key definitions include:
    * `Exchange.Rests`: a step would change nothing
    * `Exchange.effort`: a bound on the steps until then

  Main declarations:
    * `Worker.pick_of_wait`
    * `Exchange.rests_or_lt`: a step comes closer to rest
    * `Exchange.rests_repeat`: sixteen steps are enough
    * `Exchange.ended_repeat`
-/

namespace Redraw

------------------------------------------------------------
-- Steps Again and Again
------------------------------------------------------------

/-
  Steps that make something hold, which steps keep, or lower the
  effort, are not needed more often than there is effort.
-/
theorem holds_repeat
    {A : Type}
    {step : A → A}
    (effort : A → Nat)
    (P : A → Prop)
    (hKeeps : ∀ a, P a → P (step a))
    (hStep : ∀ a, P (step a) ∨ effort (step a) < effort a)
    {n : Nat}
    {a : A}
    (hEnough : effort a < n) :
    P (Nat.repeat step n a) := by
  have hEither :
      ∀ k,
        P (Nat.repeat step k a) ∨
          effort (Nat.repeat step k a) + k ≤ effort a := by
    intro k
    induction k with
    | zero => exact Or.inr (Nat.le_refl _)
    | succ k ih =>
        rcases ih with hHolds | hLess
        · exact Or.inl (hKeeps _ hHolds)
        · apply (hStep (Nat.repeat step k a)).imp id
          intro hLower
          change effort (step (Nat.repeat step k a)) + (k + 1) ≤ _
          omega
  apply (hEither n).resolve_right
  omega

------------------------------------------------------------
-- Waiting
------------------------------------------------------------

namespace Worker

/- What does not fit is dropped once. -/
theorem dropRedraw_dropRedraw
    (m : Mailbox)
    (r : Renderer) :
    dropRedraw (dropRedraw m r) r = dropRedraw m r := by
  by_cases hDrops : !committedFits m r && m.pending.isNone
  · simp only [dropRedraw, if_pos hDrops]
    split <;> rfl
  · simp only [dropRedraw, if_neg hDrops]

/- A screen that is forgotten once is forgotten. -/
theorem takeInvalidate_dropRedraw
    (m : Mailbox)
    (r : Renderer) :
    let taken := takeInvalidate m r
    takeInvalidate (dropRedraw taken.1 taken.2) taken.2 =
      (dropRedraw taken.1 taken.2, taken.2) := by
  intro taken
  have hTaken : taken.1.invalidate = false := by
    simp only [taken, takeInvalidate_eq]
  have hDropped :
      (dropRedraw taken.1 taken.2).invalidate = false := by
    rcases dropRedraw_eq taken.1 taken.2 with ⟨redraw, hDrop, -⟩
    rw [hDrop]
    exact hTaken
  rw [takeInvalidate, hDropped]
  rfl

/- So a search may as well begin after forgetting and dropping. -/
theorem pick_dropRedraw
    (started due : Bool)
    (m : Mailbox)
    (r : Renderer) :
    let taken := takeInvalidate m r
    pick started due (dropRedraw taken.1 taken.2) taken.2 =
      pick started due m r := by
  intro taken
  have hTaken := takeInvalidate_dropRedraw m r
  simp only at hTaken
  simp only [pick, taken, hTaken, dropRedraw_dropRedraw]

/- What is asked to be drawn again has been committed. -/
theorem committed_of_redraw
    {m : Mailbox}
    {r : Renderer}
    (hNone : m.pending = none)
    (hRedraw : (dropRedraw m r).redraw = true) :
    r.committed ≠ none := by
  intro hFresh
  have hDrops : !committedFits m r && m.pending.isNone := by
    simp [committedFits, hFresh, hNone]
  rw [dropRedraw, if_pos hDrops] at hRedraw
  cases hRedraw

/-
  Whoever waits has forgotten and dropped, and nothing else.  It
  is not to finish.
-/
theorem eq_of_pick_wait
    {started due : Bool}
    {m m' : Mailbox}
    {r r' : Renderer}
    (h : pick started due m r = (.wait, m', r')) :
    let taken := takeInvalidate m r
    m' = dropRedraw taken.1 taken.2 ∧ r' = taken.2 ∧
      m'.shutdown = false := by
  intro taken
  have hPending :
      (dropRedraw taken.1 taken.2).pending = taken.1.pending := by
    rcases dropRedraw_eq taken.1 taken.2 with ⟨redraw, hDrop, -⟩
    rw [hDrop]
  simp only [pick] at h
  split at h
  · rename_i hReady
    split at h
    · rename_i hPaced
      cases h
      refine ⟨rfl, rfl, ?_⟩
      simp only [Bool.and_eq_true, Bool.not_eq_true'] at hPaced
      exact hPaced.1.1
    · unfold take at h
      split at h
      · rename_i hNothing
        rcases Option.or_eq_none_iff.mp hNothing with ⟨hNone, hFresh⟩
        rcases hReady.2 with hSome | hRedraw
        · rw [hNone] at hSome
          cases hSome
        · exact
            absurd hFresh
              (committed_of_redraw (hPending.symm.trans hNone)
                hRedraw)
      · cases h
  · split at h
    · cases h
    · rename_i hGoesOn
      cases h
      exact ⟨rfl, rfl, Bool.eq_false_iff.mpr hGoesOn⟩

/-
  Who looks for work again after waiting, waits.  The first look
  has forgotten the screen and dropped what does not fit, so that
  the second one finds the same.
-/
theorem pick_of_wait
    {started due : Bool}
    {m m' : Mailbox}
    {r r' : Renderer}
    (h : pick started due m r = (.wait, m', r')) :
    pick started due m' r' = (.wait, m', r') := by
  rcases eq_of_pick_wait h with ⟨rfl, rfl, -⟩
  rw [pick_dropRedraw]
  exact h

end Worker

------------------------------------------------------------
-- Exchanges at Rest
------------------------------------------------------------

/- The steps of the thread until it looks for work again. -/
def Stage.left : Stage → Nat
  | .planning _ _ => 5
  | .encoding _ _ => 4
  | .writing _ => 3
  | .settling _ _ => 2
  | .reporting _ => 1
  | .seeking => 0
  | .stopped => 0
  | .dead => 0

/-
  The steps for what is in the mailbox: six for a snapshot, and
  one to find that there is none.
-/
def Mailbox.effort (m : Mailbox) : Nat :=
  if m.pending.isSome || m.redraw then 7 else 1

namespace Exchange

/- The thread has ended, or looks for work and finds none. -/
def Rests
    (x : Exchange)
    (due : Bool) : Prop :=
  match x.worker.stage with
  | .seeking =>
      x.worker.seek due x.mailbox = (x.worker, x.mailbox)
  | .stopped => True
  | .dead => True
  | _ => False

/-
  A bound on the steps until the thread rests: those that are
  left for the snapshot under way, and those for the next one.
-/
def effort (x : Exchange) : Nat :=
  x.worker.stage.left + x.mailbox.effort

variable {x : Exchange}
variable {due : Bool}

theorem effort_le (x : Exchange) :
    x.effort ≤ 12 := by
  have hStage : x.worker.stage.left ≤ 5 := by
    cases x.worker.stage <;> simp [Stage.left]
  have hMailbox : x.mailbox.effort ≤ 7 := by
    unfold Mailbox.effort
    split <;> simp
  unfold effort
  omega

/- At rest a step changes nothing. -/
theorem Rests.work_eq
    (h : x.Rests due) :
    x.work due = x := by
  unfold Rests at h
  unfold work
  split at h
  case h_1 hStage =>
    simp only [hStage, h]
  case h_2 hStage => simp only [hStage]
  case h_3 hStage => simp only [hStage]
  case h_4 => exact h.elim

/- A thread that is to finish does not rest before it has ended. -/
theorem Rests.ended
    (h : x.Rests due)
    (hStop : x.mailbox.shutdown = true) :
    x.worker.stage = .stopped ∨ x.worker.stage = .dead := by
  unfold Rests at h
  split at h
  case h_1 hStage =>
    unfold Worker.seek at h
    split at h
    case h_1 m r hPick =>
      have hGoesOn := (Worker.eq_of_pick_wait hPick).2.2
      rw [(Prod.mk.inj h).2, hStop] at hGoesOn
      cases hGoesOn
    case h_2 =>
      have hEnded := congrArg (·.1.stage) h
      rw [hStage] at hEnded
      cases hEnded
    case h_3 =>
      have hDraws := congrArg (·.1.stage) h
      rw [hStage] at hDraws
      cases hDraws
  case h_2 hStage => exact Or.inl hStage
  case h_3 hStage => exact Or.inr hStage
  case h_4 => exact h.elim

/- Whoever looks for work waits, ends, or has less to do. -/
theorem rests_or_lt_of_seeking
    (hStage : x.worker.stage = .seeking) :
    (x.work due).Rests due ∨ (x.work due).effort < x.effort := by
  rcases Worker.pick_eq x.worker.started due x.mailbox
      x.worker.renderer with
    ⟨work, m, hPick, hCases⟩
  rcases hCases with
    ⟨redraw, rfl, rfl, -⟩ | ⟨redraw, rfl, rfl, -⟩ |
      ⟨s, rfl, rfl, -, hSome⟩
  · apply Or.inl
    have hAgain := Worker.pick_of_wait hPick
    simp only [Exchange.work, hStage, Worker.seek, hPick]
    simp only [Rests, Worker.seek, hAgain]
  · apply Or.inl
    simp only [Exchange.work, hStage, Worker.seek, hPick]
    exact trivial
  · apply Or.inr
    have hOwes : x.mailbox.effort = 7 := by
      rw [Mailbox.effort, if_pos]
      rcases hSome with hSome | ⟨-, hRedraw, -⟩
      · simp [hSome]
      · simp [hRedraw]
    rw [effort, effort, hStage, hOwes]
    simp [Exchange.work, hStage, Worker.seek, hPick, Stage.left,
      Mailbox.effort, Worker.afterPick]

/- A step rests, or less is left to do after it. -/
theorem rests_or_lt
    (x : Exchange)
    (due : Bool) :
    (x.work due).Rests due ∨ (x.work due).effort < x.effort := by
  cases hStage : x.worker.stage with
  | seeking => exact rests_or_lt_of_seeking hStage
  | stopped =>
      apply Or.inl
      simp only [work, hStage, Rests]
  | dead =>
      apply Or.inl
      simp only [work, hStage, Rests]
  | planning s force =>
      apply Or.inr
      simp only [effort, work, hStage, Worker.planNext]
      split <;>
        (simp only [Stage.left]
         exact Nat.add_lt_add_right (by decide) _)
  | encoding s plan =>
      apply Or.inr
      simp only [effort, work, hStage]
      exact Nat.add_lt_add_right (show 3 < 4 by decide) _
  | writing frame =>
      apply Or.inr
      simp only [effort, work, hStage, Worker.writeNext]
      split <;>
        (simp only [Stage.left]
         exact Nat.add_lt_add_right (by decide) _)
  | settling frame failure =>
      apply Or.inr
      simp only [effort, work, hStage, Worker.settleNext]
      split <;>
        (simp only [Stage.left]
         exact Nat.add_lt_add_right (by decide) _)
  | reporting report =>
      apply Or.inr
      simp only [effort, work, hStage]
      exact Nat.add_lt_add_right (show 0 < 1 by decide) _

/- Sixteen steps are enough for the thread to rest. -/
theorem rests_repeat
    (x : Exchange)
    (due : Bool) :
    (Nat.repeat (·.work due) 16 x).Rests due := by
  apply holds_repeat effort (·.Rests due)
  · intro x hRests
    rw [hRests.work_eq]
    exact hRests
  · exact fun x => x.rests_or_lt due
  · exact Nat.lt_of_le_of_lt x.effort_le (by decide)

/- If it is to finish, it has ended by then. -/
theorem ended_repeat
    (h : x.mailbox.shutdown = true)
    (due : Bool) :
    let x' := Nat.repeat (·.work due) 16 x
    x'.worker.stage = .stopped ∨ x'.worker.stage = .dead := by
  have hStop :
      ∀ n, (Nat.repeat (·.work due) n x).mailbox.shutdown = true := by
    intro n
    induction n with
    | zero => exact h
    | succ n ih => exact (mailbox_of_work _ due).2.1.trans ih
  exact (x.rests_repeat due).ended (hStop 16)

end Exchange

end Redraw
