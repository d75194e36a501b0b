import Redraw.Proofs.Renderer.Coherence
import Redraw.Thread.Worker

/-
  Watching: what becomes of the snapshots that are picked.

  A watch looks at an exchange from some moment on.  It writes
  down every snapshot that is picked from then on, together with
  the report on it, and so tells the order in which cycles of
  the drawing thread end.

  Key definitions include:
    * `Cycle`: a snapshot that was picked, and how
    * `Watch`, `Watch.start`, `Watch.step`, `Watch.run`
    * `Cycle.EndsIn`, `Cycle.Follows`: where a cycle stands
    * `Mailbox.Keeps`: no request is taken back

  Main declarations:
    * `Cycle.Follows.work`: a cycle goes on as it began
    * `Mailbox.submit_eq_ok`: what a granted submission leaves
    * `Exchange.step_of_ask`: what producers can change
    * `Worker.pick_eq`: what a search for work comes to
    * `Exchange.work_drawing`: what a cycle leaves alone
    * `Exchange.mailbox_of_work`: what the thread leaves alone
    * `Watch.step_cases`, `Watch.run_induction`: invariants of
      steps and of runs
-/

namespace Redraw

------------------------------------------------------------
-- Watches
------------------------------------------------------------

namespace Report

/- Whether a frame was committed. -/
def isCommitted : Report → Bool
  | .committed _ _ => true
  | _ => false

/- Whether a snapshot had no plan. -/
def isRejected : Report → Bool
  | .rejected _ _ => true
  | _ => false

/- Whether a frame was not delivered. -/
def isFailed : Report → Bool
  | .failed _ => true
  | _ => false

end Report

/-
  A snapshot that was picked, whether everything was to be drawn
  then, and the renderer of that moment.
-/
structure Cycle where
  snapshot : Snapshot
  force : Bool
  renderer : Renderer
  deriving DecidableEq

/- Whether the frame of a cycle draws everything. -/
def Cycle.repaints (c : Cycle) : Bool :=
  c.force || c.renderer.needsRepaint c.snapshot.size

/-
  An exchange that is watched: the cycle under way, if it began
  under watch, and the cycles that have ended since.
-/
structure Watch where
  exchange : Exchange
  cycle : Option Cycle := none
  log : List (Cycle × Report) := []
  deriving DecidableEq

namespace Watch

/- A watch that begins. -/
def start (x : Exchange) : Watch where
  exchange := x

/- One event, seen from the stages before and after it. -/
def step
    (w : Watch)
    (e : Event) : Watch :=
  let x := w.exchange.step e
  match w.exchange.worker.stage, x.worker.stage with
  | .seeking, .planning s force =>
      { w with
        exchange := x
        cycle := some ⟨s, force, x.worker.renderer⟩ }
  | .reporting report, .seeking =>
      { exchange := x
        cycle := none
        log := w.log ++ (w.cycle.map (·, report)).toList }
  | _, _ => { w with exchange := x }

/- Events one after another. -/
def run
    (w : Watch)
    (events : List Event) : Watch :=
  events.foldl step w

/- A watch does not interfere. -/
theorem exchange_step
    (w : Watch)
    (e : Event) :
    (w.step e).exchange = w.exchange.step e := by
  simp only [step]
  split <;> rfl

theorem exchange_run
    (w : Watch)
    (events : List Event) :
    (w.run events).exchange = w.exchange.run events := by
  induction events generalizing w with
  | nil => rfl
  | cons e events ih =>
      have hNext := ih (w.step e)
      rw [exchange_step] at hNext
      exact hNext

/- What every event preserves is there after all of them. -/
theorem run_induction
    {P : Watch → Prop}
    {events : List Event}
    (hStep : ∀ e ∈ events, ∀ w, P w → P (w.step e))
    {w : Watch}
    (h : P w) :
    P (w.run events) := by
  induction events generalizing w with
  | nil => exact h
  | cons e events ih =>
      exact
        ih (fun e' he' => hStep e' (by simp [he']))
          (hStep e (by simp) w h)

end Watch

------------------------------------------------------------
-- Producers
------------------------------------------------------------

/-
  Every request of a mailbox still stands in another one, which
  differs in phase or in asking to forget the screen only if it
  asks to draw again.
-/
structure Mailbox.Keeps (m m' : Mailbox) : Prop where
  force : m.force = true → m'.force = true
  redraw : m.redraw = true → m'.redraw = true
  invalidate : m.invalidate = true → m'.invalidate = true
  others :
    m'.redraw = true ∨
      m'.phase = m.phase ∧ m'.invalidate = m.invalidate

namespace Mailbox

theorem Keeps.refl (m : Mailbox) : m.Keeps m :=
  ⟨id, id, id, Or.inr ⟨rfl, rfl⟩⟩

/- A mailbox that has accepted a snapshot. -/
def afterSubmit
    (m : Mailbox)
    (s : Snapshot) : Mailbox :=
  { m with pending := some s, latest := some s.seq }

/- A mailbox with a declared size. -/
def afterResize
    (m : Mailbox)
    (size : Size) : Mailbox :=
  { m with
    size := some size
    pending := m.pending.filter (·.size = size)
    force := true }

/- What a granted submission found and what it leaves. -/
theorem submit_eq_ok
    {m m' : Mailbox}
    {s : Snapshot}
    (h : m.submit s = .ok m') :
    m' = m.afterSubmit s ∧
      (∀ n ∈ m.latest, n < s.seq) ∧
      (∀ size ∈ m.size, s.size = size) ∧
      m.shutdown = false ∧ m.phase ≠ .stopped ∧
      m.phase ≠ .failed := by
  simp only [submit] at h
  split at h
  · cases h
  · rename_i hOpen
    split at h
    · cases h
    · rename_i hSound
      split at h <;> cases h
      rename_i hNewer hFits
      simp only [Option.filter_eq_none_iff, decide_eq_true_eq,
        Nat.not_le] at hNewer
      simp only [Option.filter_eq_none_iff, decide_eq_true_eq,
        Decidable.not_not] at hFits
      simp only [Bool.or_eq_true, decide_eq_true_eq, not_or,
        Bool.not_eq_true] at hOpen
      exact
        ⟨rfl, hNewer, fun size hSize => hFits size hSize, hOpen.1,
          hOpen.2, hSound⟩

theorem forceRepaint_eq_ok
    {m m' : Mailbox}
    (h : m.forceRepaint = .ok m') :
    m' = { m with force := true, redraw := true } ∧
      m.shutdown = false := by
  simp only [forceRepaint] at h
  split at h <;> cases h
  rename_i hOpen
  exact ⟨rfl, Bool.eq_false_iff.mpr hOpen⟩

theorem resize_eq_ok
    {m m' : Mailbox}
    {size : Size}
    (h : m.resize size = .ok m') :
    m' = m.afterResize size ∧ m.shutdown = false := by
  simp only [resize] at h
  split at h <;> cases h
  rename_i hOpen
  exact ⟨rfl, Bool.eq_false_iff.mpr hOpen⟩

theorem reset_eq_ok
    {m m' : Mailbox}
    (h : m.reset = .ok m') :
    m' =
        { m with
          phase := if m.phase = .failed then .idle else m.phase
          invalidate := true
          force := true
          redraw := true } ∧
      m.shutdown = false := by
  simp only [reset] at h
  split at h <;> cases h
  rename_i hOpen
  exact ⟨rfl, Bool.eq_false_iff.mpr hOpen⟩

theorem keeps_submit
    {m m' : Mailbox}
    {s : Snapshot}
    (h : m.submit s = .ok m') :
    m.Keeps m' ∧ m'.size = m.size := by
  rw [(submit_eq_ok h).1]
  exact ⟨⟨id, id, id, Or.inr ⟨rfl, rfl⟩⟩, rfl⟩

theorem keeps_forceRepaint
    {m m' : Mailbox}
    (h : m.forceRepaint = .ok m') :
    m.Keeps m' ∧ m'.size = m.size := by
  rw [(forceRepaint_eq_ok h).1]
  exact ⟨⟨fun _ => rfl, fun _ => rfl, id, Or.inl rfl⟩, rfl⟩

theorem keeps_resize
    {m m' : Mailbox}
    {size : Size}
    (h : m.resize size = .ok m') :
    m.Keeps m' := by
  rw [(resize_eq_ok h).1]
  exact ⟨fun _ => rfl, id, id, Or.inr ⟨rfl, rfl⟩⟩

theorem keeps_reset
    {m m' : Mailbox}
    (h : m.reset = .ok m') :
    m.Keeps m' ∧ m'.size = m.size := by
  rw [(reset_eq_ok h).1]
  exact ⟨⟨fun _ => rfl, fun _ => rfl, fun _ => rfl, Or.inl rfl⟩, rfl⟩

end Mailbox

namespace Exchange

/- An answer is taken over, or the mailbox stays as it was. -/
theorem update_cases
    (x : Exchange)
    {answer : Except Error Mailbox}
    {P : Mailbox → Prop}
    (hSame : P x.mailbox)
    (hOk : ∀ m, answer = .ok m → P m) :
    ∃ m, x.update answer = { x with mailbox := m } ∧ P m := by
  cases answer with
  | ok m => exact ⟨m, rfl, hOk m rfl⟩
  | error e => exact ⟨x.mailbox, rfl, hSame⟩

/-
  What producers do changes the mailbox at most, and no request
  is taken back.
-/
theorem step_of_ask
    (x : Exchange)
    {e : Event}
    (h : ∀ due, e ≠ .work due) :
    ∃ m, x.step e = { x with mailbox := m } ∧
      x.mailbox.Keeps m ∧
      ((∀ size, e ≠ .resize size) → m.size = x.mailbox.size) := by
  have hSame := Mailbox.Keeps.refl x.mailbox
  cases e with
  | submit s =>
      refine x.update_cases ⟨hSame, fun _ => rfl⟩ fun m hOk => ?_
      have hKeeps := Mailbox.keeps_submit hOk
      exact ⟨hKeeps.1, fun _ => hKeeps.2⟩
  | forceRepaint =>
      refine x.update_cases ⟨hSame, fun _ => rfl⟩ fun m hOk => ?_
      have hKeeps := Mailbox.keeps_forceRepaint hOk
      exact ⟨hKeeps.1, fun _ => hKeeps.2⟩
  | resize size =>
      refine x.update_cases ⟨hSame, fun _ => rfl⟩ fun m hOk => ?_
      exact
        ⟨Mailbox.keeps_resize hOk, fun hNone => absurd rfl (hNone size)⟩
  | reset =>
      refine x.update_cases ⟨hSame, fun _ => rfl⟩ fun m hOk => ?_
      have hKeeps := Mailbox.keeps_reset hOk
      exact ⟨hKeeps.1, fun _ => hKeeps.2⟩
  | stop =>
      exact
        ⟨x.mailbox.stop, rfl, ⟨id, id, id, Or.inr ⟨rfl, rfl⟩⟩,
          fun _ => rfl⟩
  | work due => exact absurd rfl (h due)

end Exchange

namespace Watch

/- A change of the mailbox alone is seen as that. -/
theorem step_of_mailbox
    (w : Watch)
    {e : Event}
    {m : Mailbox}
    (h : w.exchange.step e = { w.exchange with mailbox := m }) :
    w.step e =
      { w with exchange := { w.exchange with mailbox := m } } := by
  simp only [step, h]
  split
  · rename_i hSeeking hPlanning
    rw [hSeeking] at hPlanning
    cases hPlanning
  · rename_i hReporting hSeeking
    rw [hReporting] at hSeeking
    cases hSeeking
  · rfl

/- What producers do, a watch sees in the mailbox only. -/
theorem step_of_ask
    (w : Watch)
    {e : Event}
    (h : ∀ due, e ≠ .work due) :
    ∃ m,
      w.step e =
          { w with exchange := { w.exchange with mailbox := m } } ∧
        w.exchange.mailbox.Keeps m ∧
        ((∀ size, e ≠ .resize size) →
          m.size = w.exchange.mailbox.size) := by
  rcases w.exchange.step_of_ask h with ⟨m, hStep, hKept⟩
  exact ⟨m, w.step_of_mailbox hStep, hKept⟩

end Watch

------------------------------------------------------------
-- Seeking
------------------------------------------------------------

namespace Worker

/- Forgetting the screen is all that a request to forget does. -/
theorem takeInvalidate_eq
    (m : Mailbox)
    (r : Renderer) :
    takeInvalidate m r =
      ({ m with invalidate := false },
        if m.invalidate then r.invalidate else r) := by
  cases m with
  | mk _ _ _ _ _ _ invalidate _ _ =>
      cases invalidate <;> rfl

/- What is committed stays so when the screen is forgotten. -/
theorem committed_takeInvalidate
    (m : Mailbox)
    (r : Renderer) :
    (takeInvalidate m r).2.committed = r.committed := by
  rw [takeInvalidate_eq]
  cases m.invalidate <;> rfl

/- Only a request to redraw is dropped, and only what fits is kept. -/
theorem dropRedraw_eq
    (m : Mailbox)
    (r : Renderer) :
    ∃ redraw, dropRedraw m r = { m with redraw := redraw } ∧
      (redraw = true → m.redraw = true) ∧
      (committedFits m r = true → redraw = m.redraw) := by
  unfold dropRedraw
  split
  · rename_i hDrop
    refine ⟨false, rfl, nofun, fun hFits => ?_⟩
    rw [hFits] at hDrop
    cases hDrop
  · exact ⟨m.redraw, rfl, id, fun _ => rfl⟩

/- Whether a screen is known does not matter for what fits. -/
theorem committedFits_takeInvalidate
    (m : Mailbox)
    (r : Renderer) :
    committedFits (takeInvalidate m r).1 (takeInvalidate m r).2 =
      committedFits m r := by
  rw [takeInvalidate_eq]
  cases m.invalidate <;> rfl

/- What a search for work that hands out a snapshot leaves. -/
def afterPick (m : Mailbox) : Mailbox :=
  { m with
    pending := none
    force := false
    redraw := false
    invalidate := false
    phase := .diffing }

/-
  A search for work takes the request to forget, and then waits,
  ends or hands out a snapshot.  That is the pending one; without
  it, the committed one on request.
-/
theorem pick_eq
    (started due : Bool)
    (m : Mailbox)
    (r : Renderer) :
    ∃ work m',
      pick started due m r = (work, m', (takeInvalidate m r).2) ∧
        ((∃ redraw,
            work = .wait ∧
              m' = { m with invalidate := false, redraw := redraw } ∧
              (redraw = true → m.redraw = true) ∧
              (committedFits m r = true → redraw = m.redraw)) ∨
          (∃ redraw,
            work = .stop ∧
              m' =
                { m with
                  invalidate := false
                  redraw := redraw
                  phase := .stopped } ∧
              (redraw = true → m.redraw = true) ∧
              m.shutdown = true) ∨
          ∃ s,
            work = .draw s m.force ∧ m' = afterPick m ∧
              m.phase ≠ .failed ∧
              (m.pending = some s ∨
                m.pending = none ∧ m.redraw = true ∧
                  r.committed = some s)) := by
  have hFits := committedFits_takeInvalidate m r
  have hTaken : (takeInvalidate m r).1 = { m with invalidate := false } :=
    congrArg Prod.fst (takeInvalidate_eq m r)
  have hCommitted := committed_takeInvalidate m r
  rcases dropRedraw_eq (takeInvalidate m r).1 (takeInvalidate m r).2 with
    ⟨redraw, hDrop, hAsked, hKept⟩
  rw [hFits, hTaken] at hKept
  rw [hTaken] at hDrop hAsked
  unfold pick
  simp only [hDrop, hTaken]
  split
  · rename_i hReady
    split
    · exact
        ⟨_, _, rfl, Or.inl ⟨redraw, rfl, rfl, hAsked, hKept⟩⟩
    · unfold take
      split
      · rename_i hNothing
        have hNone := (Option.or_eq_none_iff.mp hNothing).2
        rw [hCommitted] at hNone
        refine ⟨_, _, rfl, Or.inl ⟨false, rfl, rfl, nofun, ?_⟩⟩
        intro hSome
        simp [committedFits, hNone] at hSome
      · rename_i s hSome
        refine
          ⟨_, _, rfl, Or.inr (Or.inr ⟨s, rfl, rfl, hReady.1, ?_⟩)⟩
        rw [hCommitted] at hSome
        apply (Option.or_eq_some_iff.mp hSome).imp id
        rintro ⟨hNone, hLast⟩
        refine ⟨hNone, hAsked (hReady.2.resolve_left ?_), hLast⟩
        simp [show m.pending = none from hNone]
  · split
    · rename_i hShutdown
      exact
        ⟨_, _, rfl,
          Or.inr (Or.inl ⟨redraw, rfl, rfl, hAsked, hShutdown⟩)⟩
    · exact
        ⟨_, _, rfl, Or.inl ⟨redraw, rfl, rfl, hAsked, hKept⟩⟩

/- What is left of the requests in each case. -/
theorem pick_cases
    (started due : Bool)
    (m : Mailbox)
    (r : Renderer) :
    ∃ work m',
      pick started due m r = (work, m', (takeInvalidate m r).2) ∧
        m'.invalidate = false ∧ m'.size = m.size ∧
        ((work = .wait ∧ m'.force = m.force ∧ m'.phase = m.phase ∧
            (committedFits m r = true → m'.redraw = m.redraw)) ∨
          (work = .stop ∧ m'.force = m.force) ∨
          ∃ s, work = .draw s m.force) := by
  rcases pick_eq started due m r with
    ⟨work, m', hPick, hCases⟩
  refine ⟨work, m', hPick, ?_⟩
  rcases hCases with
    ⟨redraw, rfl, rfl, _, hKept⟩ | ⟨redraw, rfl, rfl, _⟩ |
      ⟨s, rfl, rfl, _⟩
  · exact ⟨rfl, rfl, Or.inl ⟨rfl, rfl, rfl, hKept⟩⟩
  · exact ⟨rfl, rfl, Or.inr (Or.inl ⟨rfl, rfl⟩)⟩
  · exact ⟨rfl, rfl, Or.inr (Or.inr ⟨s, rfl⟩)⟩

end Worker

/-
  The exchange after a search for work, which leaves the mailbox
  and the stage that are named.
-/
def Exchange.sought
    (x : Exchange)
    (m : Mailbox)
    (stage : Stage) : Exchange :=
  { x with
    mailbox := m
    worker :=
      { x.worker with
        renderer :=
          (Worker.takeInvalidate x.mailbox x.worker.renderer).2
        stage := stage } }

/- A watch notes a snapshot when it is picked. -/
theorem Watch.step_seeking
    (w : Watch)
    (hStage : w.exchange.worker.stage = .seeking)
    (due : Bool) :
    ∃ m, m.invalidate = false ∧ m.size = w.exchange.mailbox.size ∧
      ((w.step (.work due) =
            { w with exchange := w.exchange.sought m .seeking } ∧
          m.force = w.exchange.mailbox.force ∧
          m.phase = w.exchange.mailbox.phase ∧
          (Worker.committedFits w.exchange.mailbox
              w.exchange.worker.renderer = true →
            m.redraw = w.exchange.mailbox.redraw)) ∨
        (w.step (.work due) =
            { w with exchange := w.exchange.sought m .stopped } ∧
          m.force = w.exchange.mailbox.force) ∨
        ∃ s,
          let force := w.exchange.mailbox.force
          let x := w.exchange.sought m (.planning s force)
          w.step (.work due) =
            { w with
              exchange := x
              cycle := some ⟨s, force, x.worker.renderer⟩ }) := by
  rcases Worker.pick_cases w.exchange.worker.started due
      w.exchange.mailbox w.exchange.worker.renderer with
    ⟨work, m, hPick, hInvalidate, hSize, hWork⟩
  refine ⟨m, hInvalidate, hSize, ?_⟩
  rcases hWork with ⟨rfl, hKept⟩ | ⟨rfl, hForce⟩ | ⟨s, rfl⟩
  · refine Or.inl ⟨?_, hKept⟩
    simp [step, Exchange.step, Exchange.work, hStage, Worker.seek,
      hPick, Exchange.sought]
  · refine Or.inr (Or.inl ⟨?_, hForce⟩)
    simp [step, Exchange.step, Exchange.work, hStage, Worker.seek,
      hPick, Exchange.sought]
  · refine Or.inr (Or.inr ⟨s, ?_⟩)
    simp [step, Exchange.step, Exchange.work, hStage, Worker.seek,
      hPick, Exchange.sought]

------------------------------------------------------------
-- Drawing
------------------------------------------------------------

namespace Stage

/- Whether a snapshot is on its way. -/
def isDrawing : Stage → Bool
  | .planning _ _ => true
  | .encoding _ _ => true
  | .writing _ => true
  | .settling _ _ => true
  | _ => false

/- The thread looks for work, draws, reports or has ended. -/
theorem kinds (stage : Stage) :
    stage = .seeking ∨ stage.isDrawing = true ∨
      (∃ report, stage = .reporting report) ∨
      stage = .stopped ∨ stage = .dead := by
  cases stage <;> simp [isDrawing]

/- A thread that draws has work, and it has not ended. -/
theorem ne_of_isDrawing
    {stage : Stage}
    (h : stage.isDrawing = true) :
    stage ≠ .seeking ∧ stage ≠ .stopped := by
  constructor <;> rintro rfl <;> cases h

/- A snapshot is planned, encoded, written and settled. -/
theorem isDrawing_cases
    {stage : Stage}
    (h : stage.isDrawing = true) :
    (∃ s force, stage = .planning s force) ∨
      (∃ s plan, stage = .encoding s plan) ∨
      (∃ frame, stage = .writing frame) ∨
      ∃ frame failure, stage = .settling frame failure := by
  cases stage <;> simp [isDrawing] at h ⊢

end Stage

/-
  While a snapshot is on its way the thread changes the phase of
  the mailbox and what it committed last.
-/
theorem Exchange.work_drawing
    (x : Exchange)
    (h : x.worker.stage.isDrawing = true)
    (due : Bool) :
    (x.work due).worker.stage ≠ .seeking ∧
      (x.work due).worker.stage ≠ .stopped ∧
      ∃ phase last,
        (x.work due).mailbox =
          { x.mailbox with
            phase := phase
            lastCommitted := last } := by
  rcases Stage.isDrawing_cases h with
    ⟨s, force, hStage⟩ | ⟨s, plan, hStage⟩ | ⟨frame, hStage⟩ |
      ⟨frame, failure, hStage⟩
  · simp only [work, hStage, Worker.planNext]
    split <;> exact ⟨nofun, nofun, _, _, rfl⟩
  · simp only [work, hStage, Worker.encodeNext]
    exact ⟨nofun, nofun, _, _, rfl⟩
  · simp only [work, hStage, Worker.writeNext]
    split <;> exact ⟨nofun, nofun, _, _, rfl⟩
  · simp only [work, hStage, Worker.settleNext]
    split <;> exact ⟨nofun, nofun, _, _, rfl⟩

/-
  Whatever the thread does, it leaves the size and the wish to
  finish alone, and it puts nothing into the slot.
-/
theorem Exchange.mailbox_of_work
    (x : Exchange)
    (due : Bool) :
    let m := (x.work due).mailbox
    m.size = x.mailbox.size ∧ m.shutdown = x.mailbox.shutdown ∧
      (m.pending = x.mailbox.pending ∨ m.pending = none) := by
  rcases x.worker.stage.kinds with
    hStage | hStage | ⟨report, hStage⟩ | hStage
  · rcases Worker.pick_eq x.worker.started due x.mailbox
        x.worker.renderer with
      ⟨work, m, hPick, hCases⟩
    simp only [Exchange.work, hStage, Worker.seek, hPick]
    rcases hCases with
      ⟨redraw, rfl, rfl, -⟩ | ⟨redraw, rfl, rfl, -⟩ |
        ⟨s, rfl, rfl, -⟩
    · exact ⟨rfl, rfl, Or.inl rfl⟩
    · exact ⟨rfl, rfl, Or.inl rfl⟩
    · exact ⟨rfl, rfl, Or.inr rfl⟩
  · rcases x.work_drawing hStage due with
      ⟨-, -, phase, last, hMailbox⟩
    rw [hMailbox]
    exact ⟨rfl, rfl, Or.inl rfl⟩
  · have hSame : (x.work due).mailbox = x.mailbox := by
      simp only [Exchange.work, hStage]
    rw [hSame]
    exact ⟨rfl, rfl, Or.inl rfl⟩
  · have hSame : x.work due = x := by
      rcases hStage with hStage | hStage <;>
        simp only [Exchange.work, hStage]
    rw [hSame]
    exact ⟨rfl, rfl, Or.inl rfl⟩

namespace Watch

theorem step_drawing
    (w : Watch)
    (h : w.exchange.worker.stage.isDrawing = true)
    (due : Bool) :
    w.step (.work due) =
      { w with exchange := w.exchange.work due } := by
  simp only [step, Exchange.step]
  split
  · rename_i hSeeking _
    rw [hSeeking] at h
    cases h
  · rename_i hReporting _
    rw [hReporting] at h
    cases h
  · rfl

/- A cycle that began under watch is noted when it ends. -/
theorem step_reporting
    (w : Watch)
    {report : Report}
    (hStage : w.exchange.worker.stage = .reporting report)
    (due : Bool) :
    w.step (.work due) =
      { exchange :=
          { w.exchange with
            worker := { w.exchange.worker with stage := .seeking }
            reports := w.exchange.reports ++ [report] }
        cycle := none
        log := w.log ++ (w.cycle.map (·, report)).toList } := by
  simp [step, Exchange.step, Exchange.work, hStage]

/- A thread that has ended does nothing. -/
theorem step_ended
    (w : Watch)
    (hStage :
      w.exchange.worker.stage = .stopped ∨
        w.exchange.worker.stage = .dead)
    (due : Bool) :
    w.step (.work due) = w := by
  rcases hStage with hStage | hStage <;>
    simp [step, Exchange.step, Exchange.work, hStage]

/-
  An event is a request or a step of the thread, which looks for
  work, draws or reports.
-/
theorem step_cases
    {P : Watch → Prop}
    {w : Watch}
    {e : Event}
    (h : P w)
    (hAsk :
      ∀ m, w.exchange.mailbox.Keeps m →
        ((∀ size, e ≠ .resize size) →
          m.size = w.exchange.mailbox.size) →
        P { w with exchange := { w.exchange with mailbox := m } })
    (hSeek :
      w.exchange.worker.stage = .seeking →
        ∀ due, P (w.step (.work due)))
    (hDraw :
      w.exchange.worker.stage.isDrawing = true →
        ∀ due, P (w.step (.work due)))
    (hReport :
      ∀ report, w.exchange.worker.stage = .reporting report →
        ∀ due, P (w.step (.work due))) :
    P (w.step e) := by
  by_cases hRequest : ∀ due, e ≠ .work due
  · rcases w.step_of_ask hRequest with ⟨m, hStep, hKeeps, hSize⟩
    rw [hStep]
    exact hAsk m hKeeps hSize
  · rcases not_forall_not.mp hRequest with ⟨due, rfl⟩
    rcases w.exchange.worker.stage.kinds with
      hStage | hStage | ⟨report, hStage⟩ | hStage
    · exact hSeek hStage due
    · exact hDraw hStage due
    · exact hReport report hStage due
    · rw [w.step_ended hStage]
      exact h

end Watch

------------------------------------------------------------
-- Cycles
------------------------------------------------------------

namespace Cycle

/- How a cycle ends, and what its report says. -/
def EndsIn
    (c : Cycle)
    (r : Renderer) : Report → Prop
  | .committed _ stats =>
      stats.repaint = c.repaints ∧ r.screenKnown = true
  | .rejected _ _ => r = c.renderer
  | .failed _ => r.screenKnown = false

/- The thread is on its way from picking to reporting. -/
def Follows
    (c : Cycle)
    (w : Worker) : Prop :=
  match w.stage with
  | .planning s force =>
      s = c.snapshot ∧ force = c.force ∧ w.renderer = c.renderer
  | .encoding _ plan => plan.isRepaint = c.repaints
  | .writing frame => frame.stats.repaint = c.repaints
  | .settling frame none =>
      frame.stats.repaint = c.repaints ∧
        w.renderer.screenKnown = true
  | .settling _ (some _) => w.renderer.screenKnown = false
  | .reporting report => c.EndsIn w.renderer report
  | .dead => True
  | .seeking => False
  | .stopped => False

/- The thread does not look for work in the middle of a cycle. -/
theorem Follows.not_seeking
    {c : Cycle}
    {w : Worker}
    (h : c.Follows w) :
    w.stage ≠ .seeking := by
  intro hStage
  simp only [Follows, hStage] at h

/- A cycle goes on as it began. -/
theorem Follows.work
    {c : Cycle}
    {x : Exchange}
    (h : c.Follows x.worker)
    (hDrawing : x.worker.stage.isDrawing = true)
    (due : Bool) :
    c.Follows (x.work due).worker := by
  rcases Stage.isDrawing_cases hDrawing with
    ⟨s, force, hStage⟩ | ⟨s, plan, hStage⟩ | ⟨frame, hStage⟩ |
      ⟨frame, failure, hStage⟩
  · simp only [Follows, hStage] at h
    rcases h with ⟨rfl, rfl, hRenderer⟩
    simp only [Exchange.work, hStage, Worker.planNext]
    split
    · rename_i plan hPlan
      rw [hRenderer] at hPlan
      exact Renderer.isRepaint_plan hPlan
    · exact hRenderer
  · simp only [Follows, hStage] at h
    simp only [Exchange.work, hStage, Worker.encodeNext]
    exact h
  · simp only [Follows, hStage] at h
    simp only [Exchange.work, hStage, Worker.writeNext]
    split
    · exact ⟨h, rfl⟩
    · rfl
    · trivial
  · simp only [Follows, hStage] at h
    simp only [Exchange.work, hStage, Worker.settleNext]
    cases failure with
    | none => exact h
    | some cause => exact h

end Cycle

namespace Watch

/- No cycle is under way while the thread looks for work. -/
theorem cycle_of_seeking
    {w : Watch}
    (hFollows :
      ∀ c, w.cycle = some c → c.Follows w.exchange.worker)
    (hStage : w.exchange.worker.stage = .seeking) :
    w.cycle = none := by
  cases hCycle : w.cycle with
  | none => rfl
  | some c => exact absurd hStage (hFollows c hCycle).not_seeking

/- Two letters. -/
def plain : Snapshot where
  seq := 1
  grid :=
    ((Grid.blank 1 4).set 0 0 (.styled ['a'] .default)).set 0 1
      (.styled ['b'] .default)

/- The second half of a pair without the first. -/
def broken : Snapshot where
  seq := 2
  grid := plain.grid.setRaw 0 0 (.continuation .default)

/- A snapshot is submitted, and the thread has time for it. -/
def drawn (s : Snapshot) : List Event :=
  .submit s :: List.replicate 6 (.work true)

/- Two letters are drawn, and a broken pair is not. -/
example :
    ((start (.start .minimal {})).run
        (drawn plain ++ drawn broken)).log.map Prod.snd =
      [.committed 1 ⟨2, 2, 25, true⟩,
        .rejected 2 (.invalidWideCharPairing 0 0)] := by
  decide +kernel

end Watch

end Redraw
