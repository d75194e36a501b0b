import Redraw.Proofs.Thread.Watching

/-
  Requests: what becomes of a request to draw everything.

  The request goes with the first snapshot that is picked after
  it.  A cycle that fails leaves the screen unknown, and so hands
  the request on.  A cycle that is rejected does not: what it
  took from the mailbox is gone.

  Key definitions include:
    * `Request`
    * `Request.Owes`: the screen is unknown until the next frame
    * `Request.Kept`: the invariant of a watch

  Main declarations:
    * `Request.Kept.step`, `Request.Kept.run`
    * `Request.first_frame_repaints`
-/

namespace Redraw

------------------------------------------------------------
-- Making a Request
------------------------------------------------------------

/- A call that makes the next frame draw everything. -/
inductive Request
  | forceRepaint
  | resize (size : Size)
  | reset
  deriving DecidableEq

namespace Request

/- The call on a mailbox. -/
def ask
    (q : Request)
    (m : Mailbox) : Except Error Mailbox :=
  match q with
  | .forceRepaint => m.forceRepaint
  | .resize size => m.resize size
  | .reset => m.reset

/- The call among other events. -/
def event : Request → Event
  | .forceRepaint => .forceRepaint
  | .resize size => .resize size
  | .reset => .reset

theorem step_event
    {q : Request}
    {x : Exchange}
    {m : Mailbox}
    (h : q.ask x.mailbox = .ok m) :
    x.step q.event = { x with mailbox := m } := by
  cases q <;>
    (simp only [ask] at h
     simp only [event, Exchange.step, h, Exchange.update])

/- What the call asks for is written down. -/
theorem mailbox_of_ask
    {q : Request}
    {m m' : Mailbox}
    (h : q.ask m = .ok m') :
    m'.force = true ∧ (q = .reset → m'.invalidate = true) := by
  cases q with
  | forceRepaint =>
      simp only [ask, Mailbox.forceRepaint] at h
      split at h <;> cases h
      exact ⟨rfl, by simp⟩
  | resize size =>
      simp only [ask, Mailbox.resize] at h
      split at h <;> cases h
      exact ⟨rfl, by simp⟩
  | reset =>
      simp only [ask, Mailbox.reset] at h
      split at h <;> cases h
      exact ⟨rfl, fun _ => rfl⟩

end Request

------------------------------------------------------------
-- The Invariant
------------------------------------------------------------

namespace Request

/-
  After these cycles the screen has to be unknown: the request
  was to forget it or a delivery failed, and no frame has been
  committed since.
-/
def Owes
    (q : Request)
    (log : List (Cycle × Report)) : Prop :=
  (∀ e ∈ log, e.2.isCommitted = false) ∧
    (q = .reset ∨ ∃ e ∈ log, e.2.isFailed = true)

/- How a request reaches the cycle that comes after others. -/
structure Reaches
    (q : Request)
    (earlier : List (Cycle × Report))
    (c : Cycle) : Prop where
  first : earlier = [] → c.force = true
  owed : q.Owes earlier → c.renderer.screenKnown = false

/-
  A cycle that is not committed leaves the screen unknown if it
  has to be: a failure makes it so, a rejection changes nothing.
-/
theorem Reaches.unknown
    {q : Request}
    {earlier : List (Cycle × Report)}
    {c : Cycle}
    (h : q.Reaches earlier c)
    {r : Renderer}
    {report : Report}
    (hEnds : c.EndsIn r report)
    (hOwes : q.Owes (earlier ++ [(c, report)])) :
    r.screenKnown = false := by
  cases report with
  | committed seq stats =>
      have hNot := hOwes.1 (c, .committed seq stats) (by simp)
      cases hNot
  | failed err => exact hEnds
  | rejected seq err =>
      rw [show r = c.renderer from hEnds]
      refine h.owed ⟨fun e he => hOwes.1 e (by simp [he]), ?_⟩
      apply hOwes.2.imp_right
      rintro ⟨e, he, hFailed⟩
      rcases List.mem_append.mp he with hEarlier | hLast
      · exact ⟨e, hEarlier, hFailed⟩
      · rw [List.mem_singleton.mp hLast] at hFailed
        cases hFailed

/-
  The request has reached the cycles that ended and the one
  under way.  Between cycles the mailbox holds it until the first
  one, and the screen is unknown as long as it has to be.
-/
structure Kept
    (q : Request)
    (w : Watch) : Prop where
  logged :
    ∀ earlier c report, earlier ++ [(c, report)] <+: w.log →
      q.Reaches earlier c ∧
        ∀ seq stats, report = .committed seq stats →
          stats.repaint = c.repaints
  drawing :
    ∀ c, w.cycle = some c →
      q.Reaches w.log c ∧ c.Follows w.exchange.worker
  force :
    w.cycle = none → w.log = [] → w.exchange.mailbox.force = true
  unknown :
    w.cycle = none → q.Owes w.log →
      w.exchange.mailbox.invalidate = true ∨
        (w.exchange.worker.stage = .seeking ∨
            w.exchange.worker.stage = .stopped) ∧
          w.exchange.worker.renderer.screenKnown = false

namespace Kept

variable {q : Request}
variable {w : Watch}

/- The request has just been made. -/
theorem of_ask
    {x : Exchange}
    (h : (q.ask x.mailbox).isOk = true) :
    q.Kept (.start (x.step q.event)) := by
  cases hAnswer : q.ask x.mailbox with
  | error e =>
      rw [hAnswer] at h
      cases h
  | ok m =>
      rcases mailbox_of_ask hAnswer with ⟨hForce, hReset⟩
      rw [step_event hAnswer]
      refine
        ⟨by simp [Watch.start], by simp [Watch.start],
          fun _ _ => hForce, fun _ hOwes => ?_⟩
      rcases hOwes.2 with rfl | ⟨e, he, _⟩
      · exact Or.inl (hReset rfl)
      · cases he

/- Further requests do not undo it. -/
theorem ask
    (h : q.Kept w)
    {m : Mailbox}
    (hKeeps : w.exchange.mailbox.Keeps m) :
    q.Kept
      { w with exchange := { w.exchange with mailbox := m } } where
  logged := h.logged
  drawing := h.drawing
  force hNone hEmpty := hKeeps.force (h.force hNone hEmpty)
  unknown hNone hOwes :=
    (h.unknown hNone hOwes).imp_left hKeeps.invalidate

/- The request to forget has been taken, so the screen is unknown. -/
theorem screenKnown_takeInvalidate
    (h : q.Kept w)
    (hNone : w.cycle = none)
    (hOwes : q.Owes w.log) :
    (Worker.takeInvalidate w.exchange.mailbox
        w.exchange.worker.renderer).2.screenKnown = false := by
  rw [Worker.takeInvalidate_eq]
  split
  · rfl
  · rename_i hKeep
    exact ((h.unknown hNone hOwes).resolve_left hKeep).2

theorem seek
    (h : q.Kept w)
    (hStage : w.exchange.worker.stage = .seeking)
    (due : Bool) :
    q.Kept (w.step (.work due)) := by
  have hNone :=
    Watch.cycle_of_seeking (fun c hCycle => (h.drawing c hCycle).2)
      hStage
  have hUnknown := h.screenKnown_takeInvalidate hNone
  rcases w.step_seeking hStage due with ⟨m, _, _, hStep⟩
  rcases hStep with
    ⟨hStep, hForce, _⟩ | ⟨hStep, hForce⟩ | ⟨s, hStep⟩
  · rw [hStep]
    exact
      ⟨h.logged, by simp [hNone],
        fun _ hEmpty => hForce.trans (h.force hNone hEmpty),
        fun _ hOwes => Or.inr ⟨Or.inl rfl, hUnknown hOwes⟩⟩
  · rw [hStep]
    exact
      ⟨h.logged, by simp [hNone],
        fun _ hEmpty => hForce.trans (h.force hNone hEmpty),
        fun _ hOwes => Or.inr ⟨Or.inr rfl, hUnknown hOwes⟩⟩
  · rw [hStep]
    refine ⟨h.logged, ?_, nofun, nofun⟩
    intro c hCycle
    cases hCycle
    exact ⟨⟨h.force hNone, hUnknown⟩, rfl, rfl, rfl⟩

theorem draw
    (h : q.Kept w)
    (hDrawing : w.exchange.worker.stage.isDrawing = true)
    (due : Bool) :
    q.Kept (w.step (.work due)) := by
  rcases w.exchange.work_drawing hDrawing due with
    ⟨_, _, phase, last, hMailbox⟩
  rw [w.step_drawing hDrawing]
  refine ⟨h.logged, ?_, ?_, ?_⟩
  · intro c hCycle
    rcases h.drawing c hCycle with ⟨hReaches, hFollows⟩
    exact ⟨hReaches, hFollows.work hDrawing due⟩
  · intro hNone hEmpty
    rw [hMailbox]
    exact h.force hNone hEmpty
  · intro hNone hOwes
    rw [hMailbox]
    -- A cycle that began before the request leaves it alone.
    rcases h.unknown hNone hOwes with hKept | ⟨hRest, _⟩
    · exact Or.inl hKept
    · rcases hRest with hStage | hStage <;>
        (rw [hStage] at hDrawing
         cases hDrawing)

theorem report
    (h : q.Kept w)
    {report : Report}
    (hStage : w.exchange.worker.stage = .reporting report)
    (due : Bool) :
    q.Kept (w.step (.work due)) := by
  rw [w.step_reporting hStage]
  cases hCycle : w.cycle with
  | none =>
      refine ⟨by simpa using h.logged, by simp, ?_, ?_⟩
      · intro _ hEmpty
        exact h.force hCycle (by simpa using hEmpty)
      · intro _ hOwes
        have hOwed : q.Owes w.log := by simpa using hOwes
        rcases h.unknown hCycle hOwed with hKept | ⟨hRest, _⟩
        · exact Or.inl hKept
        · rw [hStage] at hRest
          rcases hRest with hStage | hStage <;> cases hStage
  | some c =>
      rcases h.drawing c hCycle with ⟨hReaches, hFollows⟩
      simp only [Cycle.Follows, hStage] at hFollows
      refine ⟨?_, by simp, by simp, ?_⟩
      · intro earlier c' report' hPrefix
        rcases List.prefix_concat_iff.mp hPrefix with hLast | hBefore
        · have hParts := List.append_inj' hLast rfl
          cases hParts.1
          cases hParts.2
          refine ⟨hReaches, ?_⟩
          rintro seq stats rfl
          exact hFollows.1
        · exact h.logged earlier c' report' hBefore
      · intro _ hOwes
        exact Or.inr ⟨Or.inl rfl, hReaches.unknown hFollows hOwes⟩

theorem step
    (h : q.Kept w)
    (e : Event) :
    q.Kept (w.step e) := by
  apply Watch.step_cases h
  · exact fun m hKeeps _ => h.ask hKeeps
  · exact h.seek
  · exact h.draw
  · exact fun report => h.report

theorem run
    (h : q.Kept w)
    (events : List Event) :
    q.Kept (w.run events) :=
  Watch.run_induction (fun e _ _ hKept => hKept.step e) h

end Kept

------------------------------------------------------------
-- The First Frame
------------------------------------------------------------

/-
  The first frame that is committed for a snapshot picked after
  a request draws everything, with one exception: every cycle
  before it was rejected, so that the first of them took the
  request with it, and nothing else makes the frame draw
  everything.  A request to forget the screen is never lost.
-/
theorem first_frame_repaints
    {q : Request}
    {x : Exchange}
    (hAsk : (q.ask x.mailbox).isOk = true)
    {events : List Event}
    {earlier : List (Cycle × Report)}
    {c : Cycle}
    {seq : Nat}
    {stats : FrameStats}
    (hLog :
      earlier ++ [(c, .committed seq stats)] <+:
        ((Watch.start (x.step q.event)).run events).log)
    (hFirst : ∀ e ∈ earlier, e.2.isCommitted = false) :
    (q = .reset → stats.repaint = true) ∧
      (stats.repaint = false ↔
        earlier ≠ [] ∧ (∀ e ∈ earlier, e.2.isRejected = true) ∧
          c.force = false ∧
          c.renderer.needsRepaint c.snapshot.size = false) := by
  have hKept := (Kept.of_ask hAsk).run events
  rcases hKept.logged earlier c _ hLog with ⟨hReaches, hStats⟩
  have hRepaint : stats.repaint = c.repaints := hStats seq stats rfl
  have hOwed :
      q.Owes earlier → stats.repaint = true := by
    intro hOwes
    rw [hRepaint, Cycle.repaints, Renderer.needsRepaint,
      hReaches.owed hOwes]
    simp
  refine ⟨fun hReset => hOwed ⟨hFirst, Or.inl hReset⟩, ?_⟩
  constructor
  · intro hNot
    have hParts := hNot
    rw [hRepaint, Cycle.repaints, Bool.or_eq_false_iff] at hParts
    refine ⟨?_, ?_, hParts⟩
    · intro hEmpty
      rw [hReaches.first hEmpty] at hParts
      cases hParts.1
    · intro e he
      cases hReport : e.2 with
      | committed seq stats =>
          have hNone := hFirst e he
          rw [hReport] at hNone
          cases hNone
      | rejected seq err => rfl
      | failed err =>
          have hFailed : e.2.isFailed = true := by rw [hReport]; rfl
          rw [hOwed ⟨hFirst, Or.inr ⟨e, he, hFailed⟩⟩] at hNot
          cases hNot
  · rintro ⟨_, _, hForce, hNeeds⟩
    rw [hRepaint, Cycle.repaints, hForce, hNeeds]
    rfl

/- A letter in its place. -/
def mended : Snapshot where
  seq := 3
  grid := Watch.broken.grid.set 0 0 (.styled ['c'] .default)

/- The cycles of a log that is known by its reports. -/
theorem log_of_reports
    {log : List (Cycle × Report)}
    {first second : Report}
    (h : log.map Prod.snd = [first, second]) :
    ∃ c d, log = [(c, first), (d, second)] := by
  rcases List.map_eq_cons_iff.mp h with
    ⟨⟨c, report⟩, later, rfl, rfl, hLater⟩
  rcases List.map_eq_cons_iff.mp hLater with
    ⟨⟨d, report⟩, rest, rfl, rfl, hRest⟩
  cases List.map_eq_nil_iff.mp hRest
  exact ⟨c, d, rfl⟩

/-
  The frame that carries the request is not delivered.  After a
  reset the first frame that is committed draws everything.
-/
theorem first_frame_repaints_undelivered :
    ∃ earlier c seq stats,
      earlier ++ [(c, .committed seq stats)] <+:
          ((Watch.start
              (((Exchange.start .minimal { writes := [.all, .fail] }
                  ).run (Watch.drawn Watch.plain)).step
                Request.forceRepaint.event)).run
            (List.replicate 6 (.work true) ++
              .reset :: List.replicate 6 (.work true))).log ∧
        stats.repaint = true := by
  let x : Exchange :=
    (Exchange.start .minimal { writes := [.all, .fail] }).run
      (Watch.drawn Watch.plain)
  let events : List Event :=
    List.replicate 6 (.work true) ++
      .reset :: List.replicate 6 (.work true)
  have hReports :
      ((Watch.start (x.step Request.forceRepaint.event)).run
          events).log.map Prod.snd =
        [.failed (.outputWriteFailure .wentAway),
          .committed 1 ⟨2, 2, 25, true⟩] := by
    decide +kernel
  rcases log_of_reports hReports with ⟨failed, c, hLog⟩
  have hPrefix :
      [(failed, .failed (.outputWriteFailure .wentAway))] ++
          [(c, .committed 1 ⟨2, 2, 25, true⟩)] <+:
        ((Watch.start (x.step Request.forceRepaint.event)).run
          events).log := by
    rw [hLog]
    exact List.prefix_rfl
  refine ⟨_, c, 1, _, hPrefix, ?_⟩
  have hFrame :=
    first_frame_repaints (q := .forceRepaint) (x := x)
      (by decide +kernel) hPrefix (by simp [Report.isCommitted])
  by_contra hNot
  have hRejected :=
    (hFrame.2.mp (Bool.eq_false_iff.mpr hNot)).2.1 _
      List.mem_cons_self
  cases hRejected

/-
  A request is lost with a snapshot that is rejected: not every
  first frame draws everything.
-/
theorem request_lost :
    ¬ ∀ (caps : Capabilities) (sink : Sink) (before : List Event)
        (q : Request),
      let x := (Exchange.start caps sink).run before
      (q.ask x.mailbox).isOk = true →
        ∀ (after : List Event) (earlier : List (Cycle × Report))
          (c : Cycle) (seq : Nat) (stats : FrameStats),
          earlier ++ [(c, .committed seq stats)] <+:
              ((Watch.start (x.step q.event)).run after).log →
            (∀ e ∈ earlier, e.2.isCommitted = false) →
              stats.repaint = true := by
  intro hAlways
  have hReports :
      ((Watch.start
          (((Exchange.start .minimal {}).run
              (Watch.drawn Watch.plain ++ [.submit Watch.broken])).step
            Request.forceRepaint.event)).run
          (List.replicate 6 (.work true) ++ Watch.drawn mended)
          ).log.map Prod.snd =
        [.rejected 2 (.invalidWideCharPairing 0 0),
          .committed 3 ⟨1, 3, 2, false⟩] := by
    decide +kernel
  rcases log_of_reports hReports with ⟨rejected, c, hLog⟩
  have hRepaint :=
    hAlways .minimal {}
      (Watch.drawn Watch.plain ++ [.submit Watch.broken])
      .forceRepaint (by decide +kernel) _ [(rejected, _)] c 3 _
      (by rw [hLog]; exact List.prefix_rfl)
      (by simp [Report.isCommitted])
  cases hRepaint

end Request

end Redraw
