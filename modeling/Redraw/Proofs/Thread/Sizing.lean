import Redraw.Proofs.Thread.Refinement

/-
  Sizing: frames have the size that was declared last.

  A size is checked when a snapshot is submitted, when another
  size is declared, and when the committed snapshot is to be
  drawn again.  So whatever is picked has the declared size, and
  a frame of another one can only be on its way when that one
  was declared during its cycle.

  Key definitions include:
    * `Mailbox.Admits`: a snapshot has the size, if any
    * `Exchange.declared`: a size is declared
    * `Exchange.ResizedInFlight`: in the middle of a cycle
    * `Watch.Sized`: the invariant

  Main declarations:
    * `Exchange.size_run`: the size is the last declared
    * `Worker.admits_of_pick`
    * `Watch.Sized.step`, `Watch.Sized.run`
    * `Watch.keeps_to_size`
-/

namespace Redraw

------------------------------------------------------------
-- Declared Sizes
------------------------------------------------------------

namespace Mailbox

/- A snapshot has the declared size, if there is one. -/
def Admits
    (m : Mailbox)
    (s : Snapshot) : Prop :=
  ∀ size ∈ m.size, s.size = size

/- The pending snapshot has it. -/
def IsSized (m : Mailbox) : Prop :=
  ∀ s ∈ m.pending, m.Admits s

/- A snapshot that stays in the slot, or leaves it. -/
theorem IsSized.congr
    {m m' : Mailbox}
    (h : m.IsSized)
    (hPending : m'.pending = m.pending ∨ m'.pending = none)
    (hSize : m'.size = m.size) :
    m'.IsSized := by
  intro s hs
  rcases hPending with hSame | hNone
  · rw [hSame] at hs
    rw [Admits, hSize]
    exact h s hs
  · rw [hNone] at hs
    cases hs

end Mailbox

namespace Exchange

/- A call to declare a size that is granted. -/
def declared (x : Exchange) : Event → List Size
  | .resize size =>
      if (x.mailbox.resize size).isOk then [size] else []
  | _ => []

/- Nothing else changes the size. -/
theorem size_step
    (x : Exchange)
    (e : Event) :
    (x.step e).mailbox.size =
      (x.declared e).getLast?.or x.mailbox.size := by
  have hKept
      (hAsk : ∀ due, e ≠ .work due)
      (hOther : ∀ size, e ≠ .resize size) :
      (x.step e).mailbox.size = x.mailbox.size := by
    rcases x.step_of_ask hAsk with ⟨m, hStep, -, hSize⟩
    rw [hStep]
    exact hSize hOther
  cases e with
  | submit s
  | forceRepaint
  | reset
  | stop => exact hKept nofun nofun
  | resize size =>
      simp only [step, declared]
      cases hAnswer : x.mailbox.resize size with
      | error e => rfl
      | ok m =>
          rw [(Mailbox.resize_eq_ok hAnswer).1]
          rfl
  | work due =>
      exact (x.mailbox_of_work due).1

/- The size of a mailbox is the one that was declared last. -/
theorem size_run
    (x : Exchange)
    (events : List Event) :
    (x.run events).mailbox.size =
      (x.collect declared events).getLast?.or x.mailbox.size := by
  induction events generalizing x with
  | nil => rfl
  | cons e later ih =>
      rw [collect, List.getLast?_append, Option.or_assoc,
        ← size_step]
      exact ih (x.step e)

/-
  A pending snapshot keeps to the size: it is checked when it is
  submitted, and dropped when another size is declared.
-/
theorem isSized_step
    {x : Exchange}
    (h : x.mailbox.IsSized)
    (e : Event) :
    (x.step e).mailbox.IsSized := by
  have hUpdate
      {answer : Except Error Mailbox}
      (hOk : ∀ m, answer = .ok m → m.IsSized) :
      (x.update answer).mailbox.IsSized := by
    rcases x.update_cases h hOk with ⟨m, hSame, hSized⟩
    rw [hSame]
    exact hSized
  cases e with
  | submit s =>
      refine hUpdate fun m hOk => ?_
      rcases Mailbox.submit_eq_ok hOk with ⟨rfl, -, hFits, -⟩
      intro t ht
      cases ht
      exact hFits
  | forceRepaint =>
      refine hUpdate fun m hOk => ?_
      rw [(Mailbox.forceRepaint_eq_ok hOk).1]
      exact h.congr (Or.inl rfl) rfl
  | resize size =>
      refine hUpdate fun m hOk => ?_
      rw [(Mailbox.resize_eq_ok hOk).1]
      intro s hs size' hSize
      cases hSize
      simpa using (Option.mem_filter_iff.mp hs).2
  | reset =>
      refine hUpdate fun m hOk => ?_
      rw [(Mailbox.reset_eq_ok hOk).1]
      exact h.congr (Or.inl rfl) rfl
  | stop => exact h.congr (Or.inl rfl) rfl
  | work due =>
      rcases x.mailbox_of_work due with ⟨hSize, -, hPending⟩
      exact h.congr hPending hSize

/-
  A size was declared while the cycle that is under way now was
  under way already: it has not been reported since.
-/
def ResizedInFlight
    (x : Exchange)
    (events : List Event)
    (size : Size) : Prop :=
  ∃ before after,
    events = before ++ .resize size :: after ∧
      ((x.run before).mailbox.resize size).isOk = true ∧
      let old := (Watch.start x).run before
      let now := (Watch.start x).run events
      old.cycle.isSome = true ∧ now.cycle = old.cycle ∧
        now.log = old.log

theorem ResizedInFlight.concat
    {x : Exchange}
    {events : List Event}
    {size : Size}
    (h : x.ResizedInFlight events size)
    {e : Event}
    {w' : Watch}
    (hStep : (Watch.start x).run (events ++ [e]) = w')
    (hCycle : w'.cycle = ((Watch.start x).run events).cycle)
    (hLog : w'.log = ((Watch.start x).run events).log) :
    x.ResizedInFlight (events ++ [e]) size := by
  rcases h with
    ⟨before, after, rfl, hGranted, hSome, hSame, hNone⟩
  subst hStep
  exact
    ⟨before, after ++ [e], by simp, hGranted, hSome,
      hCycle.trans hSame, hLog.trans hNone⟩

end Exchange

------------------------------------------------------------
-- Picking
------------------------------------------------------------

namespace Worker

variable {started due : Bool}
variable {m : Mailbox}
variable {r : Renderer}
variable {s : Snapshot}
variable {force : Bool}

/- Without a pending snapshot only what fits is drawn again. -/
theorem committedFits_of_pick
    (hNone : m.pending = none)
    (h : (pick started due m r).1 = .draw s force) :
    committedFits m r = true := by
  by_contra hUnfit
  rw [← committedFits_takeInvalidate, Bool.not_eq_true] at hUnfit
  have hTaken : (takeInvalidate m r).1 = { m with invalidate := false } :=
    congrArg Prod.fst (takeInvalidate_eq m r)
  have hDropped :
      dropRedraw (takeInvalidate m r).1 (takeInvalidate m r).2 =
        { m with invalidate := false, redraw := false } := by
    rw [dropRedraw, hUnfit, hTaken]
    simp [hNone]
  simp only [pick, hDropped, hNone, Option.isSome_none,
    Bool.false_eq_true, or_self, and_false, if_false] at h
  split at h <;> cases h

/- Whatever is picked has the declared size. -/
theorem admits_of_pick
    (hSized : m.IsSized)
    (h : (pick started due m r).1 = .draw s force) :
    m.Admits s := by
  rcases pick_eq started due m r with
    ⟨work, m', hPick, hCases⟩
  have hWork : work = .draw s force := by
    rw [← h, hPick]
  rcases hCases with
    ⟨_, hWait, -⟩ | ⟨_, hStop, -⟩ | ⟨t, hDraw, -, -, hSource⟩
  · cases hWait.symm.trans hWork
  · cases hStop.symm.trans hWork
  · obtain ⟨rfl, -⟩ := Work.draw.inj (hDraw.symm.trans hWork)
    rcases hSource with hSlot | ⟨hNone, -, hLast⟩
    · exact hSized t hSlot
    · have hFits := committedFits_of_pick hNone h
      rw [committedFits, hLast] at hFits
      intro size hSize
      rw [Option.mem_def.mp hSize] at hFits
      exact (of_decide_eq_true hFits).symm

end Worker

/- What is picked, told from the call that is owed for it. -/
theorem Exchange.pick_of_calls
    {x : Exchange}
    {due : Bool}
    (hStage : x.worker.stage = .seeking)
    {s : Snapshot}
    {force : Bool}
    (h :
      x.calls (.work due) =
        x.mailbox.forgetting ++ [.render s force]) :
    (Worker.pick x.worker.started due x.mailbox x.worker.renderer).1 =
      .draw s force := by
  rw [calls, if_pos hStage] at h
  have hWork := List.append_cancel_left h
  cases hPick :
      (Worker.pick x.worker.started due x.mailbox
        x.worker.renderer).1 with
  | draw t force' =>
      rw [hPick, Work.calls, List.cons.injEq, Call.render.injEq]
        at hWork
      rw [hWork.1.1, hWork.1.2]
  | wait =>
      rw [hPick] at hWork
      cases hWork
  | stop =>
      rw [hPick] at hWork
      cases hWork

------------------------------------------------------------
-- The Invariant
------------------------------------------------------------

namespace Watch

/-
  A pending snapshot has the declared size, and so does the one
  under way, unless the size was declared after it was picked.
-/
structure Sized
    (x : Exchange)
    (events : List Event)
    (w : Watch) : Prop where
  pending : w.exchange.mailbox.IsSized
  cycle :
    ∀ c ∈ w.cycle, ∀ size ∈ w.exchange.mailbox.size,
      c.snapshot.size = size ∨ x.ResizedInFlight events size

namespace Sized

variable {x : Exchange}
variable {events : List Event}
variable {w : Watch}

/-
  A cycle that stays under way has the size still, or the size
  has just been declared.
-/
theorem cycle_stays
    (h : Sized x events w)
    (hRun : (Watch.start x).run events = w)
    {e : Event}
    {w' : Watch}
    (hStep : (Watch.start x).run (events ++ [e]) = w')
    (hSize :
      w'.exchange.mailbox.size =
        (w.exchange.declared e).getLast?.or w.exchange.mailbox.size)
    (hCycle : w'.cycle = w.cycle)
    (hLog : w'.log = w.log) :
    ∀ c ∈ w'.cycle, ∀ size ∈ w'.exchange.mailbox.size,
      c.snapshot.size = size ∨
        x.ResizedInFlight (events ++ [e]) size := by
  intro c hc size hNow
  rw [hCycle] at hc
  rw [Option.mem_def, hSize] at hNow
  rcases Option.or_eq_some_iff.mp hNow with
    hDeclared | ⟨hNone, hBefore⟩
  · cases e with
    | resize declared =>
        simp only [Exchange.declared] at hDeclared
        split at hDeclared
        · rename_i hGranted
          obtain rfl : declared = size := by simpa using hDeclared
          have hExchange := exchange_run (Watch.start x) events
          rw [hRun] at hExchange
          rw [hExchange] at hGranted
          refine Or.inr ⟨events, [], rfl, hGranted, ?_, ?_, ?_⟩
          · rw [hRun, Option.mem_def.mp hc]
            rfl
          · rw [hStep, hRun]
            exact hCycle
          · rw [hStep, hRun]
            exact hLog
        · cases hDeclared
    | _ => cases hDeclared
  · rcases h.cycle c hc size hBefore with hSame | hResized
    · exact Or.inl hSame
    · exact
        Or.inr
          (hResized.concat hStep (by rw [hRun]; exact hCycle)
            (by rw [hRun]; exact hLog))

theorem step
    (h : Sized x events w)
    (hRun : (Watch.start x).run events = w)
    (e : Event) :
    Sized x (events ++ [e]) (w.step e) := by
  have hStep : (Watch.start x).run (events ++ [e]) = w.step e := by
    rw [run_concat, hRun]
  have hSize :
      (w.step e).exchange.mailbox.size =
        (w.exchange.declared e).getLast?.or
          w.exchange.mailbox.size := by
    rw [exchange_step]
    exact w.exchange.size_step e
  have hPending : (w.step e).exchange.mailbox.IsSized := by
    rw [exchange_step]
    exact Exchange.isSized_step h.pending e
  have hTurns := w.turns_step e
  generalize w.step e = w' at hTurns hStep hSize hPending ⊢
  have hStays := h.cycle_stays hRun hStep hSize
  refine ⟨hPending, ?_⟩
  cases hTurns with
  | quiet m => exact hStays rfl rfl
  | rested due event stage m next => exact hStays rfl rfl
  | submitted s event => exact hStays rfl rfl
  | resized size event => exact hStays rfl rfl
  | drew due event => exact hStays rfl rfl
  | reported due event report =>
      intro c hc
      cases hc
  | picked due event stage s source hCalls =>
      subst event
      intro c hc size hNow
      cases hc
      exact
        Or.inl
          (Worker.admits_of_pick h.pending
            (Exchange.pick_of_calls stage hCalls) size hNow)

theorem run
    (caps : Capabilities)
    (sink : Sink)
    (events : List Event) :
    Sized (.start caps sink) events
      ((Watch.start (.start caps sink)).run events) := by
  induction events using List.reverseRecOn with
  | nil =>
      constructor
      · intro s hs
        cases hs
      · intro c hc
        cases hc
  | append_singleton events e ih =>
      rw [run_concat]
      exact ih.step rfl e

end Sized

------------------------------------------------------------
-- Frames
------------------------------------------------------------

/-
  The sink is only called with the frame of the cycle under way,
  which was made for its snapshot.
-/
theorem Replays.frame_of_sink
    {p : Painting}
    {calls done : List Call}
    {accepted : List Snapshot}
    {w : Watch}
    (h : Replays p calls done w)
    (hNumbered : Numbered accepted w)
    {e : Event}
    (hCalled : (w.exchange.step e).sink ≠ w.exchange.sink) :
    ∃ c ∈ w.cycle, ∃ frame,
      w.exchange.worker.stage = .writing frame ∧
        c.renderer.prepare c.snapshot c.force =
          (.ok frame, w.exchange.worker.renderer) := by
  by_cases hAsk : ∀ due, e ≠ .work due
  · rcases w.exchange.step_of_ask hAsk with ⟨m, hStep, -⟩
    rw [hStep] at hCalled
    exact absurd rfl hCalled
  · rcases not_forall_not.mp hAsk with ⟨due, rfl⟩
    simp only [Exchange.step, Exchange.work] at hCalled
    cases hStage : w.exchange.worker.stage with
    | writing frame =>
        have hDrawing : w.exchange.worker.stage.isDrawing = true := by
          rw [hStage]
          rfl
        rcases hNumbered.exists_cycle_of_drawing hDrawing with
          ⟨c, hCycle, -⟩
        rcases h.drawing c hCycle with ⟨-, hSame, hUnderWay⟩
        simp only [Dispatch.UnderWay, hStage] at hUnderWay
        have hPrepare :
            c.renderer.prepare c.snapshot c.force =
              (.ok frame, w.exchange.worker.renderer) := by
          rw [← hSame]
          exact hUnderWay.1
        exact ⟨c, hCycle, frame, rfl, hPrepare⟩
    | _ =>
        rw [hStage] at hCalled
        exact absurd rfl hCalled

/-
  Whatever happens in whatever order: the size of the mailbox is
  the one declared last, and a pending snapshot has it.  So has
  every snapshot that is picked, be it from the slot or to be
  drawn again.  A frame of another size is written only if the
  size was declared while that frame was on its way.
-/
theorem keeps_to_size
    (caps : Capabilities)
    (sink : Sink)
    (events : List Event) :
    let start := Exchange.start caps sink
    let w := (Watch.start start).run events
    let x := w.exchange
    x = start.run events ∧
      x.mailbox.size =
        (start.collect Exchange.declared events).getLast? ∧
      (∀ s ∈ x.mailbox.pending, x.mailbox.Admits s) ∧
      (∀ started due s force,
        (Worker.pick started due x.mailbox x.worker.renderer).1 =
            .draw s force →
          x.mailbox.Admits s) ∧
      ∀ e, (x.step e).sink ≠ x.sink →
        ∃ c ∈ w.cycle, ∃ frame,
          x.worker.stage = .writing frame ∧
            c.renderer.prepare c.snapshot c.force =
              (.ok frame, x.worker.renderer) ∧
            ∀ size ∈ x.mailbox.size,
              c.snapshot.size = size ∨
                start.ResizedInFlight events size := by
  intro start w x
  have hExchange : x = start.run events :=
    exchange_run (Watch.start start) events
  have hSized : Sized start events w := .run caps sink events
  have hNumbered : Numbered (start.collect Exchange.accepted events) w :=
    (Numbered.start caps sink).run events
  have hRun :
      ∃ done,
        Replays (.start caps sink)
          (start.collect Exchange.calls events) done w :=
    (Replays.start caps sink).run rfl (Numbered.start caps sink) events
  rcases hRun with ⟨done, hReplays⟩
  refine ⟨hExchange, ?_, hSized.pending, ?_, ?_⟩
  · rw [hExchange, start.size_run]
    exact Option.or_none
  · intro started due s force hPick
    exact Worker.admits_of_pick hSized.pending hPick
  · intro e hCalled
    rcases hReplays.frame_of_sink hNumbered hCalled with
      ⟨c, hCycle, frame, hStage, hPrepare⟩
    exact
      ⟨c, hCycle, frame, hStage, hPrepare, hSized.cycle c hCycle⟩

/- A frame on its way is written though its size is no more. -/
example :
    let x :=
      (Exchange.start .minimal {}).run
        [.submit plain, .work true, .work true, .work true,
          .resize ⟨2, 2⟩]
    x.mailbox.size = some ⟨2, 2⟩ ∧ plain.size = ⟨1, 4⟩ ∧
      (x.step (.work true)).sink.writeCalls = 1 := by
  decide +kernel

end Watch

end Redraw
