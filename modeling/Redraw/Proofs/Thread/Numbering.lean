import Redraw.Proofs.Thread.Recording
import Mathlib.Data.List.Induction

/-
  Numbering: how the numbers of snapshots go up.

  A number stands in several places: in the slot, with the cycle
  under way, in the renderer and in the mailbox.  A snapshot is
  accepted only under a number that is greater than all of them,
  and a cycle either advances what is committed or draws it
  again.

  Key definitions include:
    * `Cycle.Carries`: where the number of a cycle stands
    * `Cycle.Advances`: a newer snapshot, or a redraw
    * `Watch.used`: numbers that may not come again
    * `Watch.Numbered`: the invariant
    * `Exchange.Asked`: a redraw was asked for in time

  Main declarations:
    * `Watch.Numbered.step`, `Watch.Numbered.run`
    * `Watch.numbers_in_order`
-/

namespace Redraw

------------------------------------------------------------
-- The Number of a Cycle
------------------------------------------------------------

/-
  The frame under way counts as committed for the renderer, and
  the mailbox has not been told yet.
-/
def Stage.isCommitting : Stage → Bool
  | .settling _ none => true
  | _ => false

namespace Cycle

/- Nothing has been committed since the cycle began. -/
structure Precedes
    (c : Cycle)
    (x : Exchange) : Prop where
  committed : x.worker.renderer.committed = c.renderer.committed
  noted :
    x.mailbox.lastCommitted = c.renderer.committed.map Snapshot.seq

/-
  The stage holds the snapshot of the cycle.  It is committed
  first to the renderer and then to the mailbox.
-/
def Carries
    (c : Cycle)
    (x : Exchange) : Prop :=
  match x.worker.stage with
  | .planning s _ => s = c.snapshot ∧ c.Precedes x
  | .encoding s _ => s = c.snapshot ∧ c.Precedes x
  | .writing frame => frame.snapshot = c.snapshot ∧ c.Precedes x
  | .settling frame none =>
      frame.snapshot = c.snapshot ∧
        x.worker.renderer.committed = some c.snapshot ∧
          x.mailbox.lastCommitted =
            c.renderer.committed.map Snapshot.seq
  | .settling frame (some _) =>
      frame.snapshot = c.snapshot ∧ c.Precedes x
  | .reporting (.committed seq _) =>
      seq = c.snapshot.seq ∧
        x.worker.renderer.committed = some c.snapshot ∧
          x.mailbox.lastCommitted = some c.snapshot.seq
  | .reporting (.rejected seq _) =>
      seq = c.snapshot.seq ∧ c.Precedes x
  | .reporting (.failed _) => c.Precedes x
  | .dead => c.Precedes x
  | .seeking => False
  | .stopped => False

variable {c : Cycle}
variable {x : Exchange}

/- Requests do not concern the cycle. -/
theorem Carries.congr
    (h : c.Carries x)
    {y : Exchange}
    (hStage : y.worker.stage = x.worker.stage)
    (hCommitted :
      y.worker.renderer.committed = x.worker.renderer.committed)
    (hNoted : y.mailbox.lastCommitted = x.mailbox.lastCommitted) :
    c.Carries y := by
  have hPrecedes : c.Precedes y ↔ c.Precedes x :=
    ⟨fun hBefore =>
        ⟨hCommitted.symm.trans hBefore.committed,
          hNoted.symm.trans hBefore.noted⟩,
      fun hBefore =>
        ⟨hCommitted.trans hBefore.committed,
          hNoted.trans hBefore.noted⟩⟩
  simp only [Carries, hStage, hCommitted, hNoted, hPrecedes]
  exact h

/- The number in the mailbox is the old one or the cycle's own. -/
theorem Carries.noted
    (h : c.Carries x) :
    x.mailbox.lastCommitted = c.renderer.committed.map Snapshot.seq ∨
      x.mailbox.lastCommitted = some c.snapshot.seq := by
  unfold Carries at h
  split at h
  · exact Or.inl h.2.noted
  · exact Or.inl h.2.noted
  · exact Or.inl h.2.noted
  · exact Or.inl h.2.2
  · exact Or.inl h.2.noted
  · exact Or.inr h.2.2
  · exact Or.inl h.2.noted
  · exact Or.inl h.noted
  · exact Or.inl h.noted
  · exact h.elim
  · exact h.elim

/- While the cycle draws, the mailbox holds the old number. -/
theorem Carries.noted_of_drawing
    (h : c.Carries x)
    (hDrawing : x.worker.stage.isDrawing = true) :
    x.mailbox.lastCommitted =
      c.renderer.committed.map Snapshot.seq := by
  rcases Stage.isDrawing_cases hDrawing with
    ⟨s, force, hStage⟩ | ⟨s, plan, hStage⟩ | ⟨frame, hStage⟩ |
      ⟨frame, failure, hStage⟩
  · simp only [Carries, hStage] at h
    exact h.2.noted
  · simp only [Carries, hStage] at h
    exact h.2.noted
  · simp only [Carries, hStage] at h
    exact h.2.noted
  · cases failure with
    | none =>
        simp only [Carries, hStage] at h
        exact h.2.2
    | some cause =>
        simp only [Carries, hStage] at h
        exact h.2.noted

/- But for one moment the mailbox and the renderer agree. -/
theorem Carries.noted_of_settled
    (h : c.Carries x)
    (hSettled : x.worker.stage.isCommitting = false) :
    x.mailbox.lastCommitted =
      x.worker.renderer.committed.map Snapshot.seq := by
  have hBefore (hPrecedes : c.Precedes x) :
      x.mailbox.lastCommitted =
        x.worker.renderer.committed.map Snapshot.seq := by
    rw [hPrecedes.noted, hPrecedes.committed]
  unfold Carries at h
  split at h
  · exact hBefore h.2
  · exact hBefore h.2
  · exact hBefore h.2
  · rename_i hStage
    rw [hStage] at hSettled
    cases hSettled
  · exact hBefore h.2
  · rw [h.2.2, h.2.1]
    rfl
  · exact hBefore h.2
  · exact hBefore h
  · exact hBefore h
  · exact h.elim
  · exact h.elim

/- A step of the thread hands the snapshot on. -/
theorem Carries.work
    (h : c.Carries x)
    (hDrawing : x.worker.stage.isDrawing = true)
    (due : Bool) :
    c.Carries (x.work due) := by
  rcases Stage.isDrawing_cases hDrawing with
    ⟨s, force, hStage⟩ | ⟨s, plan, hStage⟩ | ⟨frame, hStage⟩ |
      ⟨frame, failure, hStage⟩
  · simp only [Carries, hStage] at h
    rcases h with ⟨rfl, hBefore⟩
    simp only [Exchange.work, hStage, Worker.planNext]
    split
    · exact ⟨rfl, hBefore.committed, hBefore.noted⟩
    · exact ⟨rfl, hBefore.committed, hBefore.noted⟩
  · simp only [Carries, hStage] at h
    simp only [Exchange.work, hStage, Worker.encodeNext]
    exact ⟨h.1, h.2.committed, h.2.noted⟩
  · simp only [Carries, hStage] at h
    rcases h with ⟨hFrame, hBefore⟩
    have hSame :
        (x.worker.renderer.flushTo x.sink).2.1.committed =
          x.worker.renderer.committed := rfl
    simp only [Exchange.work, hStage, Worker.writeNext]
    split
    · exact ⟨hFrame, congrArg some hFrame, hBefore.noted⟩
    · rename_i hFlush
      rw [hFlush] at hSame
      exact ⟨hFrame, hSame.trans hBefore.committed, hBefore.noted⟩
    · rename_i hFlush
      rw [hFlush] at hSame
      exact ⟨hSame.trans hBefore.committed, hBefore.noted⟩
  · simp only [Carries, hStage] at h
    simp only [Exchange.work, hStage, Worker.settleNext]
    cases failure with
    | none =>
        exact
          ⟨congrArg Snapshot.seq h.1, h.2.1,
            congrArg (some ∘ Snapshot.seq) h.1⟩
    | some cause => exact ⟨h.2.committed, h.2.noted⟩

/- The number of a snapshot that a report is about. -/
def Answers
    (c : Cycle)
    (report : Report) : Prop :=
  ∀ n,
    ((∃ stats, report = .committed n stats) ∨
        ∃ err, report = .rejected n err) →
      n = c.snapshot.seq

/-
  When the cycle is about to report, the mailbox has been told.
  What is committed is the cycle's own snapshot, or it is what
  it was.
-/
theorem Carries.ends
    (h : c.Carries x)
    {report : Report}
    (hStage : x.worker.stage = .reporting report) :
    x.mailbox.lastCommitted =
        x.worker.renderer.committed.map Snapshot.seq ∧
      x.worker.renderer.committed =
        (if report.isCommitted then some c.snapshot
          else c.renderer.committed) ∧
      c.Answers report := by
  simp only [Carries, hStage] at h
  cases report with
  | committed seq stats =>
      rcases h with ⟨rfl, hCommitted, hNoted⟩
      refine ⟨?_, hCommitted, ?_⟩
      · rw [hNoted, hCommitted]
        rfl
      · rintro n (⟨_, hSame⟩ | ⟨_, hSame⟩) <;> cases hSame
        rfl
  | rejected seq err =>
      rcases h with ⟨rfl, hBefore⟩
      refine ⟨?_, hBefore.committed, ?_⟩
      · rw [hBefore.noted, hBefore.committed]
      · rintro n (⟨_, hSame⟩ | ⟨_, hSame⟩) <;> cases hSame
        rfl
  | failed err =>
      refine ⟨?_, h.committed, ?_⟩
      · rw [h.noted, h.committed]
      · rintro n (⟨_, hSame⟩ | ⟨_, hSame⟩) <;> cases hSame

/-
  The snapshot is newer than the one that was committed, or it
  is that one.
-/
def Advances (c : Cycle) : Prop :=
  c.isRedraw = true ∨ ∀ s ∈ c.renderer.committed, s.seq < c.snapshot.seq

theorem Advances.le
    (h : c.Advances)
    {s : Snapshot}
    (hs : s ∈ c.renderer.committed) :
    s.seq ≤ c.snapshot.seq := by
  rcases h with hRedraw | hNewer
  · have hSame : c.renderer.committed = some c.snapshot := by
      simpa [isRedraw] using hRedraw
    rw [Option.mem_def, hSame] at hs
    rw [Option.some.inj hs]
  · exact Nat.le_of_lt (hNewer s hs)

end Cycle

------------------------------------------------------------
-- The Invariant
------------------------------------------------------------

/- A step that draws sends no report. -/
theorem Exchange.reports_drawing
    (x : Exchange)
    (h : x.worker.stage.isDrawing = true)
    (due : Bool) :
    (x.work due).reports = x.reports := by
  rcases Stage.isDrawing_cases h with
    ⟨s, force, hStage⟩ | ⟨s, plan, hStage⟩ | ⟨frame, hStage⟩ |
      ⟨frame, failure, hStage⟩ <;>
    simp only [work, hStage]

namespace Watch

/- The numbers of the cycle under way and of what is committed. -/
def used (w : Watch) : List Nat :=
  w.cycle.toList.map (·.snapshot.seq)
    ++ w.exchange.mailbox.lastCommitted.toList

/- What was committed when the cycle under way began. -/
def base (w : Watch) : Option Snapshot :=
  match w.cycle with
  | some c => c.renderer.committed
  | none => w.exchange.worker.renderer.committed

/- A pick does not commit anything. -/
theorem base_afterPick
    {w : Watch}
    (hNone : w.cycle = none)
    (s : Snapshot) :
    (w.afterPick s).base = w.base := by
  simp [base, afterPick, hNone, Worker.committed_takeInvalidate]

/-
  Every cycle is under watch, and every number is in its place.
  The numbers that were accepted grow; `latest` is the greatest,
  and a pending snapshot has it, while all others in use are
  smaller.  Frames that were committed grow in number too, but
  for redraws.
-/
structure Numbered
    (accepted : List Snapshot)
    (w : Watch) : Prop where
  increasing : accepted.Pairwise fun s t => s.seq < t.seq
  latest :
    w.exchange.mailbox.latest = accepted.getLast?.map Snapshot.seq
  covered :
    ∀ s ∈ accepted, ∃ n ∈ w.exchange.mailbox.latest, s.seq ≤ n
  used : ∀ n ∈ w.used, ∃ k ∈ w.exchange.mailbox.latest, n ≤ k
  pending :
    ∀ s ∈ w.exchange.mailbox.pending,
      w.exchange.mailbox.latest = some s.seq ∧ ∀ n ∈ w.used, n < s.seq
  cycle : ∀ c ∈ w.cycle, c.Carries w.exchange ∧ c.Advances
  resting :
    w.cycle = none →
      (w.exchange.worker.stage = .seeking ∨
          w.exchange.worker.stage = .stopped) ∧
        w.exchange.mailbox.lastCommitted =
          w.exchange.worker.renderer.committed.map Snapshot.seq
  reports : w.log.map Prod.snd = w.exchange.reports
  answered : ∀ e ∈ w.log, e.1.Answers e.2
  logged :
    ∀ e ∈ w.log, e.2.isCommitted = true →
      ∃ s ∈ w.base, e.1.snapshot.seq ≤ s.seq
  ordered :
    w.log.Pairwise fun e e' =>
      e.2.isCommitted = true → e'.2.isCommitted = true →
        e.1.snapshot.seq ≤ e'.1.snapshot.seq ∧
          (e.1.snapshot.seq = e'.1.snapshot.seq →
            e'.1.isRedraw = true)

namespace Numbered

variable {accepted : List Snapshot}
variable {w : Watch}

theorem start
    (caps : Capabilities)
    (sink : Sink) :
    Numbered [] (.start (.start caps sink)) where
  increasing := List.Pairwise.nil
  latest := rfl
  covered := by simp
  used := by simp [Watch.used, Watch.start, Exchange.start]
  pending := by simp [Watch.start, Exchange.start]
  cycle := by simp [Watch.start]
  resting _ := ⟨Or.inl rfl, rfl⟩
  reports := rfl
  answered := by simp [Watch.start]
  logged := by simp [Watch.start]
  ordered := List.Pairwise.nil

/- Snapshots with different numbers are different. -/
theorem nodup (h : Numbered accepted w) : accepted.Nodup :=
  h.increasing.imp fun hLess hSame =>
    Nat.ne_of_lt hLess (congrArg Snapshot.seq hSame)

/- No cycle is under way while the thread looks for work. -/
theorem cycle_of_seeking
    (h : Numbered accepted w)
    (hStage : w.exchange.worker.stage = .seeking) :
    w.cycle = none := by
  cases hCycle : w.cycle with
  | none => rfl
  | some c =>
      have hCarries := (h.cycle c hCycle).1
      simp only [Cycle.Carries, hStage] at hCarries

/- A cycle is under way in every other stage but the last. -/
theorem exists_cycle
    (h : Numbered accepted w)
    (hSeeking : w.exchange.worker.stage ≠ .seeking)
    (hStopped : w.exchange.worker.stage ≠ .stopped) :
    ∃ c, w.cycle = some c ∧ c.Carries w.exchange ∧ c.Advances := by
  cases hCycle : w.cycle with
  | none =>
      rcases (h.resting hCycle).1 with hStage | hStage
      · exact absurd hStage hSeeking
      · exact absurd hStage hStopped
  | some c => exact ⟨c, rfl, h.cycle c hCycle⟩

theorem exists_cycle_of_drawing
    (h : Numbered accepted w)
    (hDrawing : w.exchange.worker.stage.isDrawing = true) :
    ∃ c, w.cycle = some c ∧ c.Carries w.exchange ∧ c.Advances :=
  h.exists_cycle (Stage.ne_of_isDrawing hDrawing).1
    (Stage.ne_of_isDrawing hDrawing).2

theorem exists_cycle_of_reporting
    (h : Numbered accepted w)
    {report : Report}
    (hReporting : w.exchange.worker.stage = .reporting report) :
    ∃ c, w.cycle = some c ∧ c.Carries w.exchange ∧ c.Advances := by
  apply h.exists_cycle <;> intro hStage
  · cases hReporting.symm.trans hStage
  · cases hReporting.symm.trans hStage

/- Numbers stay in place while only flags change. -/
theorem quiet
    (h : Numbered accepted w)
    {x : Exchange}
    (hSame : w.exchange.mailbox.SameSnapshots x.mailbox)
    (hCommitted :
      x.worker.renderer.committed =
        w.exchange.worker.renderer.committed)
    (hStage :
      x.worker.stage = w.exchange.worker.stage ∨
        w.exchange.worker.stage = .seeking ∧
          x.worker.stage = .stopped)
    (hReports : x.reports = w.exchange.reports) :
    Numbered accepted { w with exchange := x } := by
  have hUsed : Watch.used { w with exchange := x } = w.used := by
    simp only [Watch.used, hSame.lastCommitted]
  have hBase : Watch.base { w with exchange := x } = w.base := by
    simp only [Watch.base, hCommitted]
  refine
    ⟨h.increasing, hSame.latest.trans h.latest, ?_, ?_, ?_, ?_, ?_,
      h.reports.trans hReports.symm, h.answered, ?_, h.ordered⟩
  · rw [hSame.latest]
    exact h.covered
  · rw [hUsed, hSame.latest]
    exact h.used
  · rw [hUsed, hSame.latest, hSame.pending]
    exact h.pending
  · intro c hCycle
    rcases h.cycle c hCycle with ⟨hCarries, hAdvances⟩
    refine ⟨hCarries.congr (hStage.resolve_right ?_) hCommitted
      hSame.lastCommitted, hAdvances⟩
    rintro ⟨hSeeking, _⟩
    cases (h.cycle_of_seeking hSeeking).symm.trans hCycle
  · intro hNone
    rcases h.resting hNone with ⟨hRest, hNoted⟩
    refine ⟨?_, ?_⟩
    · rcases hStage with hSame | ⟨_, hStopped⟩
      · simp only [hSame]
        exact hRest
      · exact Or.inr hStopped
    · simp only [hSame.lastCommitted, hCommitted]
      exact hNoted
  · rw [hBase]
    exact h.logged

/- A snapshot is accepted under a new number. -/
theorem submitted
    (h : Numbered accepted w)
    {s : Snapshot}
    (hNewer : ∀ n ∈ w.exchange.mailbox.latest, n < s.seq) :
    Numbered (accepted ++ [s])
      (w.withMailbox (w.exchange.mailbox.afterSubmit s)) := by
  have hLast (n : Nat)
      (hn : ∃ k ∈ w.exchange.mailbox.latest, n ≤ k) :
      n < s.seq := by
    rcases hn with ⟨k, hk, hLe⟩
    exact Nat.lt_of_le_of_lt hLe (hNewer k hk)
  refine
    ⟨?_, by simp [Watch.withMailbox, Mailbox.afterSubmit], ?_, ?_, ?_,
      ?_, h.resting, h.reports, h.answered, h.logged, h.ordered⟩
  · rw [List.pairwise_append]
    refine ⟨h.increasing, List.pairwise_singleton _ _, ?_⟩
    intro t ht u hu
    rw [List.mem_singleton.mp hu]
    exact hLast t.seq (h.covered t ht)
  · intro t ht
    refine ⟨s.seq, rfl, ?_⟩
    rcases List.mem_append.mp ht with hOld | hNew
    · exact Nat.le_of_lt (hLast t.seq (h.covered t hOld))
    · rw [List.mem_singleton.mp hNew]
  · exact fun n hn => ⟨s.seq, rfl, Nat.le_of_lt (hLast n (h.used n hn))⟩
  · intro t ht
    cases ht
    exact ⟨rfl, fun n hn => hLast n (h.used n hn)⟩
  · intro c hCycle
    rcases h.cycle c hCycle with ⟨hCarries, hAdvances⟩
    exact ⟨hCarries.congr rfl rfl rfl, hAdvances⟩

/- A pending snapshot of another size is dropped. -/
theorem resized
    (h : Numbered accepted w)
    (size : Size) :
    Numbered accepted
      (w.withMailbox (w.exchange.mailbox.afterResize size)) := by
  refine
    ⟨h.increasing, h.latest, h.covered, h.used, ?_, ?_, h.resting,
      h.reports, h.answered, h.logged, h.ordered⟩
  · intro s hs
    exact h.pending s (Option.mem_filter_iff.mp hs).1
  · intro c hCycle
    rcases h.cycle c hCycle with ⟨hCarries, hAdvances⟩
    exact ⟨hCarries.congr rfl rfl rfl, hAdvances⟩

/- The pending snapshot is newer than the committed one. -/
theorem lt_of_pending
    (h : Numbered accepted w)
    (hStage : w.exchange.worker.stage = .seeking)
    {s t : Snapshot}
    (hs : w.exchange.mailbox.pending = some s)
    (ht : w.exchange.worker.renderer.committed = some t) :
    t.seq < s.seq := by
  have hNoted := (h.resting (h.cycle_of_seeking hStage)).2
  apply (h.pending s hs).2
  simp [Watch.used, hNoted, ht]

/- So to pick it is no redraw. -/
theorem isRedraw_of_pending
    (h : Numbered accepted w)
    (hStage : w.exchange.worker.stage = .seeking)
    {s : Snapshot}
    (hs : w.exchange.mailbox.pending = some s)
    (force : Bool) :
    Cycle.isRedraw
        ⟨s, force,
          (Worker.takeInvalidate w.exchange.mailbox
            w.exchange.worker.renderer).2⟩ =
      false := by
  rw [Cycle.isRedraw, Worker.committed_takeInvalidate,
    decide_eq_false_iff_not]
  intro hSame
  exact Nat.lt_irrefl _ (h.lt_of_pending hStage hs hSame)

/- A snapshot is picked. -/
theorem picked
    (h : Numbered accepted w)
    (hStage : w.exchange.worker.stage = .seeking)
    {s : Snapshot}
    (hSource : w.exchange.Offers s) :
    Numbered accepted (w.afterPick s) := by
  have hNone := h.cycle_of_seeking hStage
  have hNoted := (h.resting hNone).2
  have hCommitted :=
    Worker.committed_takeInvalidate w.exchange.mailbox
      w.exchange.worker.renderer
  constructor
  case increasing => exact h.increasing
  case latest => exact h.latest
  case covered => exact h.covered
  case used =>
    intro n hn
    simp only [Watch.used, Watch.afterPick, Option.toList_some,
      List.map_cons, List.map_nil, List.cons_append,
      List.nil_append, List.mem_cons] at hn
    rcases hn with rfl | hn
    · rcases hSource with hPending | ⟨_, _, hLast⟩
      · exact ⟨s.seq, (h.pending s hPending).1, Nat.le_refl _⟩
      · apply h.used
        simp [Watch.used, hNoted, hLast]
    · apply h.used
      simp only [Watch.used, List.mem_append]
      exact Or.inr hn
  case pending =>
    simp [Watch.afterPick, Exchange.sought, Worker.afterPick]
  case cycle =>
    intro c hCycle
    cases hCycle
    refine ⟨⟨rfl, rfl, ?_⟩, ?_⟩
    · simp only [hCommitted]
      exact hNoted
    · rcases hSource with hPending | ⟨_, _, hLast⟩
      · refine Or.inr fun t ht => ?_
        rw [hCommitted] at ht
        exact h.lt_of_pending hStage hPending ht
      · refine Or.inl ?_
        simp [Cycle.isRedraw, hCommitted, hLast]
  case resting => simp [Watch.afterPick]
  case reports => exact h.reports
  case answered => exact h.answered
  case logged =>
    rw [base_afterPick hNone]
    exact h.logged
  case ordered => exact h.ordered

/- The thread draws. -/
theorem drew
    (h : Numbered accepted w)
    (hDrawing : w.exchange.worker.stage.isDrawing = true)
    (due : Bool) :
    Numbered accepted { w with exchange := w.exchange.work due } := by
  rcases w.exchange.work_drawing hDrawing due with
    ⟨_, _, phase, last, hMailbox⟩
  have hLatest :
      (w.exchange.work due).mailbox.latest =
        w.exchange.mailbox.latest := by
    rw [hMailbox]
  have hPending :
      (w.exchange.work due).mailbox.pending =
        w.exchange.mailbox.pending := by
    rw [hMailbox]
  rcases h.exists_cycle_of_drawing hDrawing with
    ⟨c, hCycle, hCarries, hAdvances⟩
  have hNext := hCarries.work hDrawing due
  have hUsed :
      ∀ n ∈ Watch.used { w with exchange := w.exchange.work due },
        n ∈ w.used := by
    intro n hn
    simp only [Watch.used, hCycle, Option.toList_some, List.map_cons,
      List.map_nil, List.cons_append, List.nil_append,
      List.mem_cons] at hn ⊢
    rcases hn with rfl | hn
    · exact Or.inl rfl
    · rcases hNext.noted with hOld | hOwn
      · rw [hOld, ← hCarries.noted_of_drawing hDrawing] at hn
        exact Or.inr hn
      · rw [hOwn] at hn
        exact Or.inl (by simpa using hn)
  have hBase :
      Watch.base { w with exchange := w.exchange.work due } =
        w.base := by
    simp only [Watch.base, hCycle]
  refine
    ⟨h.increasing, hLatest.trans h.latest, ?_, ?_, ?_, ?_, ?_, ?_,
      h.answered, ?_, h.ordered⟩
  · rw [hLatest]
    exact h.covered
  · rw [hLatest]
    exact fun n hn => h.used n (hUsed n hn)
  · rw [hLatest, hPending]
    exact fun s hs =>
      ⟨(h.pending s hs).1, fun n hn =>
        (h.pending s hs).2 n (hUsed n hn)⟩
  · intro d hd
    cases hCycle.symm.trans hd
    exact ⟨hNext, hAdvances⟩
  · intro hNone
    cases hNone.symm.trans hCycle
  · rw [w.exchange.reports_drawing hDrawing]
    exact h.reports
  · rw [hBase]
    exact h.logged

/- The thread reports, and the cycle is over. -/
theorem reported
    (h : Numbered accepted w)
    {report : Report}
    (hStage : w.exchange.worker.stage = .reporting report) :
    Numbered accepted (w.afterReport report) := by
  rcases h.exists_cycle_of_reporting hStage with
    ⟨c, hCycle, hCarries, hAdvances⟩
  rcases hCarries.ends hStage with ⟨hNoted, hCommitted, hAnswers⟩
  have hBase : w.base = c.renderer.committed := by
    simp only [Watch.base, hCycle]
  -- A committed frame becomes the base; otherwise that stays.
  have hLogged :
      ∀ e ∈ w.log ++ [(c, report)], e.2.isCommitted = true →
        ∃ s ∈ w.exchange.worker.renderer.committed,
          e.1.snapshot.seq ≤ s.seq := by
    intro e he hDone
    rw [hCommitted]
    rcases List.mem_append.mp he with hOld | hNew
    · rcases h.logged e hOld hDone with ⟨s, hs, hLe⟩
      rw [hBase] at hs
      split
      · exact ⟨c.snapshot, rfl, Nat.le_trans hLe (hAdvances.le hs)⟩
      · exact ⟨s, hs, hLe⟩
    · cases List.mem_singleton.mp hNew
      rw [if_pos hDone]
      exact ⟨c.snapshot, rfl, Nat.le_refl _⟩
  have hUsed (n : Nat)
      (hn : n ∈ w.exchange.mailbox.lastCommitted.toList) :
      n ∈ w.used :=
    List.mem_append.mpr (Or.inr hn)
  simp only [Watch.afterReport, hCycle, Option.map_some,
    Option.toList_some]
  constructor
  case increasing => exact h.increasing
  case latest => exact h.latest
  case covered => exact h.covered
  case used => exact fun n hn => h.used n (hUsed n hn)
  case pending =>
    exact fun s hs =>
      ⟨(h.pending s hs).1, fun n hn =>
        (h.pending s hs).2 n (hUsed n hn)⟩
  case cycle => simp
  case resting => exact fun _ => ⟨Or.inl rfl, hNoted⟩
  case reports => simp [h.reports]
  case answered =>
    intro e he
    rcases List.mem_append.mp he with hOld | hNew
    · exact h.answered e hOld
    · cases List.mem_singleton.mp hNew
      exact hAnswers
  case logged => exact hLogged
  case ordered =>
    rw [List.pairwise_append]
    refine ⟨h.ordered, List.pairwise_singleton _ _, ?_⟩
    intro e he e' he' hDone _
    cases List.mem_singleton.mp he'
    rcases h.logged e he hDone with ⟨s, hs, hLe⟩
    rw [hBase] at hs
    refine ⟨Nat.le_trans hLe (hAdvances.le hs), fun hSame => ?_⟩
    refine hAdvances.resolve_right fun hNewer => ?_
    have hLess := hNewer s hs
    simp only at hSame
    omega

/- Every event keeps the numbers in place. -/
theorem step
    (h : Numbered accepted w)
    (e : Event) :
    Numbered (accepted ++ w.exchange.accepted e) (w.step e) := by
  have hTurns := w.turns_step e
  generalize w.step e = w' at hTurns ⊢
  cases hTurns with
  | quiet m snapshots asked hAccepted =>
      rw [hAccepted, List.append_nil]
      exact h.quiet snapshots rfl (Or.inl rfl) rfl
  | rested due event stage m next ends snapshots =>
      subst event
      simp only [Exchange.accepted, List.append_nil]
      refine h.quiet snapshots ?_ ?_ rfl
      · exact
          Worker.committed_takeInvalidate w.exchange.mailbox
            w.exchange.worker.renderer
      · exact
          ends.imp (fun hNext => hNext.trans stage.symm)
            (fun hNext => ⟨stage, hNext⟩)
  | submitted s event granted newer =>
      subst event
      simp only [Exchange.accepted, granted, if_true]
      exact h.submitted newer
  | resized size event granted =>
      subst event
      simp only [Exchange.accepted, List.append_nil]
      exact h.resized size
  | picked due event stage s source =>
      subst event
      simp only [Exchange.accepted, List.append_nil]
      exact h.picked stage source
  | drew due event drawing =>
      subst event
      simp only [Exchange.accepted, List.append_nil]
      exact h.drew drawing due
  | reported due event report stage =>
      subst event
      simp only [Exchange.accepted, List.append_nil]
      exact h.reported stage

/- And so do events one after another. -/
theorem run
    (h : Numbered accepted w)
    (events : List Event) :
    Numbered (accepted ++ w.exchange.collect Exchange.accepted events)
      (w.run events) := by
  induction events generalizing accepted w with
  | nil =>
      rw [Exchange.collect, List.append_nil]
      exact h
  | cons e later ih =>
      have hLater := ih (h.step e)
      rw [exchange_step, List.append_assoc] at hLater
      exact hLater

/- What the mailbox holds for committed does not go down. -/
theorem lastCommitted_step
    (h : Numbered accepted w)
    (e : Event)
    {n : Nat}
    (hn : n ∈ w.exchange.mailbox.lastCommitted) :
    ∃ k ∈ (w.step e).exchange.mailbox.lastCommitted, n ≤ k := by
  have hTurns := w.turns_step e
  generalize w.step e = w' at hTurns ⊢
  cases hTurns with
  | quiet m snapshots =>
      exact ⟨n, snapshots.lastCommitted.trans hn, Nat.le_refl n⟩
  | rested due event stage m next ends snapshots =>
      exact ⟨n, snapshots.lastCommitted.trans hn, Nat.le_refl n⟩
  | submitted s event => exact ⟨n, hn, Nat.le_refl n⟩
  | resized size event => exact ⟨n, hn, Nat.le_refl n⟩
  | picked due event stage s source => exact ⟨n, hn, Nat.le_refl n⟩
  | reported due event report stage => exact ⟨n, hn, Nat.le_refl n⟩
  | drew due event drawing =>
      rcases h.exists_cycle_of_drawing drawing with
        ⟨c, _, hCarries, hAdvances⟩
      have hOld := hCarries.noted_of_drawing drawing
      rcases (hCarries.work drawing due).noted with hSame | hOwn
      · exact ⟨n, hSame.trans (hOld.symm.trans hn), Nat.le_refl n⟩
      · rw [Option.mem_def, hOld] at hn
        rcases Option.map_eq_some_iff.mp hn with ⟨s, hs, rfl⟩
        exact ⟨c.snapshot.seq, hOwn, hAdvances.le hs⟩

theorem lastCommitted_run
    (h : Numbered accepted w)
    (events : List Event)
    {n : Nat}
    (hn : n ∈ w.exchange.mailbox.lastCommitted) :
    ∃ k ∈ (w.run events).exchange.mailbox.lastCommitted, n ≤ k := by
  induction events generalizing accepted w n with
  | nil => exact ⟨n, hn, Nat.le_refl n⟩
  | cons e later ih =>
      rcases h.lastCommitted_step e hn with ⟨k, hk, hLe⟩
      rcases ih (h.step e) hk with ⟨j, hj, hLe'⟩
      exact ⟨j, hj, Nat.le_trans hLe hLe'⟩

end Numbered

end Watch

------------------------------------------------------------
-- Redraws
------------------------------------------------------------

/-
  A call to draw the committed snapshot again was granted when
  just these cycles had begun.
-/
def Exchange.Asked
    (x : Exchange)
    (events : List Event)
    (cycles : List Cycle) : Prop :=
  ∃ before e after,
    events = before ++ e :: after ∧
      (x.run before).AsksRedraw e ∧
        ((Watch.start x).run before).picked = cycles

theorem Exchange.Asked.concat
    {x : Exchange}
    {events : List Event}
    {cycles : List Cycle}
    (h : x.Asked events cycles)
    (e : Event) :
    x.Asked (events ++ [e]) cycles := by
  rcases h with ⟨before, q, after, rfl, hAsks, hPicked⟩
  exact ⟨before, q, after ++ [e], by simp, hAsks, hPicked⟩

namespace Watch

/-
  The request to draw again was made since the last pick, and so
  it was for every redraw that has begun.
-/
structure Requested
    (x : Exchange)
    (events : List Event)
    (w : Watch) : Prop where
  flagged :
    w.exchange.mailbox.redraw = true → x.Asked events w.picked
  begun :
    ∀ earlier c later, w.picked = earlier ++ c :: later →
      c.isRedraw = true → x.Asked events earlier

theorem Requested.step
    {x : Exchange}
    {events : List Event}
    {w : Watch}
    (h : Requested x events w)
    (hRun : (start x).run events = w)
    {accepted : List Snapshot}
    (hNumbered : Numbered accepted w)
    (e : Event) :
    Requested x (events ++ [e]) (w.step e) := by
  have hFlagged (hRedraw : w.exchange.mailbox.redraw = true) :
      x.Asked (events ++ [e]) w.picked :=
    (h.flagged hRedraw).concat e
  have hBegun :
      ∀ earlier c later, w.picked = earlier ++ c :: later →
        c.isRedraw = true → x.Asked (events ++ [e]) earlier :=
    fun earlier c later hPicked hRedraw =>
      (h.begun earlier c later hPicked hRedraw).concat e
  have hTurns := w.turns_step e
  generalize w.step e = w' at hTurns ⊢
  cases hTurns with
  | rested due event stage m next ends snapshots asked =>
      exact ⟨fun hRedraw => hFlagged (asked hRedraw), hBegun⟩
  | quiet m snapshots asked =>
      refine ⟨fun hRedraw => ?_, hBegun⟩
      rcases asked hRedraw with hOld | hNow
      · exact hFlagged hOld
      · refine ⟨events, e, [], rfl, ?_, ?_⟩
        · rw [← hRun, exchange_run] at hNow
          exact hNow
        · rw [hRun]
          rfl
  | submitted s event => exact ⟨hFlagged, hBegun⟩
  | resized size event => exact ⟨hFlagged, hBegun⟩
  | picked due event stage s source =>
      refine ⟨nofun, ?_⟩
      rw [picked_afterPick (hNumbered.cycle_of_seeking stage)]
      intro earlier c later hPicked hRedraw
      rcases List.eq_nil_or_concat later with rfl | ⟨l, d, rfl⟩
      · have hParts := List.append_inj' hPicked rfl
        cases hParts.2
        rw [← hParts.1]
        rcases source with hPending | ⟨_, hAsked, _⟩
        · rw [hNumbered.isRedraw_of_pending stage hPending] at hRedraw
          cases hRedraw
        · exact hFlagged hAsked
      · rw [List.concat_eq_append, ← List.cons_append,
          ← List.append_assoc] at hPicked
        have hParts := List.append_inj' hPicked rfl
        exact hBegun earlier c l hParts.1 hRedraw
  | drew due event drawing =>
      rcases w.exchange.work_drawing drawing due with
        ⟨_, _, phase, last, hMailbox⟩
      refine ⟨fun hRedraw => hFlagged ?_, hBegun⟩
      simp only [hMailbox] at hRedraw
      exact hRedraw
  | reported due event report stage =>
      refine ⟨?_, ?_⟩
      · rw [picked_afterReport]
        exact hFlagged
      · rw [picked_afterReport]
        exact hBegun

theorem Requested.run
    (caps : Capabilities)
    (sink : Sink)
    (events : List Event) :
    Requested (.start caps sink) events
      ((start (.start caps sink)).run events) := by
  induction events using List.reverseRecOn with
  | nil =>
      refine ⟨nofun, fun earlier c later hPicked => ?_⟩
      simp [picked, Watch.run, start] at hPicked
  | append_singleton events e ih =>
      rw [run_concat]
      exact
        ih.step rfl ((Numbered.start caps sink).run events) e

------------------------------------------------------------
-- The Order of Numbers
------------------------------------------------------------

/-
  Numbers of accepted snapshots go up.  A pending snapshot has
  the greatest of them, and it is newer than the one under way
  and the one committed.  What is committed never goes back, and
  the mailbox and the renderer tell the same number of it but
  for the moment between them.  Frames are committed in the
  order of their numbers, and the same number comes again only
  for a redraw that was asked for after the cycles before it had
  begun.
-/
theorem numbers_in_order
    (caps : Capabilities)
    (sink : Sink)
    (events : List Event) :
    let x := Exchange.start caps sink
    let w := (start x).run events
    let m := w.exchange.mailbox
    (x.collect Exchange.accepted events).Pairwise
        (fun s t => s.seq < t.seq) ∧
      (∀ s ∈ m.pending,
        m.latest = some s.seq ∧
          (∀ c ∈ w.cycle, c.snapshot.seq < s.seq) ∧
            ∀ n ∈ m.lastCommitted, n < s.seq) ∧
      (∀ n ∈ m.lastCommitted,
        (∀ c ∈ w.cycle, n ≤ c.snapshot.seq) ∧
          ∀ later,
            ∃ k ∈ (w.run later).exchange.mailbox.lastCommitted,
              n ≤ k) ∧
      (w.exchange.worker.stage.isCommitting = false →
        m.lastCommitted =
          w.exchange.worker.renderer.committed.map Snapshot.seq) ∧
      w.log.map Prod.snd = w.exchange.reports ∧
      ∀ first c n stats between c' n' stats' later,
        w.log =
            first ++ (c, .committed n stats)
              :: (between ++ (c', .committed n' stats') :: later) →
          n ≤ n' ∧
            (n = n' →
              c'.isRedraw = true ∧
                x.Asked events
                  (first.map Prod.fst ++ c :: between.map Prod.fst)) := by
  intro x w m
  have h : Numbered (x.collect Exchange.accepted events) w :=
    (Numbered.start caps sink).run events
  have hRequested : Requested x events w :=
    .run caps sink events
  have hUsed (c : Cycle) (hc : c ∈ w.cycle) :
      c.snapshot.seq ∈ w.used := by
    simp [used, Option.mem_def.mp hc]
  have hNoted (n : Nat) (hn : n ∈ m.lastCommitted) : n ∈ w.used := by
    simp [used, show w.exchange.mailbox.lastCommitted = some n from hn]
  refine ⟨h.increasing, ?_, ?_, ?_, h.reports, ?_⟩
  · intro s hs
    rcases h.pending s hs with ⟨hLatest, hLess⟩
    exact
      ⟨hLatest, fun c hc => hLess _ (hUsed c hc), fun n hn =>
        hLess n (hNoted n hn)⟩
  · intro n hn
    refine ⟨fun c hc => ?_, fun later => h.lastCommitted_run later hn⟩
    rcases h.cycle c hc with ⟨hCarries, hAdvances⟩
    rw [Option.mem_def] at hn
    rcases hCarries.noted with hOld | hOwn
    · rcases Option.map_eq_some_iff.mp (hOld.symm.trans hn) with
        ⟨s, hs, rfl⟩
      exact hAdvances.le hs
    · exact Nat.le_of_eq (Option.some.inj (hn.symm.trans hOwn))
  · intro hSettled
    cases hCycle : w.cycle with
    | none => exact (h.resting hCycle).2
    | some c => exact (h.cycle c hCycle).1.noted_of_settled hSettled
  · intro first c n stats between c' n' stats' later hLog
    have hAnswers := h.answered
    have hOrdered := h.ordered
    rw [hLog] at hAnswers hOrdered
    have hFirst : n = c.snapshot.seq :=
      hAnswers (c, .committed n stats) (by simp) n
        (Or.inl ⟨stats, rfl⟩)
    have hSecond : n' = c'.snapshot.seq :=
      hAnswers (c', .committed n' stats') (by simp) n'
        (Or.inl ⟨stats', rfl⟩)
    have hPair :=
      (List.pairwise_cons.mp (List.pairwise_append.mp hOrdered).2.1).1
        (c', .committed n' stats') (by simp) rfl rfl
    rw [hFirst, hSecond]
    refine ⟨hPair.1, fun hSame => ⟨hPair.2 hSame, ?_⟩⟩
    refine
      hRequested.begun _ c' (later.map Prod.fst ++ w.cycle.toList) ?_
        (hPair.2 hSame)
    simp [picked, hLog]

/- A snapshot is drawn, and drawn again on request. -/
example :
    let events :=
      drawn plain ++ .forceRepaint :: List.replicate 6 (.work true)
    let w := (start (.start .minimal {})).run events
    (w.log.map fun e => (e.1.snapshot.seq, e.1.isRedraw)) =
      [(1, false), (1, true)] := by
  decide +kernel

end Watch

end Redraw
