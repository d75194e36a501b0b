import Redraw.Proofs.Thread.Numbering
import Mathlib.Data.List.Nodup
import Mathlib.Data.List.Pairwise

/-
  Fates: what becomes of every accepted snapshot.

  A snapshot waits in the slot until it is picked, replaced or
  dropped, and a snapshot that was picked is under way until its
  cycle ends.  A redraw is a cycle of its own, for a snapshot
  whose fate is settled, and does not change it.

  Key definitions include:
    * `Fate`: all that can become of a snapshot
    * `Watch.ended`: the cycles with some end, without redraws
    * `Exchange.fated`: the snapshots of every fate
    * `Watch.Accounted`: the invariant

  Main declarations:
    * `Watch.Accounted.step`, `Watch.Accounted.run`
    * `Exchange.exactly_one_fate`
-/

namespace Redraw

------------------------------------------------------------
-- Fates
------------------------------------------------------------

/- What can become of an accepted snapshot. -/
inductive Fate
  | pending
  | inFlight
  | committed
  | rejected
  | failed
  | replaced
  | dropped
  deriving DecidableEq

namespace Fate

def all : List Fate :=
  [.pending, .inFlight, .committed, .rejected, .failed, .replaced,
    .dropped]

theorem mem_all (fate : Fate) : fate ∈ all := by
  cases fate <;> decide

end Fate

/- The snapshots of cycles that are no redraws. -/
def Cycle.fresh (cycles : List Cycle) : List Snapshot :=
  (cycles.filter (!·.isRedraw)).map (·.snapshot)

/- The snapshots whose own cycle ended with such a report. -/
def Watch.ended
    (w : Watch)
    (kind : Report → Bool) : List Snapshot :=
  Cycle.fresh ((w.log.filter (kind ·.2)).map Prod.fst)

/-
  The snapshots of every fate after a run.  One whose sink broke
  in the middle of a call stays in flight.
-/
def Exchange.fated
    (x : Exchange)
    (events : List Event)
    (fate : Fate) : List Snapshot :=
  let w := (Watch.start x).run events
  match fate with
  | .pending => w.exchange.mailbox.pending.toList
  | .inFlight => Cycle.fresh w.cycle.toList
  | .committed => w.ended Report.isCommitted
  | .rejected => w.ended Report.isRejected
  | .failed => w.ended Report.isFailed
  | .replaced => (x.collect Exchange.replaced events).map Prod.fst
  | .dropped => (x.collect Exchange.dropped events).map Prod.fst

------------------------------------------------------------
-- Fresh Snapshots
------------------------------------------------------------

namespace Cycle

@[simp]
theorem fresh_append (l l' : List Cycle) :
    fresh (l ++ l') = fresh l ++ fresh l' := by
  simp [fresh]

theorem fresh_redraw
    {c : Cycle}
    (h : c.isRedraw = true) :
    fresh [c] = [] := by
  simp [fresh, h]

theorem fresh_own
    {c : Cycle}
    (h : c.isRedraw = false) :
    fresh [c] = [c.snapshot] := by
  simp [fresh, h]

theorem Perm.fresh
    {l l' : List Cycle}
    (h : l.Perm l') :
    (fresh l).Perm (fresh l') :=
  (h.filter _).map _

end Cycle

namespace Watch

/- Every report is of one of three kinds. -/
theorem log_perm (log : List (Cycle × Report)) :
    log.Perm
      (log.filter (·.2.isCommitted) ++ log.filter (·.2.isRejected)
        ++ log.filter (·.2.isFailed)) := by
  induction log with
  | nil => exact List.Perm.refl _
  | cons e later ih =>
      rcases e with ⟨c, report⟩
      cases report with
      | committed seq stats => exact ih.cons _
      | rejected seq err =>
          refine (ih.cons _).trans ?_
          simp only [Report.isCommitted, Report.isRejected,
            Report.isFailed, List.filter_cons, if_true,
            Bool.false_eq_true, if_false, List.append_assoc]
          exact List.perm_middle.symm
      | failed err =>
          refine (ih.cons _).trans ?_
          simp only [Report.isCommitted, Report.isRejected,
            Report.isFailed, List.filter_cons, if_true,
            Bool.false_eq_true, if_false]
          exact List.perm_middle.symm

/- What was picked is under way or has ended in one way. -/
theorem fresh_perm (w : Watch) :
    (Cycle.fresh w.picked).Perm
      (Cycle.fresh w.cycle.toList ++ w.ended Report.isCommitted
        ++ w.ended Report.isRejected ++ w.ended Report.isFailed) := by
  have hLog :=
    Cycle.Perm.fresh ((log_perm w.log).map Prod.fst)
  simp only [List.map_append, Cycle.fresh_append] at hLog
  simp only [picked, Cycle.fresh_append, ended]
  refine (hLog.append_right _).trans ?_
  rw [List.perm_iff_count]
  intro s
  simp only [List.count_append]
  omega

end Watch

------------------------------------------------------------
-- Conservation
------------------------------------------------------------

/-
  What was accepted was picked, replaced or dropped, or it is
  pending, and all of that just once.
-/
def Conserved
    (accepted picked replaced dropped : List Snapshot)
    (pending : Option Snapshot) : Prop :=
  accepted.Perm (picked ++ replaced ++ dropped ++ pending.toList)

namespace Conserved

variable {accepted picked replaced dropped : List Snapshot}
variable {pending : Option Snapshot}

/- A pending snapshot was accepted. -/
theorem mem
    {s : Snapshot}
    (h : Conserved accepted picked replaced dropped (some s)) :
    s ∈ accepted := by
  apply h.mem_iff.mpr
  simp

/- A newer snapshot takes the slot. -/
theorem submit
    (h : Conserved accepted picked replaced dropped pending)
    (s : Snapshot) :
    Conserved (accepted ++ [s]) picked
      (replaced ++ pending.toList) dropped (some s) := by
  apply (h.append_right [s]).trans
  rw [List.perm_iff_count]
  intro t
  simp only [List.count_append, Option.toList_some]
  omega

/- The slot keeps its snapshot, or loses it. -/
theorem resize
    (h : Conserved accepted picked replaced dropped pending)
    (size : Size) :
    Conserved accepted picked replaced
      (dropped ++ pending.toList.filter (·.size ≠ size))
      (pending.filter (·.size = size)) := by
  apply h.trans
  rw [List.append_assoc _ dropped, List.append_assoc _ (dropped ++ _),
    List.append_assoc dropped]
  apply List.Perm.append_left
  apply List.Perm.append_left
  cases pending with
  | none => exact List.Perm.refl _
  | some s =>
      by_cases hSize : s.size = size <;>
        simp [Option.filter, hSize]

/- The snapshot in the slot is picked. -/
theorem pick
    {s : Snapshot}
    (h : Conserved accepted picked replaced dropped (some s)) :
    Conserved accepted (picked ++ [s]) replaced dropped none := by
  apply h.trans
  rw [List.perm_iff_count]
  intro t
  simp only [List.count_append, Option.toList_some, Option.toList_none,
    List.count_nil]
  omega

end Conserved

------------------------------------------------------------
-- The Invariant
------------------------------------------------------------

namespace Watch

/-
  Every accepted snapshot is accounted for.  What is committed
  has its fate, and only that is drawn again.
-/
structure Accounted
    (accepted : List Snapshot)
    (replaced : List (Snapshot × Snapshot))
    (dropped : List (Snapshot × Size))
    (w : Watch) : Prop where
  conserved :
    Conserved accepted (Cycle.fresh w.picked)
      (replaced.map Prod.fst) (dropped.map Prod.fst)
      w.exchange.mailbox.pending
  replaced :
    ∀ p ∈ replaced, [p.1, p.2].Sublist accepted ∧ p.1.seq < p.2.seq
  base : ∀ s ∈ w.base, s ∈ w.ended Report.isCommitted
  redrawn :
    ∀ c ∈ w.picked, c.isRedraw = true →
      c.snapshot ∈ w.ended Report.isCommitted

namespace Accounted

variable {accepted : List Snapshot}
variable {replaced : List (Snapshot × Snapshot)}
variable {dropped : List (Snapshot × Size)}
variable {w : Watch}

theorem start
    (caps : Capabilities)
    (sink : Sink) :
    Accounted [] [] [] (Watch.start (.start caps sink)) where
  conserved := by
    simp [Conserved, Cycle.fresh, picked, Watch.start, Exchange.start]
  replaced := nofun
  base := by simp [Watch.base, Watch.start, Exchange.start]
  redrawn := by simp [picked, Watch.start]

/- Nothing becomes of a snapshot while only flags change. -/
theorem quiet
    (h : Accounted accepted replaced dropped w)
    {x : Exchange}
    (hPending : x.mailbox.pending = w.exchange.mailbox.pending)
    (hBase : Watch.base { w with exchange := x } = w.base) :
    Accounted accepted replaced dropped { w with exchange := x } := by
  refine ⟨?_, h.replaced, ?_, h.redrawn⟩
  · simp only [hPending]
    exact h.conserved
  · rw [hBase]
    exact h.base

/- A snapshot is accepted, and the pending one is replaced. -/
theorem submitted
    (h : Accounted accepted replaced dropped w)
    (hNumbered : Numbered accepted w)
    {s : Snapshot}
    (hNewer : ∀ n ∈ w.exchange.mailbox.latest, n < s.seq) :
    Accounted (accepted ++ [s])
      (replaced ++ w.exchange.mailbox.pending.toList.map (·, s))
      dropped
      (w.withMailbox (w.exchange.mailbox.afterSubmit s)) := by
  refine ⟨?_, ?_, h.base, h.redrawn⟩
  · simp only [List.map_append, List.map_map, Function.comp_def,
      List.map_id']
    exact h.conserved.submit s
  · intro p hp
    rcases List.mem_append.mp hp with hOld | hNew
    · rcases h.replaced p hOld with ⟨hLater, hLess⟩
      exact ⟨hLater.trans (List.sublist_append_left _ _), hLess⟩
    · simp only [List.mem_map, Option.mem_toList] at hNew
      rcases hNew with ⟨t, ht, rfl⟩
      have hConserved := h.conserved
      rw [Option.mem_def.mp ht] at hConserved
      exact
        ⟨(List.singleton_sublist.mpr hConserved.mem).append
            (List.Sublist.refl [s]),
          hNewer t.seq (hNumbered.pending t ht).1⟩

/- A pending snapshot is kept or dropped. -/
theorem resized
    (h : Accounted accepted replaced dropped w)
    (size : Size) :
    Accounted accepted replaced
      (dropped
        ++ (w.exchange.mailbox.pending.toList.filter
              (·.size ≠ size)).map (·, size))
      (w.withMailbox (w.exchange.mailbox.afterResize size)) := by
  refine ⟨?_, h.replaced, h.base, h.redrawn⟩
  simp only [List.map_append, List.map_map, Function.comp_def,
    List.map_id']
  exact h.conserved.resize size

/- A snapshot is picked, from the slot or again. -/
theorem picked
    (h : Accounted accepted replaced dropped w)
    (hNumbered : Numbered accepted w)
    (hStage : w.exchange.worker.stage = .seeking)
    {s : Snapshot}
    (hSource : w.exchange.Offers s) :
    Accounted accepted replaced dropped (w.afterPick s) := by
  have hNone := hNumbered.cycle_of_seeking hStage
  have hCommitted :=
    Worker.committed_takeInvalidate w.exchange.mailbox
      w.exchange.worker.renderer
  have hBase : w.base = w.exchange.worker.renderer.committed := by
    simp only [Watch.base, hNone]
  have hConserved := h.conserved
  constructor
  case conserved =>
    rw [picked_afterPick hNone, Cycle.fresh_append]
    rcases hSource with hPending | ⟨hPending, _, hLast⟩
    · rw [hPending] at hConserved
      rw [Cycle.fresh_own
        (hNumbered.isRedraw_of_pending hStage hPending _)]
      exact hConserved.pick
    · rw [hPending] at hConserved
      rw [Cycle.fresh_redraw, List.append_nil]
      · exact hConserved
      · simp [Cycle.isRedraw, hCommitted, hLast]
  case replaced => exact h.replaced
  case base =>
    rw [base_afterPick hNone]
    exact h.base
  case redrawn =>
    intro c hc hRedraw
    rw [picked_afterPick hNone] at hc
    rcases List.mem_append.mp hc with hOld | hNew
    · exact h.redrawn c hOld hRedraw
    · cases List.mem_singleton.mp hNew
      apply h.base
      simpa [hBase, Cycle.isRedraw, hCommitted] using hRedraw

/- A snapshot has its fate when its cycle ends. -/
theorem reported
    (h : Accounted accepted replaced dropped w)
    (hNumbered : Numbered accepted w)
    {report : Report}
    (hStage : w.exchange.worker.stage = .reporting report) :
    Accounted accepted replaced dropped (w.afterReport report) := by
  rcases hNumbered.exists_cycle_of_reporting hStage with
    ⟨c, hCycle, hCarries, _⟩
  rcases hCarries.ends hStage with ⟨_, hCommitted, _⟩
  have hBase : w.base = c.renderer.committed := by
    simp only [Watch.base, hCycle]
  have hEnded (s : Snapshot) (hs : s ∈ w.ended Report.isCommitted) :
      s ∈ (w.afterReport report).ended Report.isCommitted := by
    simp only [Watch.ended, Watch.afterReport, List.filter_append,
      List.map_append, Cycle.fresh_append, List.mem_append]
    exact Or.inl hs
  constructor
  case conserved =>
    rw [picked_afterReport]
    exact h.conserved
  case replaced => exact h.replaced
  case redrawn =>
    rw [picked_afterReport]
    exact fun d hd hRedraw => hEnded _ (h.redrawn d hd hRedraw)
  case base =>
    intro s hs
    simp only [Watch.base, Watch.afterReport, hCommitted] at hs
    split at hs
    · rename_i hDone
      cases hs
      cases hRedraw : c.isRedraw with
      | true =>
          refine hEnded _ (h.redrawn c ?_ hRedraw)
          simp [Watch.picked, hCycle]
      | false =>
          simp [Watch.ended, Watch.afterReport, hCycle, hDone,
            Cycle.fresh_own hRedraw]
    · rw [← hBase] at hs
      exact hEnded _ (h.base s hs)

/- Every event keeps the account. -/
theorem step
    (h : Accounted accepted replaced dropped w)
    (hNumbered : Numbered accepted w)
    (e : Event) :
    Accounted (accepted ++ w.exchange.accepted e)
      (replaced ++ w.exchange.replaced e)
      (dropped ++ w.exchange.dropped e)
      (w.step e) := by
  have hTurns := w.turns_step e
  generalize w.step e = w' at hTurns ⊢
  cases hTurns with
  | quiet m snapshots asked hAccepted hReplaced hDropped =>
      rw [hAccepted, hReplaced, hDropped]
      simp only [List.append_nil]
      exact h.quiet snapshots.pending rfl
  | rested due event stage m next ends snapshots =>
      subst event
      simp only [Exchange.accepted, Exchange.replaced,
        Exchange.dropped, List.append_nil]
      refine h.quiet snapshots.pending ?_
      simp only [Watch.base, Exchange.sought,
        Worker.committed_takeInvalidate]
  | submitted s event granted newer =>
      subst event
      simp only [Exchange.accepted, Exchange.replaced,
        Exchange.dropped, granted, if_true, List.append_nil]
      exact h.submitted hNumbered newer
  | resized size event granted =>
      subst event
      simp only [Exchange.accepted, Exchange.replaced,
        Exchange.dropped, granted, if_true, List.append_nil]
      exact h.resized size
  | picked due event stage s source =>
      subst event
      simp only [Exchange.accepted, Exchange.replaced,
        Exchange.dropped, List.append_nil]
      exact h.picked hNumbered stage source
  | drew due event drawing =>
      subst event
      simp only [Exchange.accepted, Exchange.replaced,
        Exchange.dropped, List.append_nil]
      rcases hNumbered.exists_cycle_of_drawing drawing with
        ⟨c, hCycle, _⟩
      rcases w.exchange.work_drawing drawing due with
        ⟨_, _, phase, last, hMailbox⟩
      refine h.quiet (by rw [hMailbox]) ?_
      simp only [Watch.base, hCycle]
  | reported due event report stage =>
      subst event
      simp only [Exchange.accepted, Exchange.replaced,
        Exchange.dropped, List.append_nil]
      exact h.reported hNumbered stage

/- And so do events one after another. -/
theorem run
    (h : Accounted accepted replaced dropped w)
    (hNumbered : Numbered accepted w)
    (events : List Event) :
    Accounted
      (accepted ++ w.exchange.collect Exchange.accepted events)
      (replaced ++ w.exchange.collect Exchange.replaced events)
      (dropped ++ w.exchange.collect Exchange.dropped events)
      (w.run events) := by
  induction events generalizing accepted replaced dropped w with
  | nil =>
      simp only [Exchange.collect, List.append_nil]
      exact h
  | cons e later ih =>
      have hLater := ih (h.step hNumbered e) (hNumbered.step e)
      simp only [exchange_step, List.append_assoc] at hLater
      exact hLater

end Accounted

end Watch

------------------------------------------------------------
-- One Fate
------------------------------------------------------------

namespace Exchange

/- The snapshots of all fates are those that were accepted. -/
theorem accepted_perm_fated
    {x : Exchange}
    {events : List Event}
    (h :
      Watch.Accounted (x.collect accepted events)
        (x.collect replaced events) (x.collect dropped events)
        ((Watch.start x).run events)) :
    (x.collect accepted events).Perm
      (Fate.all.flatMap (x.fated events)) := by
  have hFresh := Watch.fresh_perm ((Watch.start x).run events)
  apply h.conserved.trans
  rw [List.perm_iff_count] at hFresh ⊢
  intro s
  simp only [Fate.all, List.flatMap_cons, List.flatMap_nil, fated,
    List.count_append, hFresh s, List.count_nil]
  omega

/-
  A snapshot that was dropped was pending when another size was
  declared.
-/
theorem resized_of_dropped
    {x : Exchange}
    {events : List Event}
    {p : Snapshot × Size}
    (h : p ∈ x.collect dropped events) :
    p.1.size ≠ p.2 ∧ .resize p.2 ∈ events := by
  rcases mem_collect h with ⟨before, e, after, rfl, hSeen⟩
  cases e with
  | resize size =>
      simp only [dropped] at hSeen
      split at hSeen
      · rcases List.mem_map.mp hSeen with ⟨s, hs, rfl⟩
        have hSize := (List.mem_filter.mp hs).2
        exact ⟨of_decide_eq_true hSize, by simp⟩
      · cases hSeen
  | _ => cases hSeen

/-
  Every accepted snapshot is pending, in flight, committed,
  rejected, failed, replaced or dropped, and it is only one of
  these.  The thread holds the snapshot in flight, and reports
  are what has ended a cycle.  A snapshot is replaced by one
  that was accepted later and has a greater number, and it is
  dropped when another size is declared.  Without that the
  newest snapshot is pending or picked.  A snapshot is picked
  again only if its fate was to be committed.
-/
theorem exactly_one_fate
    (caps : Capabilities)
    (sink : Sink)
    (events : List Event) :
    let x := start caps sink
    let w := (Watch.start x).run events
    let accepted := x.collect accepted events
    let fated := x.fated events
    accepted.Nodup ∧
      accepted.Perm (Fate.all.flatMap fated) ∧
      (∀ s ∈ accepted, ∃! fate, s ∈ fated fate) ∧
      (∀ c ∈ w.cycle, c.Carries w.exchange) ∧
      w.log.map Prod.snd = w.exchange.reports ∧
      (∀ e ∈ w.log, e.1.Answers e.2) ∧
      (∀ p ∈ x.collect replaced events,
        [p.1, p.2].Sublist accepted ∧ p.1.seq < p.2.seq) ∧
      (∀ p ∈ x.collect dropped events,
        p.1.size ≠ p.2 ∧ .resize p.2 ∈ events) ∧
      (∀ s ∈ accepted.getLast?,
        (∀ size, .resize size ∉ events) →
          ∃ fate ∈
              [.pending, .inFlight, .committed, .rejected, .failed],
            s ∈ fated fate) ∧
      ∀ c ∈ w.picked, c.isRedraw = true →
        c.snapshot ∈ fated .committed := by
  intro x w accepted fated
  have hNumbered : Watch.Numbered accepted w :=
    (Watch.Numbered.start caps sink).run events
  have hAccounted :
      Watch.Accounted accepted (x.collect replaced events)
        (x.collect dropped events) w :=
    (Watch.Accounted.start caps sink).run
      (Watch.Numbered.start caps sink) events
  have hPerm : accepted.Perm (Fate.all.flatMap fated) :=
    accepted_perm_fated hAccounted
  refine
    ⟨hNumbered.nodup, hPerm, ?_, fun c hc => (hNumbered.cycle c hc).1,
      hNumbered.reports, hNumbered.answered, hAccounted.replaced,
      fun p => resized_of_dropped, ?_, hAccounted.redrawn⟩
  · intro s hs
    rcases List.mem_flatMap.mp (hPerm.mem_iff.mp hs) with
      ⟨fate, _, hFate⟩
    refine ⟨fate, hFate, fun other hOther => ?_⟩
    -- Snapshots of two fates are two snapshots.
    by_contra hDiffer
    have hApart :=
      (List.nodup_flatMap.mp (hPerm.nodup_iff.mp hNumbered.nodup)).2
    have hSymm : Std.Symm (Function.onFun List.Disjoint fated) :=
      ⟨fun _ _ hSides => List.disjoint_symm hSides⟩
    exact
      hApart.forall (Fate.mem_all other) (Fate.mem_all fate) hDiffer
        hOther hFate
  · intro s hs hKept
    have hMem : s ∈ accepted := List.mem_of_getLast? hs
    rcases List.mem_flatMap.mp (hPerm.mem_iff.mp hMem) with
      ⟨fate, _, hFate⟩
    refine ⟨fate, ?_, hFate⟩
    cases fate with
    | replaced =>
        rcases List.mem_map.mp hFate with ⟨p, hp, rfl⟩
        rcases hAccounted.replaced p hp with ⟨hLater, hLess⟩
        rcases hNumbered.covered p.2 (hLater.subset (by simp)) with
          ⟨n, hn, hLe⟩
        rw [hNumbered.latest, Option.mem_def.mp hs] at hn
        cases hn
        omega
    | dropped =>
        rcases List.mem_map.mp hFate with ⟨p, hp, _⟩
        exact absurd (resized_of_dropped hp).2 (hKept p.2)
    | _ => decide

/-
  One snapshot is drawn, and then a broken one waits in the slot
  until a third takes its place.
-/
example :
    let x := start .minimal {}
    let newer := { Watch.plain with seq := 3 }
    let events :=
      Watch.drawn Watch.plain ++ [.submit Watch.broken, .submit newer]
    x.fated events .committed = [Watch.plain] ∧
      x.fated events .replaced = [Watch.broken] ∧
      x.fated events .pending = [newer] := by
  decide +kernel

end Exchange

end Redraw
