import Redraw.Proofs.Thread.Fates
import Redraw.Proofs.Thread.Phases

/-
  Staleness: which numbers a mailbox refuses.

  A snapshot is to be refused if it is not newer than what is
  committed, pending or in flight.  The mailbox compares it with
  the newest number that was ever accepted, which is not taken
  back when a snapshot is rejected, lost or dropped.  So it
  refuses all that it should, and more than that exactly while
  the newest accepted snapshot has come to nothing.

  Key definitions include:
    * `Mailbox.IsStale`: what is refused for its number
    * `Watch.held`: numbers that are committed, pending or in
      flight
    * `Watch.Outdates`: what should be refused for its number

  Main declarations:
    * `Mailbox.isStale_iff`
    * `Exchange.exists_fated_of_held`
    * `Exchange.exists_held_of_fated`
    * `Exchange.refused_up_to_newest`
-/

namespace Redraw

------------------------------------------------------------
-- Refusals
------------------------------------------------------------

namespace Mailbox

/- A snapshot is refused for its number. -/
def IsStale
    (m : Mailbox)
    (s : Snapshot) : Prop :=
  ∃ latest, m.submit s = .error (.staleSnapshot s.seq latest)

/- An open mailbox compares with the newest number accepted. -/
theorem isStale_iff
    {m : Mailbox}
    (hOpen : m.shutdown = false)
    (hRunning : m.phase ≠ .stopped)
    (hSound : m.phase ≠ .failed)
    (s : Snapshot) :
    m.IsStale s ↔ ∃ n ∈ m.latest, s.seq ≤ n := by
  unfold IsStale submit
  simp only [hOpen, hRunning, hSound, decide_false, Bool.or_self,
    Bool.false_eq_true, if_false]
  constructor
  · rintro ⟨latest, hRefused⟩
    cases hNewest : m.latest.filter (s.seq ≤ ·) with
    | none =>
        simp only [hNewest] at hRefused
        split at hRefused
        · rename_i hSome
          cases hSome
        · cases hRefused
        · cases hRefused
    | some n =>
        have hKept := Option.mem_filter_iff.mp hNewest
        exact ⟨n, hKept.1, of_decide_eq_true hKept.2⟩
  · rintro ⟨n, hn, hLe⟩
    have hFilter : m.latest.filter (s.seq ≤ ·) = some n :=
      Option.mem_filter_iff.mpr ⟨hn, decide_eq_true hLe⟩
    exact ⟨n, by simp only [hFilter]⟩

end Mailbox

namespace Exchange

/- A refused snapshot changes nothing. -/
theorem step_of_refused
    (x : Exchange)
    {s : Snapshot}
    {e : Error}
    (h : x.mailbox.submit s = .error e) :
    x.step (.submit s) = x := by
  simp only [step, h, update]

end Exchange

------------------------------------------------------------
-- Numbers That Count
------------------------------------------------------------

namespace Watch

/- Numbers of what is pending, in flight and committed. -/
def held (w : Watch) : List Nat :=
  w.exchange.mailbox.pending.toList.map Snapshot.seq ++ w.used

/- A snapshot is not newer than one of these. -/
def Outdates
    (w : Watch)
    (s : Snapshot) : Prop :=
  ∃ n ∈ w.held, s.seq ≤ n

instance
    (w : Watch)
    (s : Snapshot) :
    Decidable (w.Outdates s) :=
  inferInstanceAs (Decidable (∃ n ∈ w.held, s.seq ≤ n))

end Watch

namespace Exchange

variable {x : Exchange}
variable {events : List Event}
variable {granted : List Snapshot}
variable {swaps : List (Snapshot × Snapshot)}
variable {drops : List (Snapshot × Size)}

/- Every such number is that of a snapshot of such a fate. -/
theorem exists_fated_of_held
    (hNumbered : Watch.Numbered granted ((Watch.start x).run events))
    (hAccounted :
      Watch.Accounted granted swaps drops
        ((Watch.start x).run events))
    {n : Nat}
    (hn : n ∈ ((Watch.start x).run events).held) :
    ∃ fate ∈ [.pending, .inFlight, .committed],
      ∃ t ∈ x.fated events fate, t.seq = n := by
  have hCycle (c : Cycle)
      (hc : c ∈ ((Watch.start x).run events).cycle) :
      ∃ fate ∈ [.pending, .inFlight, .committed],
        ∃ t ∈ x.fated events fate, t.seq = c.snapshot.seq := by
    cases hRedraw : c.isRedraw with
    | true =>
        have hPicked : c ∈ ((Watch.start x).run events).picked := by
          simp [Watch.picked, Option.mem_def.mp hc]
        exact
          ⟨.committed, by simp, c.snapshot,
            hAccounted.redrawn c hPicked hRedraw, rfl⟩
    | false =>
        refine ⟨.inFlight, by simp, c.snapshot, ?_, rfl⟩
        simp [fated, Option.mem_def.mp hc, Cycle.fresh_own hRedraw]
  have hBase (s : Snapshot)
      (hs : s ∈ ((Watch.start x).run events).base) :
      ∃ fate ∈ [.pending, .inFlight, .committed],
        ∃ t ∈ x.fated events fate, t.seq = s.seq :=
    ⟨.committed, by simp, s, hAccounted.base s hs, rfl⟩
  simp only [Watch.held, Watch.used, List.mem_append, List.mem_map,
    Option.mem_toList] at hn
  rcases hn with ⟨s, hs, rfl⟩ | ⟨c, hc, rfl⟩ | hLast
  · refine ⟨.pending, by simp, s, ?_, rfl⟩
    exact Option.mem_toList.mpr hs
  · exact hCycle c hc
  · cases hSome : ((Watch.start x).run events).cycle with
    | none =>
        have hNoted := (hNumbered.resting hSome).2
        rcases Option.map_eq_some_iff.mp (hNoted.symm.trans hLast) with
          ⟨s, hs, rfl⟩
        refine hBase s ?_
        simp only [Watch.base, hSome]
        exact hs
    | some c =>
        -- Told of the old frame, or already of the cycle's own.
        rcases (hNumbered.cycle c hSome).1.noted with hOld | hOwn
        · rcases Option.map_eq_some_iff.mp (hOld.symm.trans hLast) with
            ⟨s, hs, rfl⟩
          refine hBase s ?_
          simp only [Watch.base, hSome]
          exact hs
        · cases hOwn.symm.trans hLast
          exact hCycle c hSome

/- A snapshot of such a fate is as old as one of the numbers. -/
theorem exists_held_of_fated
    (hNumbered : Watch.Numbered granted ((Watch.start x).run events))
    {fate : Fate}
    (hFate : fate ∈ [.pending, .inFlight, .committed])
    {t : Snapshot}
    (ht : t ∈ x.fated events fate) :
    ((Watch.start x).run events).Outdates t := by
  simp only [List.mem_cons, List.not_mem_nil, or_false] at hFate
  rcases hFate with rfl | rfl | rfl
  · refine ⟨t.seq, ?_, Nat.le_refl _⟩
    rw [Watch.held, List.mem_append]
    exact Or.inl (List.mem_map_of_mem ht)
  · simp only [fated, Cycle.fresh, List.mem_map, List.mem_filter] at ht
    rcases ht with ⟨c, ⟨hc, _⟩, rfl⟩
    refine ⟨c.snapshot.seq, ?_, Nat.le_refl _⟩
    simp only [Watch.held, Watch.used, List.mem_append]
    exact Or.inr (Or.inl (List.mem_map_of_mem hc))
  · simp only [fated, Watch.ended, Cycle.fresh, List.mem_map,
      List.mem_filter] at ht
    rcases ht with ⟨c, ⟨⟨e, ⟨he, hDone⟩, rfl⟩, _⟩, rfl⟩
    rcases hNumbered.logged e he hDone with ⟨s, hs, hLe⟩
    cases hSome : ((Watch.start x).run events).cycle with
    | none =>
        have hNoted := (hNumbered.resting hSome).2
        simp only [Watch.base, hSome] at hs
        refine ⟨s.seq, ?_, hLe⟩
        simp [Watch.held, Watch.used, hNoted, Option.mem_def.mp hs]
    | some c =>
        simp only [Watch.base, hSome] at hs
        have hAdvances := (hNumbered.cycle c hSome).2
        refine
          ⟨c.snapshot.seq, ?_, Nat.le_trans hLe (hAdvances.le hs)⟩
        simp [Watch.held, Watch.used, hSome]

------------------------------------------------------------
-- The Newest Snapshot
------------------------------------------------------------

/- No accepted snapshot is newer than the last one accepted. -/
theorem seq_le_newest
    {w : Watch}
    (h : Watch.Numbered granted w)
    {s t : Snapshot}
    (hs : s ∈ granted)
    (ht : t ∈ granted.getLast?) :
    s.seq ≤ t.seq := by
  rcases h.covered s hs with ⟨n, hn, hLe⟩
  rw [h.latest, Option.mem_def.mp ht] at hn
  cases hn
  exact hLe

/- Accepted snapshots are told apart by their numbers. -/
theorem eq_of_seq_eq
    {w : Watch}
    (h : Watch.Numbered granted w)
    {s t : Snapshot}
    (hs : s ∈ granted)
    (ht : t ∈ granted)
    (hSame : s.seq = t.seq) :
    s = t := by
  have hNumbers : (granted.map Snapshot.seq).Nodup :=
    List.pairwise_map.mpr (h.increasing.imp Nat.ne_of_lt)
  exact List.inj_on_of_nodup_map hNumbers hs ht hSame

/- The mailbox refuses what is not newer than all it accepted. -/
theorem isStale_iff_exists_accepted
    {w : Watch}
    (h : Watch.Numbered granted w)
    (hPhase : w.exchange.InPhase)
    (hOpen : w.exchange.mailbox.shutdown = false)
    (hSound : w.exchange.mailbox.phase ≠ .failed)
    (s : Snapshot) :
    w.exchange.mailbox.IsStale s ↔ ∃ t ∈ granted, s.seq ≤ t.seq := by
  have hRunning : w.exchange.mailbox.phase ≠ .stopped := by
    intro hStopped
    rw [hPhase.stopped hStopped] at hOpen
    cases hOpen
  rw [Mailbox.isStale_iff hOpen hRunning hSound]
  constructor
  · rintro ⟨n, hn, hLe⟩
    rw [Option.mem_def, h.latest] at hn
    rcases Option.map_eq_some_iff.mp hn with ⟨t, ht, rfl⟩
    exact ⟨t, List.mem_of_getLast? ht, hLe⟩
  · rintro ⟨t, ht, hLe⟩
    rcases h.covered t ht with ⟨n, hn, hLess⟩
    exact ⟨n, hn, Nat.le_trans hLe hLess⟩

/- The newest snapshot is not replaced. -/
theorem fate_of_newest
    (hNumbered : Watch.Numbered granted ((Watch.start x).run events))
    (hReplaced :
      ∀ p ∈ x.collect replaced events,
        [p.1, p.2].Sublist granted ∧ p.1.seq < p.2.seq)
    (hPerm : granted.Perm (Fate.all.flatMap (x.fated events)))
    {t : Snapshot}
    (ht : t ∈ granted.getLast?) :
    (∃ fate ∈ [.pending, .inFlight, .committed],
        t ∈ x.fated events fate) ∨
      ∃ fate ∈ [.rejected, .failed, .dropped],
        t ∈ x.fated events fate := by
  have hMem := hPerm.mem_iff.mp (List.mem_of_getLast? ht)
  rcases List.mem_flatMap.mp hMem with ⟨fate, _, hFate⟩
  cases fate with
  | replaced =>
      rcases List.mem_map.mp hFate with ⟨p, hp, rfl⟩
      rcases hReplaced p hp with ⟨hLater, hLess⟩
      have hLe :=
        seq_le_newest hNumbered (hLater.subset (by simp : p.2 ∈ _)) ht
      omega
  | pending => exact Or.inl ⟨.pending, by simp, hFate⟩
  | inFlight => exact Or.inl ⟨.inFlight, by simp, hFate⟩
  | committed => exact Or.inl ⟨.committed, by simp, hFate⟩
  | rejected => exact Or.inr ⟨.rejected, by simp, hFate⟩
  | failed => exact Or.inr ⟨.failed, by simp, hFate⟩
  | dropped => exact Or.inr ⟨.dropped, by simp, hFate⟩

/-
  A refused snapshot changes nothing.  While the mailbox is open
  and sound, a snapshot is refused for its number exactly if it
  is not newer than every snapshot that was accepted.  So all is
  refused that is not newer than what is committed, pending or
  in flight.  Nothing else is, exactly as long as the newest
  accepted snapshot, if there is one, is pending, in flight or
  committed; if it is not, it was rejected, failed or dropped.
-/
theorem refused_up_to_newest
    (caps : Capabilities)
    (sink : Sink)
    (events : List Event) :
    let x := start caps sink
    let w := (Watch.start x).run events
    let m := w.exchange.mailbox
    let accepted := x.collect accepted events
    (∀ s e, m.submit s = .error e →
        w.exchange.step (.submit s) = w.exchange) ∧
      (m.shutdown = false → m.phase ≠ .failed →
        (∀ s, m.IsStale s ↔ ∃ t ∈ accepted, s.seq ≤ t.seq) ∧
          (∀ s, w.Outdates s → m.IsStale s) ∧
          ((∀ s, m.IsStale s ↔ w.Outdates s) ↔
            ∀ t ∈ accepted.getLast?,
              ∃ fate ∈ [.pending, .inFlight, .committed],
                t ∈ x.fated events fate) ∧
          ∀ t ∈ accepted.getLast?,
            (∃ fate ∈ [.pending, .inFlight, .committed],
                t ∈ x.fated events fate) ∨
              ∃ fate ∈ [.rejected, .failed, .dropped],
                t ∈ x.fated events fate) := by
  intro x w m accepted
  refine ⟨fun s e h => w.exchange.step_of_refused h, ?_⟩
  intro hOpen hSound
  have hNumbered : Watch.Numbered accepted w :=
    (Watch.Numbered.start caps sink).run events
  have hAccounted :
      Watch.Accounted accepted (x.collect replaced events)
        (x.collect dropped events) w :=
    (Watch.Accounted.start caps sink).run
      (Watch.Numbered.start caps sink) events
  have hPerm : accepted.Perm (Fate.all.flatMap (x.fated events)) :=
    accepted_perm_fated hAccounted
  have hPhase : w.exchange.InPhase := by
    rw [Watch.exchange_run]
    exact (inPhase_start caps sink).run events
  have hStale :=
    isStale_iff_exists_accepted hNumbered hPhase hOpen hSound
  have hFated {fate : Fate} {t : Snapshot}
      (ht : t ∈ x.fated events fate) : t ∈ accepted :=
    hPerm.mem_iff.mpr
      (List.mem_flatMap.mpr ⟨fate, Fate.mem_all fate, ht⟩)
  have hSound (s : Snapshot) (h : w.Outdates s) : m.IsStale s := by
    rcases h with ⟨n, hn, hLe⟩
    rcases exists_fated_of_held hNumbered hAccounted hn with
      ⟨fate, _, t, ht, rfl⟩
    exact (hStale s).mpr ⟨t, hFated ht, hLe⟩
  refine ⟨hStale, hSound, ⟨?_, ?_⟩, fun t ht =>
    fate_of_newest hNumbered hAccounted.replaced hPerm ht⟩
  · -- The newest snapshot itself is refused, so it is outdated.
    intro hExact t ht
    have hMem : t ∈ accepted := List.mem_of_getLast? ht
    rcases (hExact t).mp ((hStale t).mpr ⟨t, hMem, Nat.le_refl _⟩)
      with ⟨n, hn, hLe⟩
    rcases exists_fated_of_held hNumbered hAccounted hn with
      ⟨fate, hFate, u, hu, rfl⟩
    have hSame : u = t :=
      eq_of_seq_eq hNumbered (hFated hu) hMem
        (Nat.le_antisymm (seq_le_newest hNumbered (hFated hu) ht) hLe)
    exact ⟨fate, hFate, hSame ▸ hu⟩
  · intro hNewest s
    refine ⟨fun hRefused => ?_, hSound s⟩
    rcases (hStale s).mp hRefused with ⟨u, hu, hLe⟩
    rcases Option.ne_none_iff_exists'.mp
        (mt List.getLast?_eq_none_iff.mp (List.ne_nil_of_mem hu)) with
      ⟨t, ht⟩
    rcases hNewest t ht with ⟨fate, hFate, hMem⟩
    rcases exists_held_of_fated hNumbered hFate hMem with
      ⟨n, hn, hLess⟩
    exact
      ⟨n, hn,
        Nat.le_trans (Nat.le_trans hLe (seq_le_newest hNumbered hu ht))
          hLess⟩

/-
  A broken snapshot was rejected, and only the one before it is
  committed.  Its number is refused when it is mended.
-/
theorem rejected_number_refused :
    let x := start .minimal {}
    let w :=
      (Watch.start x).run
        (Watch.drawn Watch.plain ++ Watch.drawn Watch.broken)
    let mended := { Watch.plain with seq := 2 }
    w.exchange.mailbox.shutdown = false ∧
      w.exchange.mailbox.phase = .idle ∧
      w.held = [1] ∧
      ¬ w.Outdates mended ∧
      w.exchange.mailbox.IsStale mended := by
  refine ⟨by decide +kernel, by decide +kernel, by decide +kernel,
    by decide +kernel, 2, ?_⟩
  rfl

end Exchange

end Redraw
