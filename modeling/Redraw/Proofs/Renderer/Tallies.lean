import Redraw.Sink.Calls
import Redraw.Proofs.Renderer.Dispatches

/-
  Tallies: what an outbox delivers, and what it counts.

  A frame is offered to the sink until all of it is taken, and
  then the sink is flushed.  Only when that went well the frame
  is counted and dropped; else it stays, and so do the totals,
  even if the sink has all its bytes and only the flush failed.
  Nothing but an answer of the sink makes a delivery fail: to
  the last of the writes, or to the flush.

  Key definitions include:
    * `WriteReply.failure?`: how a reply ends a write
    * `Outlet`: an outbox and the sink that it goes to
    * `Attempt`, `Attempt.Exact`: one delivery
    * `Attempt.CutShort`, `Attempt.Unflushed`: one that failed
    * `Outlet.run`, `Outlet.attempts`

  Main declarations:
    * `Sink.exists_writes_writeAll`
    * `Sink.Writes.exists_last`: what made a write fail
    * `Attempt.exact`
    * `Outlet.delivers_and_counts`
-/

namespace Redraw

------------------------------------------------------------
-- Single Calls
------------------------------------------------------------

/- How a reply ends a write, if it does not go on. -/
def WriteReply.failure? : WriteReply → Option Delivery
  | .took [] => some (.failed .tookNothing)
  | .took (_ :: _) => none
  | .failed => some (.failed .wentAway)
  | .interrupted => none
  | .crashed => some .crashed

namespace Sink

/- A call takes an answer, and takes what its reply says. -/
theorem snd_of_offer
    {s s' : Sink}
    {bytes : List UInt8}
    {reply : WriteReply}
    (h : s.offer bytes = (reply, s')) :
    s' =
      { s with
        writes := s.writes.tail
        received := s.received ++ reply.taken
        writeCalls := s.writeCalls + 1 } := by
  cases h
  rfl

/- Writing makes its calls, and does not flush. -/
theorem Writes.calls
    {s s' : Sink}
    {bytes : List UInt8}
    {offers : List (List UInt8)}
    {outcome : Delivery}
    (h : s.Writes bytes offers outcome s') :
    s'.flushes = s.flushes ∧ s'.flushCalls = s.flushCalls ∧
      s'.writeCalls = s.writeCalls + offers.length := by
  induction h with
  | done s => exact ⟨rfl, rfl, rfl⟩
  | took progress call more ih =>
      rw [snd_of_offer call] at ih
      rcases ih with ⟨hAnswers, hFlushes, hWrites⟩
      refine ⟨hAnswers, hFlushes, ?_⟩
      rw [hWrites, List.length_cons]
      simp only
      omega
  | again left call more ih =>
      rw [snd_of_offer call] at ih
      rcases ih with ⟨hAnswers, hFlushes, hWrites⟩
      refine ⟨hAnswers, hFlushes, ?_⟩
      rw [hWrites, List.length_cons]
      simp only
      omega
  | nothing left call =>
      rw [snd_of_offer call]
      exact ⟨rfl, rfl, rfl⟩
  | failed left call =>
      rw [snd_of_offer call]
      exact ⟨rfl, rfl, rfl⟩
  | crashed left call =>
      rw [snd_of_offer call]
      exact ⟨rfl, rfl, rfl⟩

/- A call that ends a write met an answer of the script. -/
theorem exists_answer_of_offer
    {s s' : Sink}
    {bytes : List UInt8}
    {reply : WriteReply}
    {outcome : Delivery}
    (left : bytes ≠ [])
    (call : s.offer bytes = (reply, s'))
    (h : reply.failure? = some outcome) :
    ∃ answer,
      s.writes[0]? = some answer ∧
        (WriteReply.of bytes answer).failure? = some outcome := by
  rw [offer] at call
  cases call
  cases hAnswers : s.writes with
  | nil =>
      rw [hAnswers] at h
      cases bytes with
      | nil => exact absurd rfl left
      | cons b bytes => cases h
  | cons answer answers =>
      rw [hAnswers] at h
      exact ⟨answer, rfl, h⟩

/-
  A write that does not end well ends with a call whose answer
  says so.  The calls before it used up the answers before that.
-/
theorem Writes.exists_last
    {s s' : Sink}
    {bytes : List UInt8}
    {offers : List (List UInt8)}
    {outcome : Delivery}
    (h : s.Writes bytes offers outcome s')
    (hFailed : outcome ≠ .done) :
    ∃ before last answer,
      offers = before ++ [last] ∧
        s.writes[before.length]? = some answer ∧
          (WriteReply.of last answer).failure? = some outcome := by
  induction h with
  | done s => exact absurd rfl hFailed
  | @took _ _ _ bytes _ _ _ progress call more ih =>
      rcases ih hFailed with ⟨before, last, answer, rfl, hAnswer, hEnds⟩
      rw [snd_of_offer call, List.getElem?_tail] at hAnswer
      exact ⟨bytes :: before, last, answer, rfl, hAnswer, hEnds⟩
  | @again _ _ _ bytes _ _ left call more ih =>
      rcases ih hFailed with ⟨before, last, answer, rfl, hAnswer, hEnds⟩
      rw [snd_of_offer call, List.getElem?_tail] at hAnswer
      exact ⟨bytes :: before, last, answer, rfl, hAnswer, hEnds⟩
  | @nothing _ _ bytes left call =>
      rcases exists_answer_of_offer left call rfl with
        ⟨answer, hAnswer, hEnds⟩
      exact ⟨[], bytes, answer, rfl, hAnswer, hEnds⟩
  | @failed _ _ bytes left call =>
      rcases exists_answer_of_offer left call rfl with
        ⟨answer, hAnswer, hEnds⟩
      exact ⟨[], bytes, answer, rfl, hAnswer, hEnds⟩
  | @crashed _ _ bytes left call =>
      rcases exists_answer_of_offer left call rfl with
        ⟨answer, hAnswer, hEnds⟩
      exact ⟨[], bytes, answer, rfl, hAnswer, hEnds⟩

/- Nothing is written without a call. -/
theorem writeAll_nil
    (s : Sink) :
    s.writeAll [] = (.done, s) := by
  rw [writeAll, WriteLog.run_nil]
  simp

/-
  The loop of a write: a call, and then what is left.  By the
  next answer.
-/
theorem writeAll_of_ne_nil
    (s : Sink)
    {bytes : List UInt8}
    (h : bytes ≠ []) :
    s.writeAll bytes =
      match s.offer bytes with
      | (.took [], s') => (.failed .tookNothing, s')
      | (.took (b :: taken), s') =>
          s'.writeAll (bytes.drop (b :: taken).length)
      | (.interrupted, s') => s'.writeAll bytes
      | (.failed, s') => (.failed .wentAway, s')
      | (.crashed, s') => (.crashed, s') := by
  rcases s with ⟨answers, flushes, received, writeCalls, flushCalls⟩
  rcases List.exists_cons_of_ne_nil h with ⟨b, rest, rfl⟩
  cases answers with
  | nil =>
      simp [offer, WriteReply.of, WriteReply.taken, writeAll,
        WriteLog.run]
  | cons answer left =>
      cases answer with
      | all =>
          simp only [offer, WriteReply.of, WriteReply.taken,
            List.headD_cons, List.tail_cons, List.drop_length,
            writeAll_nil]
          simp [writeAll, WriteLog.run]
      | atMost n =>
          cases n with
          | zero =>
              simp [offer, WriteReply.of, WriteReply.taken, writeAll,
                WriteLog.run]
          | succ n =>
              have hDrop : rest.drop (min n rest.length) = rest.drop n :=
                List.drop_eq_drop_min.symm
              simp [offer, WriteReply.of, WriteReply.taken, writeAll,
                WriteLog.run, WriteLog.after, hDrop, Nat.add_assoc,
                Nat.add_comm 1]
      | fail =>
          simp [offer, WriteReply.of, WriteReply.taken, writeAll,
            WriteLog.run]
      | interrupt =>
          simp [offer, WriteReply.of, WriteReply.taken, writeAll,
            WriteLog.run, WriteLog.after, Nat.add_assoc,
            Nat.add_comm 1]
      | crash =>
          simp [offer, WriteReply.of, WriteReply.taken, writeAll,
            WriteLog.run]

/-
  Writing everything is made of single calls.  By the answers
  that are left.
-/
theorem exists_writes_writeAll
    (s : Sink)
    (bytes : List UInt8) :
    ∃ offers,
      s.Writes bytes offers (s.writeAll bytes).1
        (s.writeAll bytes).2 := by
  induction hAnswers : s.writes generalizing s bytes with
  | nil =>
      cases bytes with
      | nil =>
          rw [writeAll_nil]
          exact ⟨[], .done s⟩
      | cons b rest =>
          have hSome := List.cons_ne_nil b rest
          have hReply :
              (s.offer (b :: rest)).1 = .took (b :: rest) := by
            rw [offer, hAnswers]
            rfl
          have hCall :
              s.offer (b :: rest) =
                (.took (b :: rest), (s.offer (b :: rest)).2) :=
            Prod.ext hReply rfl
          rw [s.writeAll_of_ne_nil hSome, hCall]
          simp only [List.drop_length, writeAll_nil]
          refine ⟨[b :: rest], .took hSome hCall ?_⟩
          rw [List.drop_length]
          exact .done _
  | cons answer left ih =>
    by_cases hSome : bytes = []
    · rw [hSome, writeAll_nil]
      exact ⟨[], .done s⟩
    rw [s.writeAll_of_ne_nil hSome]
    cases hCall : s.offer bytes with
    | mk reply s' =>
      have hLeft : s'.writes = left := by
        rw [snd_of_offer hCall, hAnswers]
        rfl
      cases reply with
      | took taken =>
          cases taken with
          | nil => exact ⟨[bytes], .nothing hSome hCall⟩
          | cons b taken =>
              rcases ih s' _ hLeft with ⟨offers, hMore⟩
              exact
                ⟨bytes :: offers,
                  .took (List.cons_ne_nil b taken) hCall hMore⟩
      | failed => exact ⟨[bytes], .failed hSome hCall⟩
      | interrupted =>
          rcases ih s' bytes hLeft with ⟨offers, hMore⟩
          exact ⟨bytes :: offers, .again hSome hCall hMore⟩
      | crashed => exact ⟨[bytes], .crashed hSome hCall⟩

end Sink

------------------------------------------------------------
-- Attempts
------------------------------------------------------------

/- A delivery that is tried: an outbox, and the sink it meets. -/
structure Attempt where
  outbox : Outbox
  sink : Sink
  deriving DecidableEq

namespace Attempt

/- How it ends, and what it leaves. -/
def result (a : Attempt) : Delivery × Outbox × Sink :=
  a.outbox.flushTo a.sink

/- The bytes that the sink receives. -/
def sent (a : Attempt) : List UInt8 :=
  a.result.2.2.received.drop a.sink.received.length

/- The frame, if there is one and it was delivered. -/
def delivered? (a : Attempt) : Option (List UInt8) :=
  if a.outbox.frame ≠ [] ∧ a.result.1 = .done then
    some a.outbox.frame
  else none

/-
  A delivery that ended in the middle of the frame: the last
  call met an answer that ends a write, and there is no flush.
-/
def CutShort (a : Attempt) : Prop :=
  ∃ before last answer,
    a.sink.Writes a.outbox.frame (before ++ [last]) a.result.1
        a.result.2.2 ∧
      a.sink.writes[before.length]? = some answer ∧
      (WriteReply.of last answer).failure? = some a.result.1 ∧
      a.result.2.2.writeCalls =
        a.sink.writeCalls + before.length + 1 ∧
      a.result.2.2.flushCalls = a.sink.flushCalls

/- A delivery of which all was taken, but the flush failed. -/
def Unflushed (a : Attempt) : Prop :=
  ∃ offers written answer,
    a.sink.Writes a.outbox.frame offers .done written ∧
      a.sink.flushes.head? = some answer ∧ answer ≠ .done ∧
      written.flush = (a.result.1, a.result.2.2) ∧
      a.result.2.2.writeCalls =
        a.sink.writeCalls + offers.length ∧
      a.result.2.2.flushCalls = a.sink.flushCalls + 1

/-
  What a delivery does to the outbox and to the sink.  Without a
  frame there is no call.  A delivered frame was offered until
  all of it was taken, and then there was one flush.  One that
  was not delivered stays, and its first bytes were taken, up to
  the write that ended it or all of them before the flush.
-/
structure Exact (a : Attempt) : Prop where
  idle :
    a.outbox.frame = [] → a.result = (.done, a.outbox, a.sink)
  whole :
    a.outbox.frame ≠ [] → a.result.1 = .done →
      ∃ offers written,
        a.sink.Writes a.outbox.frame offers .done written ∧
          written.flush = (.done, a.result.2.2) ∧
          a.result.2.2.writeCalls =
            a.sink.writeCalls + offers.length ∧
          a.result.2.2.flushCalls = a.sink.flushCalls + 1 ∧
          a.result.2.1.frame = []
  received : a.result.2.2.received = a.sink.received ++ a.sent
  sent_all : a.result.1 = .done → a.sent = a.outbox.frame
  sent_first : a.sent <+: a.outbox.frame
  kept : a.result.1 ≠ .done → a.result.2.1 = a.outbox
  failed : a.result.1 ≠ .done → a.CutShort ∨ a.Unflushed

/- A frame is delivered, and counted if that went well. -/
theorem result_of_ne_nil
    {a : Attempt}
    (h : a.outbox.frame ≠ []) :
    a.result =
      ((a.sink.deliver a.outbox.frame).1,
        if (a.sink.deliver a.outbox.frame).1 = .done then a.outbox.sent
        else a.outbox,
        (a.sink.deliver a.outbox.frame).2) := by
  have hFrame : a.outbox.isEmpty = false := by
    simpa [Outbox.isEmpty] using h
  rw [result, Outbox.flushTo, hFrame]
  rcases a.sink.deliver a.outbox.frame with ⟨outcome, sink⟩
  cases outcome <;> rfl

/- Without a frame nothing is done. -/
theorem result_of_nil
    {a : Attempt}
    (h : a.outbox.frame = []) :
    a.result = (.done, a.outbox, a.sink) := by
  rw [result, Outbox.flushTo, Outbox.isEmpty, h]
  rfl

theorem calls_flush
    (s : Sink) :
    s.flush.2.flushCalls = s.flushCalls + 1 ∧
      s.flush.2.writeCalls = s.writeCalls := by
  unfold Sink.flush
  split <;> exact ⟨rfl, rfl⟩

/- A flush that fails met an answer of the script. -/
theorem exists_answer_of_flush
    {s : Sink}
    (h : s.flush.1 ≠ .done) :
    ∃ answer, s.flushes.head? = some answer ∧ answer ≠ .done := by
  cases hAnswers : s.flushes with
  | nil => simp [Sink.flush, hAnswers] at h
  | cons answer later =>
      refine ⟨answer, rfl, ?_⟩
      rintro rfl
      simp [Sink.flush, hAnswers] at h

/- A frame is written, and flushed once if that went well. -/
theorem exists_writes_deliver
    (s : Sink)
    (bytes : List UInt8) :
    ∃ offers outcome written,
      s.Writes bytes offers outcome written ∧
        s.deliver bytes =
          if outcome = .done then written.flush
          else (outcome, written) := by
  rcases s.exists_writes_writeAll bytes with ⟨offers, hWrites⟩
  refine ⟨offers, _, _, hWrites, ?_⟩
  rw [Sink.deliver]
  rcases s.writeAll bytes with ⟨outcome, written⟩
  cases outcome <;> rfl

/- A delivery that fails was cut short, or not flushed. -/
theorem cutShort_or_unflushed
    {a : Attempt}
    (h : a.result.1 ≠ .done) :
    a.CutShort ∨ a.Unflushed := by
  have hFrame : a.outbox.frame ≠ [] := fun hNil =>
    h (by rw [result_of_nil hNil])
  rcases exists_writes_deliver a.sink a.outbox.frame with
    ⟨offers, outcome, written, hWrites, hDeliver⟩
  have hResult := result_of_ne_nil hFrame
  rw [hDeliver] at hResult
  rcases hWrites.calls with ⟨hAnswers, hFlushes, hCalls⟩
  by_cases hDone : outcome = .done
  · apply Or.inr
    subst hDone
    rw [if_pos rfl] at hResult
    have hFlush : written.flush.1 ≠ .done := by
      rw [hResult] at h
      exact h
    rcases exists_answer_of_flush hFlush with ⟨answer, hHead, hFails⟩
    rcases calls_flush written with ⟨hOnce, hNone⟩
    refine ⟨offers, written, answer, hWrites, ?_, hFails, ?_⟩
    · rw [← hAnswers]
      exact hHead
    · rw [hResult]
      refine ⟨rfl, ?_, ?_⟩
      · exact hNone.trans hCalls
      · exact hOnce.trans (congrArg (· + 1) hFlushes)
  · apply Or.inl
    rw [if_neg hDone] at hResult
    rcases hWrites.exists_last hDone with
      ⟨before, last, answer, rfl, hAnswer, hEnds⟩
    refine ⟨before, last, answer, ?_⟩
    rw [hResult]
    refine ⟨hWrites, hAnswer, hEnds, ?_, hFlushes⟩
    rw [hCalls, List.length_append, List.length_singleton,
      Nat.add_assoc]

/- By the calls, if there is a frame. -/
theorem exact
    (a : Attempt) :
    a.Exact := by
  rcases a.outbox.received_flushTo a.sink with
    ⟨taken, hReceived, hFirst, hAll⟩
  have hSent : a.sent = taken := by
    rw [sent, result, hReceived, List.drop_left]
  refine
    { idle := result_of_nil
      whole := ?_
      received := by rw [hSent]; exact hReceived
      sent_all := by rw [hSent]; exact hAll
      sent_first := by rw [hSent]; exact hFirst
      kept := a.outbox.kept_flushTo
      failed := cutShort_or_unflushed }
  intro hFrame hDone
  rcases exists_writes_deliver a.sink a.outbox.frame with
    ⟨offers, outcome, written, hWrites, hDeliver⟩
  have hResult := result_of_ne_nil hFrame
  rw [hResult] at hDone ⊢
  have hWritten : outcome = .done := by
    by_contra hFailed
    rw [hDeliver, if_neg hFailed] at hDone
    exact hFailed hDone
  subst hWritten
  rw [if_pos rfl] at hDeliver
  rw [hDeliver] at hDone ⊢
  rcases hWrites.calls with ⟨-, hFlushes, hCalls⟩
  rcases calls_flush written with ⟨hOnce, hNone⟩
  refine ⟨offers, written, hWrites, ?_, ?_, ?_, ?_⟩
  · exact Prod.ext hDone rfl
  · exact hNone.trans hCalls
  · exact hOnce.trans (congrArg (· + 1) hFlushes)
  · rw [if_pos hDone]
    rfl

/- What is delivered is counted, and nothing else is. -/
theorem totals
    (a : Attempt) :
    a.result.2.1.framesSent =
        a.outbox.framesSent + a.delivered?.toList.length ∧
      a.result.2.1.bytesSent =
        a.outbox.bytesSent + a.delivered?.toList.flatten.length := by
  unfold delivered?
  by_cases hFrame : a.outbox.frame = []
  · simp [result_of_nil hFrame, hFrame]
  · rw [result_of_ne_nil hFrame]
    by_cases hDone : (a.sink.deliver a.outbox.frame).1 = .done
    · simp [hFrame, hDone, Outbox.sent]
    · simp [hDone]

end Attempt

------------------------------------------------------------
-- Runs
------------------------------------------------------------

/- What is done with an outbox. -/
inductive Outlet.Act
  | write (bytes : List UInt8)
  | clear
  | flush
  deriving DecidableEq

/- An outbox, and the sink that its frames go to. -/
structure Outlet where
  outbox : Outbox
  sink : Sink
  deriving DecidableEq

namespace Outlet

/- The delivery that is tried next. -/
def attempt (x : Outlet) : Attempt :=
  ⟨x.outbox, x.sink⟩

/- An outbox and its sink after one act. -/
def step
    (x : Outlet) :
    Act → Outlet
  | .write bytes => { x with outbox := x.outbox.write bytes }
  | .clear => { x with outbox := x.outbox.clear }
  | .flush => ⟨x.attempt.result.2.1, x.attempt.result.2.2⟩

def run
    (x : Outlet)
    (acts : List Act) : Outlet :=
  acts.foldl step x

/- The deliveries of a run. -/
def attempts
    (x : Outlet) :
    List Act → List Attempt
  | [] => []
  | .flush :: acts => x.attempt :: (x.step .flush).attempts acts
  | act :: acts => (x.step act).attempts acts

/- The frames that were delivered in a run. -/
def delivered
    (x : Outlet)
    (acts : List Act) : List (List UInt8) :=
  (x.attempts acts).filterMap Attempt.delivered?

/-
  Whatever is done with an outbox, and whatever its sink does,
  every delivery is exact, and the totals are those of the
  frames that were delivered.  The sink receives what was sent,
  delivery by delivery.
-/
theorem delivers_and_counts
    (x : Outlet)
    (acts : List Act) :
    (∀ a ∈ x.attempts acts, a.Exact) ∧
      (x.run acts).outbox.framesSent =
          x.outbox.framesSent + (x.delivered acts).length ∧
        (x.run acts).outbox.bytesSent =
            x.outbox.bytesSent + (x.delivered acts).flatten.length ∧
          (x.run acts).sink.received =
            x.sink.received ++
              ((x.attempts acts).map Attempt.sent).flatten := by
  induction acts generalizing x with
  | nil => simp [attempts, delivered, run]
  | cons act acts ih =>
      rcases ih (x.step act) with ⟨hExact, hFrames, hBytes, hReceived⟩
      have hRun : x.run (act :: acts) = (x.step act).run acts := rfl
      rw [hRun, hFrames, hBytes, hReceived]
      cases act with
      | write bytes => exact ⟨hExact, rfl, rfl, rfl⟩
      | clear => exact ⟨hExact, rfl, rfl, rfl⟩
      | flush =>
          rcases x.attempt.totals with ⟨hFrame, hLength⟩
          have hDelivered :
              x.delivered (.flush :: acts) =
                x.attempt.delivered?.toList ++
                  (x.step .flush).delivered acts := by
            rw [delivered, attempts, List.filterMap_cons]
            cases x.attempt.delivered? <;> rfl
          rw [hDelivered, List.length_append, List.flatten_append,
            List.length_append, ← Nat.add_assoc, ← Nat.add_assoc,
            attempts, List.map_cons, List.flatten_cons,
            ← List.append_assoc]
          refine ⟨?_, ?_, ?_, ?_⟩
          · exact List.forall_mem_cons.mpr ⟨x.attempt.exact, hExact⟩
          · exact congrArg (· + _) hFrame
          · exact congrArg (· + _) hLength
          · exact congrArg (· ++ _) x.attempt.exact.received

end Outlet

end Redraw
