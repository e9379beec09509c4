import SqlResolution.Proofs.Collection.InStep
import SqlResolution.Proofs.Lookup

/-!
# Two lookups in step

A lookup waits once, for its one answer. So two lookups that are the same but for their timelines
come to the same end as long as these are in step, and they can be run again.
-/

namespace SqlResolution

open Timeline (Agree HangAlike)

namespace Timeline

variable {P : Instant → Prop} {S : List Sent} {full sparse : Timeline}

theorem InStep.cancelAfter (h : InStep P S full sparse) (length : Option Span) :
    InStep P S (full.cancelAfter length) (sparse.cancelAfter length) := by
  refine { h with cancelAt := ?_ }
  show length.map full.now.after = length.map sparse.now.after
  rw [h.now]

theorem sent_awaitOne (t : Timeline) (response : Setting Timeout) :
    (t.awaitOne response).2.sent = t.sent := by
  rw [snd_awaitOne]
  exact (moves_receive t _).later.sent

end Timeline

namespace Lookup

variable {P : Instant → Prop} {S : List Sent} {full sparse : Lookup} {data : List UInt8}

/-- The lookup as it is, over another timeline. -/
def onTimeline (lookup : Lookup) (timeline : Timeline) : Lookup :=
  { lookup with timeline }

/-- Two lookups are the same but for their timelines, and these are in step. -/
inductive InStep (P : Instant → Prop) (S : List Sent) : Lookup → Lookup → Prop
  | onTimeline {t : Timeline} (lookup : Lookup) (h : t.InStep P S lookup.timeline) :
    InStep P S (lookup.onTimeline t) lookup

/-- Two lookups have the same outcome. -/
structure RunAlike (P : Instant → Prop) (S : List Sent)
    (full sparse : Except Failure Datagram × Lookup) : Prop where
  result : full.1 = sparse.1
  inStep : InStep P S full.2 sparse.2

theorem InStep.setState (h : InStep P S full sparse) (state : State) :
    InStep P S (full.setState state) (sparse.setState state) := by
  obtain ⟨_, h⟩ := h
  exact .onTimeline (sparse.setState state) (h.note _)

theorem InStep.withTimeline (h : InStep P S full sparse) {t u : Timeline} (htu : t.InStep P S u) :
    InStep P S { full with timeline := t } { sparse with timeline := u } := by
  obtain ⟨_, -⟩ := h
  exact .onTimeline { sparse with timeline := u } htu

theorem InStep.timeline (h : InStep P S full sparse) :
    full.timeline.InStep P S sparse.timeline := by
  obtain ⟨_, h⟩ := h
  exact h

theorem InStep.eq_onTimeline (h : InStep P S full sparse) :
    full = sparse.onTimeline full.timeline := by
  obtain ⟨_, -⟩ := h
  rfl

theorem InStep.state (h : InStep P S full sparse) : full.state = sparse.state := by
  obtain ⟨_, h⟩ := h
  rfl

theorem InStep.response (h : InStep P S full sparse) : full.response = sparse.response := by
  obtain ⟨_, h⟩ := h
  rfl

theorem InStep.settle (h : InStep P S full sparse) {fullOne sparseOne : Outcome Datagram}
    (hone : Agree P S fullOne sparseOne) :
    RunAlike P S (full.settle fullOne) (sparse.settle sparseOne) := by
  have hsettled := h.withTimeline hone.inStep
  rw [Lookup.settle, Lookup.settle, hone.result]
  split
  · exact ⟨rfl, hsettled.setState .timedOut⟩
  · exact ⟨rfl, hsettled⟩

theorem timeline_settle (lookup : Lookup) (outcome : Outcome Datagram) :
    (lookup.settle outcome).2.timeline.now = outcome.2.now ∧
      (lookup.settle outcome).2.timeline.sent = outcome.2.sent := by
  rw [settle]
  split <;> exact ⟨rfl, rfl⟩

theorem InStep.await (h : InStep P S full sparse) (hnumber : sparse.response.IsNumber)
    (hend : sparse.awaitHangs = false → P sparse.await.2.timeline.now) :
    HangAlike full.awaitHangs sparse.awaitHangs (RunAlike P S full.await sparse.await) := by
  have hawaiting : InStep P S full.awaiting sparse.awaiting :=
    (h.setState .requestSent).setState .awaitingOne
  rw [await_eq, (timeline_settle _ _).1] at hend
  rw [await_eq, await_eq, Lookup.awaitHangs, Lookup.awaitHangs, h.response]
  have hone := hawaiting.timeline.awaitOne hnumber hend
  exact ⟨hone.hangs, fun hends => hawaiting.settle (hone.common hends)⟩

theorem sent_await (lookup : Lookup) :
    lookup.await.2.timeline.sent = lookup.timeline.sent := by
  rw [await_eq, (timeline_settle _ _).2, Timeline.sent_awaitOne]
  rfl

theorem sent_ask (lookup : Lookup) (data : List UInt8) :
    (lookup.ask data).2.timeline.sent = (lookup.timeline.send data).2.sent := by
  rw [ask]
  dsimp only
  split
  · rfl
  · exact sent_await _

theorem InStep.ask (h : InStep P S full sparse) (hnumber : sparse.response.IsNumber)
    (data : List UInt8)
    (hsent : (sparse.ask data).2.timeline.sent ⊆ S)
    (hend : sparse.askHangs data = false → P (sparse.ask data).2.timeline.now) :
    HangAlike (full.askHangs data) (sparse.askHangs data)
      (RunAlike P S (full.ask data) (sparse.ask data)) := by
  rw [sent_ask] at hsent
  have hagree := h.timeline.send hsent
  rw [Lookup.ask, Lookup.askHangs] at hend
  rw [Lookup.ask, Lookup.ask, Lookup.askHangs, Lookup.askHangs]
  rcases hsend : sparse.timeline.send data with ⟨failure | _, asked⟩
  · obtain ⟨other, hother, hafter⟩ := hagree.of_eq hsend
    rw [hother]
    exact .never rfl rfl ⟨rfl, h.withTimeline hafter⟩
  · obtain ⟨other, hother, hafter⟩ := hagree.of_eq hsend
    rw [hsend] at hend
    rw [hother]
    exact (h.withTimeline hafter).await hnumber hend

theorem RunAlike.closed {fullRun sparseRun : Except Failure Datagram × Lookup}
    (h : RunAlike P S fullRun sparseRun) : RunAlike P S (closed fullRun) (closed sparseRun) :=
  ⟨h.result, h.inStep.withTimeline h.inStep.timeline.close⟩

theorem exchange_eq (lookup : Lookup) (data : List UInt8) :
    lookup.exchange data =
      match lookup.opening.openSocket with
      | (.error failure, t) => (.error failure, { lookup with timeline := t })
      | (.ok (), t) => closed (Lookup.ask { lookup with timeline := t } data) := by
  rw [exchange, opening]
  rcases (lookup.timeline.use _).openSocket with ⟨_ | _, t⟩ <;> rfl

theorem InStep.opening (h : InStep P S full sparse) :
    full.opening.InStep P S sparse.opening := by
  obtain ⟨_, h⟩ := h
  exact h.use _

theorem InStep.exchange (h : InStep P S full sparse) (hnumber : sparse.response.IsNumber)
    (data : List UInt8)
    (hsent : (sparse.exchange data).2.timeline.sent ⊆ S)
    (hend : sparse.exchangeHangs data = false → P (sparse.exchange data).2.timeline.now) :
    HangAlike (full.exchangeHangs data) (sparse.exchangeHangs data)
      (RunAlike P S (full.exchange data) (sparse.exchange data)) := by
  have hagree := h.opening.openSocket
  rw [exchange_eq] at hsent
  rw [exchange_eq, exchangeHangs] at hend
  rw [exchange_eq, exchange_eq, exchangeHangs, exchangeHangs]
  rcases hopen : sparse.opening.openSocket with ⟨failure | _, opened⟩
  · obtain ⟨other, hother, hafter⟩ := hagree.of_eq hopen
    rw [hother]
    exact .never rfl rfl ⟨rfl, h.withTimeline hafter⟩
  · obtain ⟨other, hother, hafter⟩ := hagree.of_eq hopen
    rw [hopen] at hsent hend
    rw [hother]
    have hasked := (h.withTimeline hafter).ask hnumber data ((Timeline.sent_close _).symm ▸ hsent)
      fun hends => (Timeline.now_close _).symm ▸ hend hends
    exact ⟨hasked.hangs, fun hends => (hasked.common hends).closed⟩

theorem InStep.answer (h : InStep P S full sparse) (hnumber : sparse.response.IsNumber)
    (hsent : sparse.answer.2.timeline.sent ⊆ S)
    (hend : sparse.answerHangs = false → P sparse.answer.2.timeline.now) :
    HangAlike full.answerHangs sparse.answerHangs (RunAlike P S full.answer sparse.answer) := by
  have hrequest : full.request = sparse.request := by
    obtain ⟨_, -⟩ := h
    rfl
  rw [Lookup.answer] at hsent
  rw [Lookup.answer, answerHangs] at hend
  rw [Lookup.answer, Lookup.answer, answerHangs, answerHangs, hrequest]
  cases hencode : sparse.request.encode with
  | error fault => exact .never rfl rfl ⟨rfl, h⟩
  | ok data =>
    rw [hencode] at hsent hend
    exact h.exchange hnumber data hsent hend

theorem InStep.run (h : InStep P S full sparse) (hnumber : sparse.response.IsNumber)
    (hsent : sparse.run.2.timeline.sent ⊆ S)
    (hend : sparse.runHangs = false → P sparse.run.2.timeline.now) :
    HangAlike full.runHangs sparse.runHangs (RunAlike P S full.run sparse.run) := by
  by_cases hidle : sparse.state = .idle
  · rw [run_of_idle hidle] at hsent
    rw [run_of_idle hidle, runHangs_of_idle hidle] at hend
    rw [run_of_idle hidle, run_of_idle (h.state.trans hidle), runHangs_of_idle hidle,
      runHangs_of_idle (h.state.trans hidle)]
    have hanswered := h.answer hnumber hsent hend
    refine ⟨hanswered.hangs, fun hends => ?_⟩
    have halike := hanswered.common hends
    rw [halike.result]
    exact ⟨rfl, halike.inStep.setState _⟩
  · have hfull : full.state ≠ .idle := h.state ▸ hidle
    rw [Lookup.run, Lookup.run, if_pos hidle, if_pos hfull, runHangs, runHangs,
      decide_eq_false hidle, decide_eq_false hfull]
    obtain ⟨_, h⟩ := h
    exact .never rfl rfl ⟨rfl, .onTimeline sparse h⟩

/-! ## Running it again -/

/-- Runs the lookup, which is cancelled after a time, if one is given. -/
def runCancelledAfter (lookup : Lookup) (cancel : Option Span) :
    Except Failure Datagram × Lookup :=
  { lookup with timeline := lookup.timeline.cancelAfter cancel }.run

def runCancelledAfterHangs (lookup : Lookup) (cancel : Option Span) : Bool :=
  { lookup with timeline := lookup.timeline.cancelAfter cancel }.runHangs

theorem InStep.runCancelledAfter (h : InStep P S full sparse) (hnumber : sparse.response.IsNumber)
    (cancel : Option Span)
    (hsent : (sparse.runCancelledAfter cancel).2.timeline.sent ⊆ S)
    (hend : sparse.runCancelledAfterHangs cancel = false →
      P (sparse.runCancelledAfter cancel).2.timeline.now) :
    HangAlike (full.runCancelledAfterHangs cancel) (sparse.runCancelledAfterHangs cancel)
      (RunAlike P S (full.runCancelledAfter cancel) (sparse.runCancelledAfter cancel)) :=
  (h.withTimeline (h.timeline.cancelAfter cancel)).run hnumber hsent hend

theorem response_await (lookup : Lookup) : lookup.await.2.response = lookup.response := by
  rw [await_eq, settle]
  split <;> rfl

theorem response_ask (lookup : Lookup) (data : List UInt8) :
    (lookup.ask data).2.response = lookup.response := by
  rw [ask]
  dsimp only
  split
  · rfl
  · exact response_await _

theorem response_run (lookup : Lookup) : lookup.run.2.response = lookup.response := by
  have hexchange (data : List UInt8) : (lookup.exchange data).2.response = lookup.response := by
    rw [exchange_eq]
    split
    · rfl
    · exact response_ask _ data
  have hanswer : lookup.answer.2.response = lookup.response := by
    rw [answer]
    split
    · rfl
    · exact hexchange _
  by_cases hidle : lookup.state = .idle
  · rw [run_of_idle hidle]
    exact hanswer
  · rw [run, if_pos hidle]

end Lookup

end SqlResolution
