import SqlResolution.Proofs.Lookup.InStep
import SqlResolution.Proofs.Timeline.Twins

/-!
# Lookups that differ in their questions

What a lookup hands out does not depend on its question, as long as this can be written: the same
addresses are found, the same errors are raised, and the host sends the same replies. So lookups
that ask different questions of one host come to the same end, if they come to an end at all, and
leave twins behind.
-/

namespace SqlResolution.Lookup

open Timeline (SameOutcome)

variable {lookup other : Lookup}

/-- Two lookups are the same but for their questions, what was sent and what was told. -/
structure Twins (lookup other : Lookup) : Prop where
  name : lookup.name = other.name
  response : lookup.response = other.response
  state : lookup.state = other.state
  timeline : lookup.timeline.Twins other.timeline

/-- Two runs come to the same result, and leave twins. -/
structure SameRun (run other : Except Failure Datagram × Lookup) : Prop where
  result : run.1 = other.1
  twins : Twins run.2 other.2

theorem Twins.withTimeline (h : Twins lookup other) {t u : Timeline} (htu : t.Twins u) :
    Twins { lookup with timeline := t } { other with timeline := u } :=
  { h with timeline := htu }

theorem Twins.setState (h : Twins lookup other) (state : State) :
    Twins (lookup.setState state) (other.setState state) :=
  { h with
    state := rfl
    timeline := h.timeline.note _ _ }

theorem Twins.awaiting (h : Twins lookup other) : Twins lookup.awaiting other.awaiting :=
  (h.setState .requestSent).setState .awaitingOne

theorem Twins.settle (h : Twins lookup other) {outcome found : Outcome Datagram}
    (hfound : SameOutcome outcome found) :
    SameRun (lookup.settle outcome) (other.settle found) := by
  have hsettled := h.withTimeline hfound.twins
  rw [Lookup.settle, Lookup.settle, hfound.result]
  split
  · exact ⟨rfl, hsettled.setState .timedOut⟩
  · exact ⟨rfl, hsettled⟩

theorem Twins.await (h : Twins lookup other) : SameRun lookup.await other.await := by
  rw [await_eq, await_eq, h.response]
  exact h.awaiting.settle (h.awaiting.timeline.awaitOne _)

theorem Twins.awaitHangs (h : Twins lookup other) : lookup.awaitHangs = other.awaitHangs := by
  rw [Lookup.awaitHangs, Lookup.awaitHangs, h.response]
  exact h.awaiting.timeline.oneHangs _

section Questions

variable (data question : List UInt8)

theorem Twins.ask (h : Twins lookup other) : SameRun (lookup.ask data) (other.ask question) := by
  rcases hsend : other.timeline.send question with ⟨failure | _, asked⟩
  all_goals
    obtain ⟨t, hsent, htwins⟩ := (h.timeline.send data question).of_eq hsend
    rw [Lookup.ask, Lookup.ask, hsent, hsend]
  · exact ⟨rfl, h.withTimeline htwins⟩
  · exact (h.withTimeline htwins).await

theorem Twins.askHangs (h : Twins lookup other) :
    lookup.askHangs data = other.askHangs question := by
  rcases hsend : other.timeline.send question with ⟨failure | _, asked⟩
  all_goals
    obtain ⟨t, hsent, htwins⟩ := (h.timeline.send data question).of_eq hsend
    rw [Lookup.askHangs, Lookup.askHangs, hsent, hsend]
  exact (h.withTimeline htwins).awaitHangs

theorem Twins.opening (h : Twins lookup other) : lookup.opening.Twins other.opening := by
  rw [Lookup.opening, Lookup.opening, h.name]
  exact h.timeline.use _

theorem SameRun.closed {run found : Except Failure Datagram × Lookup} (h : SameRun run found) :
    SameRun (closed run) (closed found) :=
  ⟨h.result, h.twins.withTimeline h.twins.timeline.close⟩

theorem Twins.exchange (h : Twins lookup other) :
    SameRun (lookup.exchange data) (other.exchange question) := by
  rcases hopen : other.opening.openSocket with ⟨failure | _, opened⟩
  all_goals
    obtain ⟨t, hsame, htwins⟩ := h.opening.openSocket.of_eq hopen
    rw [exchange_eq, exchange_eq, hsame, hopen]
  · exact ⟨rfl, h.withTimeline htwins⟩
  · exact ((h.withTimeline htwins).ask data question).closed

theorem Twins.exchangeHangs (h : Twins lookup other) :
    lookup.exchangeHangs data = other.exchangeHangs question := by
  rcases hopen : other.opening.openSocket with ⟨failure | _, opened⟩
  all_goals
    obtain ⟨t, hsame, htwins⟩ := h.opening.openSocket.of_eq hopen
    rw [Lookup.exchangeHangs, Lookup.exchangeHangs, hsame, hopen]
  exact (h.withTimeline htwins).askHangs data question

end Questions

/-- Lookups whose questions can be written come to the same end. -/
theorem Twins.run (h : Twins lookup other) (hidle : other.state = .idle)
    (hlookup : ∃ data, lookup.request.encode = .ok data)
    (hother : ∃ data, other.request.encode = .ok data) :
    lookup.runHangs = other.runHangs ∧ SameRun lookup.run other.run := by
  obtain ⟨data, hdata⟩ := hlookup
  obtain ⟨question, hquestion⟩ := hother
  have hidle' : lookup.state = .idle := h.state.trans hidle
  rw [runHangs_of_idle hidle, runHangs_of_idle hidle', run_of_idle hidle, run_of_idle hidle',
    answerHangs, answerHangs, answer, answer, hdata, hquestion]
  have hrun := h.exchange data question
  dsimp only
  rw [hrun.result]
  exact ⟨h.exchangeHangs data question, rfl, hrun.twins.setState _⟩

end SqlResolution.Lookup
