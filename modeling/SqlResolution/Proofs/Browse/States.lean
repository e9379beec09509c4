import Mathlib.Data.List.Chain
import SqlResolution.Proofs.Browse.Iterating
import SqlResolution.Proofs.Browse.Session

/-!
# The states of a browse, over all that can be done with it

Of the changes of state seven are meant to happen. From idle the question is sent, or that
fails, or the browse is closed unused. From there an iteration begins or the browse is
closed; and a browse that collects completes or fails.

There is an eighth. A cursor that is on its way when the browse is closed can still be
moved. What waits in the queue is then handed out as before, and if the stream had ended
with an error, that error comes out behind it: the browse is failed that was completed
already. `isFailing` says exactly when, and nothing but that takes a browse out of a state
in which it has ended.
-/

namespace SqlResolution

open Timeline (isOver)

/-- The changes of state that are meant to happen to a browse. -/
inductive State.Follows : State → State → Prop
  | sent : Follows .idle .requestSent
  | notSent : Follows .idle .failed
  | notUsed : Follows .idle .completed
  | begun : Follows .requestSent .collecting
  | notIterated : Follows .requestSent .completed
  | completed : Follows .collecting .completed
  | failed : Follows .collecting .failed

theorem State.not_follows_of_isTerminal {state next : State} (h : state.isTerminal = true) :
    ¬ Follows state next := by
  intro hfollows
  cases hfollows <;> cases h

/-- The datagrams of a queue that are in front of the marker of the end. -/
def Socket.inFront : List (Option Datagram) → List Datagram
  | some datagram :: rest => datagram :: inFront rest
  | _ => []

/-- The datagrams that wait to be taken. -/
def Socket.waiting (socket : Socket) : List Datagram :=
  inFront socket.queue

/-- A datagram without instances, malformed or not. -/
def Datagram.isBarren (datagram : Datagram) : Bool :=
  match (Response.read datagram.peer.host datagram.data).2 with
  | .ok instances => instances.isEmpty
  | .error (.malformed _) => true
  | .error _ => false

namespace Browse

variable {browse after : Browse} {endsAt : Option Instant}

/-! ## A stream that has ended -/

/-- There is time, and nothing is left in front of an error. -/
def isFailing (browse : Browse) (endsAt : Option Instant) : Bool :=
  !isOver (endsAt.map (·.since browse.timeline.now)) && browse.limits.inactivity ≠ .blank &&
    browse.timeline.socket.endError?.isSome && browse.timeline.socket.waiting.all (·.isBarren)

theorem awaitNext_of_hasEnded {t : Timeline} {limits : Limits} {timeout : Timeout}
    (hended : t.socket.hasEnded = true) (hover : isOver (endsAt.map (·.since t.now)) = false)
    (hvalue : limits.inactivity = .value timeout) : t.awaitNext limits endsAt = t.takeReady := by
  have htake := Socket.isSome_take_of_hasEnded hended
  unfold Timeline.awaitNext Timeline.receive Timeline.takeReady
  dsimp only
  rw [hover, hvalue]
  split
  next hfalse => cases hfalse
  next =>
    dsimp only
    split
    next => rfl
    next htaken =>
      have hnone : t.socket.take.1 = none := congrArg Prod.fst htaken
      rw [hnone] at htake
      cases htake

def withQueue (browse : Browse) (queue : List (Option Datagram)) : Browse :=
  { browse with timeline := browse.timeline.use { browse.timeline.socket with queue } }

theorem readAnswer_eq_nil_iff (browse : Browse) (answer : Datagram) :
    (browse.readAnswer answer).1 = .ok [] ↔ answer.isBarren = true := by
  rw [readAnswer, Datagram.isBarren]
  dsimp only
  cases (Response.read answer.peer.host answer.data).2 with
  | ok instances => cases instances <;> simp
  | error failure => cases failure <;> simp

section Ended

variable {timeout : Timeout}

theorem advance_of_waiting {queue : List (Option Datagram)} {datagram : Datagram}
    (hended : browse.timeline.socket.hasEnded = true)
    (hover : isOver (endsAt.map (·.since browse.timeline.now)) = false)
    (hvalue : browse.limits.inactivity = .value timeout)
    (hqueue : browse.timeline.socket.queue = some datagram :: queue) :
    browse.advance endsAt =
      (((browse.withQueue queue).readAnswer datagram).1.map some,
        ((browse.withQueue queue).readAnswer datagram).2) := by
  refine advance_of_some ?_
  rw [awaitNext_of_hasEnded hended hover hvalue]
  simp [Timeline.takeReady, Timeline.take, Socket.take, hqueue]

theorem takeReady_of_waiting_eq_nil {t : Timeline} (hended : t.socket.hasEnded = true)
    (hwaiting : t.socket.waiting = []) : t.takeReady.1 = t.socket.atEnd := by
  rw [Timeline.takeReady, Timeline.take, Socket.take]
  cases hqueue : t.socket.queue with
  | nil => simp [hended]
  | cons entry rest =>
    cases entry with
    | none => rfl
    | some datagram =>
      rw [Socket.waiting, hqueue] at hwaiting
      cases hwaiting

theorem fetch_of_waiting_eq_nil (hended : browse.timeline.socket.hasEnded = true)
    (hover : isOver (endsAt.map (·.since browse.timeline.now)) = false)
    (hvalue : browse.limits.inactivity = .value timeout)
    (hwaiting : browse.timeline.socket.waiting = []) :
    (∃ fault, (browse.fetch endsAt).1 = .error (.transport fault)) ↔
      browse.timeline.socket.endError?.isSome = true := by
  have hnext : (browse.timeline.awaitNext browse.limits endsAt).1 =
      browse.timeline.socket.atEnd := by
    rw [awaitNext_of_hasEnded hended hover hvalue]
    exact takeReady_of_waiting_eq_nil hended hwaiting
  rw [Socket.atEnd] at hnext
  cases herror : browse.timeline.socket.endError? with
  | none =>
    rw [herror] at hnext
    have hadvance := advance_of_none (Prod.ext hnext rfl)
    rw [fetch_of_none hadvance]
    simp
  | some error =>
    rw [herror] at hnext
    have hadvance := advance_of_error (Prod.ext hnext rfl)
    rw [fetch_of_error (Prod.ext hadvance rfl)]
    simp

/-- A datagram in front is passed over if it is barren, and else it is all that the cursor comes
to. -/
theorem fetch_of_waiting {queue : List (Option Datagram)} {datagram : Datagram}
    (hended : browse.timeline.socket.hasEnded = true)
    (hover : isOver (endsAt.map (·.since browse.timeline.now)) = false)
    (hvalue : browse.limits.inactivity = .value timeout)
    (hqueue : browse.timeline.socket.queue = some datagram :: queue) :
    (∃ fault, (browse.fetch endsAt).1 = .error (.transport fault)) ↔
      datagram.isBarren = true ∧ ∃ fault,
        (((browse.withQueue queue).readAnswer datagram).2.fetch endsAt).1 =
          .error (.transport fault) := by
  have hadvance := advance_of_waiting hended hover hvalue hqueue
  have hbarren := readAnswer_eq_nil_iff (browse.withQueue queue) datagram
  cases hread : ((browse.withQueue queue).readAnswer datagram).1 with
  | error failure =>
    obtain ⟨fault, rfl⟩ := readAnswer_error hread
    rw [hread] at hadvance hbarren
    rw [fetch_of_error hadvance, ← hbarren]
    simp
  | ok instances =>
    rw [hread] at hadvance hbarren
    rw [← hbarren]
    cases instances with
    | nil =>
      rw [fetch_of_nil hadvance]
      simp
    | cons found later =>
      rw [fetch_of_cons hadvance]
      simp

/-- From a stream that has ended a cursor comes to its error exactly if nothing that it hands out,
or that stops it, is in front of it. -/
theorem fetch_of_hasEnded (hended : browse.timeline.socket.hasEnded = true)
    (hover : isOver (endsAt.map (·.since browse.timeline.now)) = false)
    (hvalue : browse.limits.inactivity = .value timeout) :
    (∃ fault, (browse.fetch endsAt).1 = .error (.transport fault)) ↔
      browse.timeline.socket.endError?.isSome = true ∧
        browse.timeline.socket.waiting.all (·.isBarren) = true := by
  induction hqueue : browse.timeline.socket.queue generalizing browse with
  | nil =>
    have hwaiting : browse.timeline.socket.waiting = [] := by
      rw [Socket.waiting, hqueue]
      rfl
    rw [fetch_of_waiting_eq_nil hended hover hvalue hwaiting, hwaiting]
    simp
  | cons entry rest ih =>
    cases entry with
    | none =>
      have hwaiting : browse.timeline.socket.waiting = [] := by
        rw [Socket.waiting, hqueue]
        rfl
      rw [fetch_of_waiting_eq_nil hended hover hvalue hwaiting, hwaiting]
      simp
    | some datagram =>
      have hwaiting : browse.timeline.socket.waiting =
          datagram :: (browse.withQueue rest).timeline.socket.waiting := by
        rw [Socket.waiting, hqueue]
        rfl
      obtain ⟨notices, htimeline, hlimits⟩ := readAnswer_frame (browse.withQueue rest) datagram
      have hrest := @ih ((browse.withQueue rest).readAnswer datagram).2
      rw [htimeline, hlimits] at hrest
      rw [fetch_of_waiting hended hover hvalue hqueue, hrest hended hover hvalue rfl, hwaiting,
        List.all_cons, Bool.and_eq_true]
      exact and_left_comm

end Ended

theorem fetch_transport_iff (hended : browse.timeline.socket.hasEnded = true)
    (endsAt : Option Instant) :
    (∃ fault, (browse.fetch endsAt).1 = .error (.transport fault)) ↔
      browse.isFailing endsAt = true := by
  rw [isFailing]
  cases hover : isOver (endsAt.map (·.since browse.timeline.now)) with
  | true =>
    have hnext : (browse.timeline.awaitNext browse.limits endsAt).1 = .ok none := by
      unfold Timeline.awaitNext
      dsimp only
      rw [hover]
      rfl
    have hadvance := advance_of_none (Prod.ext hnext rfl)
    rw [fetch_of_none hadvance]
    simp
  | false =>
    cases hinactivity : browse.limits.inactivity with
    | blank =>
      have hnext : (browse.timeline.awaitNext browse.limits endsAt).1 =
          .error (.blankSetting .inactivity) := by
        unfold Timeline.awaitNext
        dsimp only
        rw [hover, hinactivity]
        rfl
      have hadvance := advance_of_error (Prod.ext hnext rfl)
      rw [fetch_of_error (Prod.ext hadvance rfl)]
      simp
    | value timeout =>
      rw [fetch_of_hasEnded hended hover hinactivity]
      simp

/-! ## Changes of state -/

/-- The states that were gone over to in between, each from the one before in a way that is
allowed. -/
def Evolves (allowed : State → State → Prop) (browse after : Browse) : Prop :=
  ∃ states, after.timeline.states = browse.timeline.states ++ states ∧
    (browse.state :: states).IsChain allowed ∧ (browse.state :: states).getLast? = some after.state

section Evolves

variable {allowed : State → State → Prop} {last : Browse}

theorem evolves_of_same (hstates : after.timeline.states = browse.timeline.states)
    (hstate : after.state = browse.state) : Evolves allowed browse after :=
  ⟨[], by rw [hstates, List.append_nil], .singleton _, by rw [hstate]; rfl⟩

theorem Evolves.trans (h : Evolves allowed browse after) (h' : Evolves allowed after last) :
    Evolves allowed browse last := by
  obtain ⟨states, hstates, hchain, hlast⟩ := h
  obtain ⟨later, hlater, hchain', hlast'⟩ := h'
  refine ⟨states ++ later, ?_, ?_, ?_⟩
  · rw [hlater, hstates, List.append_assoc]
  · rw [← List.cons_append, List.isChain_append]
    rw [List.isChain_cons] at hchain'
    refine ⟨hchain, hchain'.2, ?_⟩
    intro x hx y hy
    rw [hlast] at hx
    cases hx
    exact hchain'.1 y hy
  · rw [List.getLast?_cons] at hlast'
    rw [← List.cons_append, List.getLast?_append, hlast]
    cases hlater : later.getLast? with
    | none =>
      rw [hlater] at hlast'
      exact hlast'
    | some state =>
      rw [hlater] at hlast'
      exact hlast'

theorem Evolves.mono {weaker : State → State → Prop} (h : Evolves allowed browse after)
    (himp : ∀ {state next}, allowed state next → weaker state next) :
    Evolves weaker browse after := by
  obtain ⟨states, hstates, hchain, hlast⟩ := h
  exact ⟨states, hstates, hchain.imp fun _ _ => himp, hlast⟩

theorem Rests.evolves (h : Rests browse after) : Evolves allowed browse after :=
  evolves_of_same h.moves.later.states h.state

theorem evolves_setState {state : State} (h : allowed browse.state state) :
    Evolves allowed browse (browse.setState state) :=
  ⟨[state], states_setState browse state, .cons_cons h (.singleton _), rfl⟩

theorem evolves_releaseSocket (browse : Browse) : Evolves allowed browse browse.releaseSocket :=
  evolves_of_same (states_releaseSocket browse) (state_releaseSocket browse)

end Evolves

/-! ## Each step -/

section Steps

variable {P : Datagram → Prop}

theorem IsSound.state_cases (h : browse.IsSound P) :
    browse.state = .idle ∨ browse.state = .requestSent ∨ browse.state = .collecting ∨
      browse.state = .completed ∨ browse.state = .failed := by
  have hfits := h.fits
  rw [Fits] at hfits
  cases hstate : browse.state <;> rw [hstate] at hfits
  case awaitingOne => exact hfits.elim
  case timedOut => exact hfits.elim
  all_goals simp

theorem IsSound.evolves_close (h : browse.IsSound P) :
    Evolves State.Follows browse browse.close := by
  cases hterminal : browse.state.isTerminal with
  | true =>
    rw [close_of_isTerminal h.fits hterminal]
    exact evolves_of_same rfl rfl
  | false =>
    rw [close_of_not_isTerminal hterminal]
    refine (evolves_releaseSocket browse).trans (evolves_setState ?_)
    rw [state_releaseSocket]
    rcases h.state_cases with hstate | hstate | hstate | hstate | hstate
    · rw [hstate]
      exact .notUsed
    · rw [hstate]
      exact .notIterated
    · rw [hstate]
      exact .completed
    · rw [hstate] at hterminal
      cases hterminal
    · rw [hstate] at hterminal
      cases hterminal

theorem evolves_abandon {allowed : State → State → Prop} (h : allowed browse.state .failed) :
    Evolves allowed browse browse.abandon := by
  rw [abandon_eq]
  exact (evolves_setState h).trans (evolves_releaseSocket _)

theorem IsSound.evolves_enter (h : browse.IsSound P) :
    Evolves State.Follows browse browse.enter.2 := by
  by_cases hidle : browse.state = .idle
  · have hfits := h.fits
    rw [Fits, hidle] at hfits
    obtain ⟨-, hstates, -⟩ := isSound_question
      (isSound_use_new h.timeline hfits.2.2 browse.name none Protocol.maxQueueSize) rfl
      [Protocol.enumerateOpcode]
    have hasked : Evolves State.Follows browse { browse with
        holdsSocket := true
        timeline := ((browse.timeline.use (.new browse.name none Protocol.maxQueueSize)).question
          [Protocol.enumerateOpcode]).2 } := evolves_of_same hstates rfl
    rw [Browse.enter, if_neg (not_not_intro hidle)]
    dsimp only
    split
    · exact hasked.trans (evolves_abandon (hidle ▸ .notSent))
    · exact hasked.trans (evolves_setState (hidle ▸ .sent))
  · rw [enter_of_ne_idle hidle]
    exact evolves_of_same rfl rfl

theorem IsSound.evolves_conclude (h : browse.IsSound P) :
    Evolves State.Follows browse browse.conclude := by
  have hnoted : Evolves State.Follows browse
      (browse.note [.browseEnded browse.text browse.datagrams browse.yielded]) :=
    evolves_of_same (Timeline.states_note_of_silent (by simp [Notice.newState?])) rfl
  exact hnoted.trans (h.note _).evolves_close

theorem IsSound.evolves_ends {failure : Option Failure} (h : browse.IsSound P)
    (hstate : browse.state = .collecting) (hends : Ends browse failure after) :
    Evolves State.Follows browse after := by
  cases hends with
  | completed rest hrests =>
    exact hrests.evolves.trans (h.rests hrests).evolves_conclude
  | failed rest fault hrests =>
    refine hrests.evolves.trans (evolves_abandon ?_)
    rw [hrests.state, hstate]
    exact .failed
  | stopped rest failure hrests hother => exact hrests.evolves

theorem IsReady.evolves_begun (h : browse.IsReady) : Evolves State.Follows browse browse.begun := by
  have hsame : Evolves State.Follows browse { browse with isIterated := true } :=
    evolves_of_same rfl rfl
  refine hsame.trans (evolves_setState ?_)
  show State.Follows browse.state .collecting
  rw [h.state]
  exact .begun

end Steps

end Browse

namespace Session

open Browse (Evolves)

variable {P : Datagram → Prop} {session : Session}

/-- The states of the browse so far, according to the log. -/
def history (session : Session) : List State :=
  .idle :: session.browse.timeline.states

/-- The step moves a cursor that has nothing left to hand out, after the browse was completed, and
the cursor comes to an error. -/
def failsLate (session : Session) : Browse.Step → Bool
  | .next i =>
    match session.cursors[i]? with
    | some (.running endsAt []) =>
      session.browse.state = .completed && session.browse.isFailing endsAt
    | _ => false
  | _ => false

/-- One of the steps does. -/
def everFailsLate (session : Session) : List Browse.Step → Bool
  | [] => false
  | step :: later => session.failsLate step || (session.act step).2.everFailsLate later

/-- A cursor on its way belongs to a browse that collects, or one that was closed meanwhile. -/
theorem IsSound.state_of_running (h : session.IsSound P) {i : Nat} {endsAt : Option Instant}
    {instances : List Instance} (hcursor : session.cursors[i]? = some (.running endsAt instances)) :
    session.browse.state = .collecting ∨
      session.browse.state = .completed ∧ session.browse.timeline.socket.hasEnded = true := by
  have hrunning := Nat.le_trans (isRunning_le_countP hcursor) h.running
  have hiterated : session.browse.isIterated = true ∧ session.browse.state ≠ .failed := by
    cases hand : session.browse.isIterated && session.browse.state ≠ .failed with
    | false =>
      rw [hand] at hrunning
      cases hrunning
    | true => simpa using hand
  have hfits := h.browse.fits
  rw [Browse.Fits] at hfits
  cases hstate : session.browse.state <;> rw [hstate] at hfits hiterated
  case collecting => exact .inl rfl
  case completed => exact .inr ⟨rfl, hfits.2.2 hiterated.1⟩
  case idle =>
    rw [hfits.2.1] at hiterated
    cases hiterated.1
  case requestSent =>
    rw [hfits.2.1] at hiterated
    cases hiterated.1
  case failed => exact absurd rfl hiterated.2
  all_goals exact hfits.elim

/-- A cursor that is moved changes the state as it should, unless it fails late. -/
theorem IsSound.evolves_move (h : session.IsSound P) (i : Nat)
    (hlate : session.failsLate (.next i) = false) :
    Evolves State.Follows session.browse (session.move i).2.browse := by
  rw [Session.move]
  split
  · exact Browse.evolves_of_same rfl rfl
  next found hfound =>
    have hmoved := Browse.moved_next session.browse found
    show Evolves State.Follows session.browse (session.browse.next found).2.2
    generalize (session.browse.next found).2.2 = after at hmoved
    generalize (session.browse.next found).2.1 = moved at hmoved
    cases hmoved with
    | rested _ _ hrests hrunning => exact hrests.evolves
    | begun _ _ hready hrests hfresh => exact hready.evolves_begun.trans hrests.evolves
    | begunEnded failure _ hready hends hfresh =>
      exact hready.evolves_begun.trans ((h.browse.begun hready).evolves_ends rfl hends)
    | ended endsAt _ hends hcursor =>
      subst hcursor
      rcases h.state_of_running hfound with hcollecting | ⟨hcompleted, hended⟩
      · exact h.browse.evolves_ends hcollecting hends
      · have hnot : session.browse.isFailing endsAt = false := by
          simpa [failsLate, hfound, hcompleted] using hlate
        have hother : ∀ fault, Browse.failure? (session.browse.fetch endsAt).1 ≠
            some (.transport fault) := by
          intro fault hfault
          have hfailing := (Browse.fetch_transport_iff hended endsAt).1
            ⟨fault, Browse.failure?_eq_some.1 hfault⟩
          rw [hnot] at hfailing
          cases hfailing
        generalize Browse.failure? (session.browse.fetch endsAt).1 = failure at hends hother
        cases hends with
        | completed rest hrests =>
          exact hrests.evolves.trans (h.browse.rests hrests).evolves_conclude
        | failed rest fault hrests => exact absurd rfl (hother fault)
        | stopped rest failure hrests hnone => exact hrests.evolves

/-- What failing late is: the browse goes from completed to failed. -/
theorem IsSound.evolves_act_of_failsLate (h : session.IsSound P) {step : Browse.Step}
    (hlate : session.failsLate step = true) :
    session.browse.state = .completed ∧ (session.act step).2.browse.state = .failed ∧
      Evolves (fun state next => state = .completed ∧ next = .failed) session.browse
        (session.act step).2.browse := by
  unfold failsLate at hlate
  split at hlate
  next i =>
    split at hlate
    next endsAt hfound =>
      simp only [Bool.and_eq_true, decide_eq_true_eq] at hlate
      obtain ⟨hcompleted, hfailing⟩ := hlate
      have hended : session.browse.timeline.socket.hasEnded = true := by
        rcases h.state_of_running hfound with hcollecting | ⟨-, hended⟩
        · rw [hcompleted] at hcollecting
          cases hcollecting
        · exact hended
      obtain ⟨fault, hfetch⟩ := (Browse.fetch_transport_iff hended endsAt).2 hfailing
      have hmove : (session.act (.next i)).2.browse = (session.browse.fetch endsAt).2.2 := by
        show (session.move i).2.browse = _
        rw [Session.move, hfound]
        rfl
      have hends := Browse.fetches session.browse endsAt
      rw [hfetch] at hends
      rw [hmove]
      generalize (session.browse.fetch endsAt).2.2 = after at hends
      obtain ⟨hends, -⟩ := hends
      cases hends with
      | failed rest _ hrests =>
        refine ⟨hcompleted, Browse.state_abandon rest, ?_⟩
        exact hrests.evolves.trans (Browse.evolves_abandon ⟨hrests.state.trans hcompleted, rfl⟩)
      | stopped rest _ hrests hother => exact absurd rfl (hother fault)
    next => cases hlate
  next => cases hlate

/-- Every other step changes the state as it should. -/
theorem IsSound.evolves_act (h : session.IsSound P) {step : Browse.Step}
    (hlate : session.failsLate step = false) :
    Evolves State.Follows session.browse (session.act step).2.browse := by
  cases step with
  | enter => exact h.browse.evolves_enter
  | close => exact h.browse.evolves_close
  | sleep length =>
    have hrests : Browse.Rests session.browse (session.browse.sleep length) :=
      ⟨Timeline.moves_sleep _ _, rfl, rfl, rfl, rfl, rfl⟩
    exact hrests.evolves
  | collect =>
    have hiterates := Browse.iterates session.browse
    show Evolves State.Follows session.browse session.browse.collect.2
    rw [Browse.collect_eq]
    dsimp only
    generalize session.browse.iterate.failure = outcome at hiterates
    generalize session.browse.iterate.browse = after at hiterates
    cases hiterates with
    | refused fault => exact Browse.evolves_of_same rfl rfl
    | ended _ _ hready hends =>
      exact hready.evolves_begun.trans ((h.browse.begun hready).evolves_ends rfl hends)
  | iterate => exact Browse.evolves_of_same rfl rfl
  | next i => exact h.evolves_move i hlate
  | stop i => exact Browse.evolves_of_same rfl rfl

/-! ## All steps -/

/-- A change of state that happens, be it meant to or not. -/
def Happens (state next : State) : Prop :=
  state.Follows next ∨ state = .completed ∧ next = .failed

theorem IsSound.evolves_run (h : session.IsSound P) (steps : List Browse.Step) :
    Evolves Happens session.browse (session.run steps).browse ∧
      (session.everFailsLate steps = false →
        Evolves State.Follows session.browse (session.run steps).browse) := by
  induction steps generalizing session with
  | nil =>
    have hsame : ∀ {allowed}, Evolves allowed session.browse session.browse :=
      Browse.evolves_of_same rfl rfl
    exact ⟨hsame, fun _ => hsame⟩
  | cons step later ih =>
    obtain ⟨hhappens, hfollows⟩ := ih (h.act step)
    show Evolves Happens session.browse ((session.act step).2.run later).browse ∧
      (_ → Evolves State.Follows session.browse ((session.act step).2.run later).browse)
    constructor
    · refine Evolves.trans ?_ hhappens
      cases hlate : session.failsLate step with
      | false => exact (h.evolves_act hlate).mono .inl
      | true => exact (h.evolves_act_of_failsLate hlate).2.2.mono .inr
    · intro hnever
      rw [everFailsLate, Bool.or_eq_false_iff] at hnever
      exact (h.evolves_act hnever.1).trans (hfollows hnever.2)

/-- Past a late failure the states are no longer such as are meant to follow one another. -/
theorem IsSound.not_isChain_of_everFailsLate (h : session.IsSound P) {steps : List Browse.Step}
    (hlate : session.everFailsLate steps = true) {states : List State}
    (hstates : (session.run steps).browse.timeline.states =
      session.browse.timeline.states ++ states) :
    ¬ (session.browse.state :: states).IsChain State.Follows := by
  induction steps generalizing session states with
  | nil => cases hlate
  | cons step later ih =>
    intro hchain
    have hrest := ((h.act step).evolves_run later).1
    obtain ⟨after, hafter, -, -⟩ := hrest
    change ((session.act step).2.run later).browse.timeline.states = _ at hstates
    cases hstep : session.failsLate step with
    | true =>
      obtain ⟨hcompleted, hfailed, added, hadded, -, hlast⟩ := h.evolves_act_of_failsLate hstep
      have hsplit : states = added ++ after := by
        rw [hafter, hadded, List.append_assoc] at hstates
        exact (List.append_cancel_left hstates).symm
      -- The browse was completed, and this step added a state behind that.
      cases added with
      | nil =>
        rw [hcompleted, hfailed] at hlast
        cases hlast
      | cons first others =>
        rw [hsplit, hcompleted] at hchain
        exact State.not_follows_of_isTerminal rfl ((List.isChain_cons.1 hchain).1 first rfl)
    | false =>
      obtain ⟨added, hadded, -, hlast⟩ := h.evolves_act hstep
      have hsplit : states = added ++ after := by
        rw [hafter, hadded, List.append_assoc] at hstates
        exact (List.append_cancel_left hstates).symm
      have hlater : (session.act step).2.everFailsLate later = true := by
        rwa [everFailsLate, hstep, Bool.false_or] at hlate
      rw [hsplit, ← List.cons_append, List.isChain_append] at hchain
      refine ih (h.act step) hlater hafter (List.isChain_cons.2 ⟨?_, hchain.2.1⟩)
      intro next hnext
      exact hchain.2.2 _ hlast next hnext

/-- Whatever is done with a browse, in whatever order and whatever the network does, its state
changes as it should but for the late failure of a browse that was completed; and it does nothing
else exactly if no step fails late. -/
theorem history_run (network : Network) (name : SocketName) (limits : Limits)
    (steps : List Browse.Step) :
    let session := start network name limits
    (session.run steps).history.getLast? = some (session.run steps).browse.state ∧
      (session.run steps).history.IsChain Happens ∧
      ((session.run steps).history.IsChain State.Follows ↔
        session.everFailsLate steps = false) := by
  intro session
  have hsound : session.IsSound fun _ => True :=
    isSound_start (fun _ _ _ _ _ => trivial) name limits
  obtain ⟨⟨states, hstates, hchain, hlast⟩, hfollows⟩ := hsound.evolves_run steps
  have hhistory : (session.run steps).history = session.browse.state :: states := by
    rw [history, hstates]
    rfl
  rw [hhistory]
  refine ⟨hlast, hchain, ?_, fun hnever => ?_⟩
  · intro hmeant
    cases hlate : session.everFailsLate steps with
    | false => rfl
    | true => exact absurd hmeant (hsound.not_isChain_of_everFailsLate hlate hstates)
  · obtain ⟨others, hothers, hmeant, -⟩ := hfollows hnever
    rw [hstates] at hothers
    rw [List.append_cancel_left hothers]
    exact hmeant

example :
    ((startPrompt [oneInstance, .failure ⟨5, "Input/output error"⟩]).run
      [.enter, .iterate, .next 0, .close, .next 0]).history =
      [.idle, .requestSent, .collecting, .completed, .failed] := by
  decide +kernel

end Session

end SqlResolution
