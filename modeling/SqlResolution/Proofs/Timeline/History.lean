import SqlResolution.Proofs.Exchange

/-!
# Histories of a socket

From one timeline to a later one all kinds of things are done to the socket in use: events
come in, it is closed, its queue is asked for what is there. A history lists them in their
order, each with the socket as it stood just before. Nothing else can happen to what a
socket holds: the clock, the agenda and the log do not touch it.

Whatever the program does with a socket has such a history, and the datagrams that it is
given are those that the history tells of.
-/

namespace SqlResolution

inductive Socket.Act where
  | event (event : Event)
  | close
  | take

/-- Something that is done to a socket, and the socket just before. -/
structure Moment where
  socket : Socket
  act : Socket.Act

/-- The datagram that is handed out: the first entry of the queue, unless that is the marker. -/
def Moment.taken? (moment : Moment) : Option Datagram :=
  match moment.act with
  | .take => moment.socket.queue.head?.join
  | _ => none

/-- Something that a program does with a socket, directly or by waiting. -/
inductive Socket.Step where
  | event (event : Event)
  | close
  | sleep (length : Span)
  | receive (length : Setting (Option Span))
  deriving DecidableEq, Repr

namespace Timeline

variable {t u v : Timeline} {moments : List Moment} {datagrams : List Datagram}

/-- What a delivery does to the socket, as long as its link is connected. -/
def arrivals (t : Timeline) (delivery : Delivery) : List Moment :=
  if t.isConnected delivery.link then [⟨t.socket, .event delivery.event⟩] else []

/-- One thing that happens, and what is done to the socket by it. -/
inductive Occurs : Timeline → List Moment → Timeline → Prop
  | clock (t : Timeline) (now : Instant) (turn : Nat) (cancelAt : Option Instant)
    (hnow : t.now ≤ now) : Occurs t [] { t with now, turn, cancelAt }
  | callDue (t : Timeline) : Occurs t [] t.callDue
  | called (t : Timeline) (delivery : Delivery) (rest : List Delivery)
    (h : t.called = delivery :: rest) :
    Occurs t (t.arrivals delivery) ((t.withCalled rest).arrive delivery)
  | agenda (t : Timeline) (delivery : Delivery) (rest : List Delivery)
    (h : t.agenda = delivery :: rest) :
    Occurs t (t.arrivals delivery) ((t.withAgenda rest).arrive delivery)
  | event (t : Timeline) (event : Event) : Occurs t [⟨t.socket, .event event⟩] (t.handle event)
  | close (t : Timeline) : Occurs t [⟨t.socket, .close⟩] t.close
  | take (t : Timeline) : Occurs t [⟨t.socket, .take⟩] t.take.2

inductive History : Timeline → List Moment → Timeline → Prop
  | nil (t : Timeline) : History t [] t
  | snoc {t u v : Timeline} {moments last : List Moment} (h : History t moments u)
    (hlast : Occurs u last v) : History t (moments ++ last) v

theorem Occurs.history (h : Occurs t moments u) : History t moments u :=
  .snoc (.nil t) h

theorem History.trans {later : List Moment} (h : History t moments u)
    (h' : History u later v) : History t (moments ++ later) v := by
  induction h' with
  | nil =>
    rw [List.append_nil]
    exact h
  | snoc _ hlast ih =>
    rw [← List.append_assoc]
    exact .snoc ih hlast

/-! ## What is handed out -/

/-- From one timeline to the other these datagrams are handed out, one after another. -/
def Hands (t : Timeline) (datagrams : List Datagram) (u : Timeline) : Prop :=
  ∃ moments, History t moments u ∧ moments.filterMap Moment.taken? = datagrams

theorem Hands.refl (t : Timeline) : Hands t [] t :=
  ⟨[], .nil t, rfl⟩

theorem Hands.trans {later : List Datagram} (h : Hands t datagrams u) (h' : Hands u later v) :
    Hands t (datagrams ++ later) v := by
  obtain ⟨moments, hhistory, rfl⟩ := h
  obtain ⟨others, hothers, rfl⟩ := h'
  exact ⟨moments ++ others, hhistory.trans hothers, List.filterMap_append⟩

theorem Hands.of_occurs (h : Occurs t moments u) (hsilent : moments.filterMap Moment.taken? = []) :
    Hands t [] u :=
  ⟨moments, h.history, hsilent⟩

theorem taken_arrivals (t : Timeline) (delivery : Delivery) :
    (t.arrivals delivery).filterMap Moment.taken? = [] := by
  rw [arrivals]
  split <;> rfl

theorem Pass.hands (h : Pass t u) : Hands t [] u := by
  cases h with
  | clock now turn cancelAt hnow hcancel => exact .of_occurs (.clock t now turn cancelAt hnow) rfl
  | called delivery rest h => exact .of_occurs (.called t delivery rest h) (taken_arrivals t _)
  | agenda delivery rest h => exact .of_occurs (.agenda t delivery rest h) (taken_arrivals t _)
  | callDue h => exact .of_occurs (.callDue t) rfl

/-- Nothing is handed out to who does nothing. -/
theorem Passes.hands (h : Passes t u) : Hands t [] u := by
  induction h with
  | refl => exact .refl t
  | tail _ hlast ih => exact ih.trans hlast.hands

/-- The datagram in what a receiver is given, if there is one. -/
def handed : Except Failure (Option Datagram) → List Datagram
  | .ok found => found.toList
  | .error _ => []

theorem handed_atEnd (socket : Socket) : handed socket.atEnd = [] := by
  rw [Socket.atEnd]
  split <;> rfl

theorem handed_take (socket : Socket) :
    socket.take.1.toList.flatMap handed = socket.queue.head?.join.toList := by
  rw [Socket.take]
  split
  next datagram rest hqueue =>
    rw [hqueue]
    rfl
  next rest hqueue =>
    rw [hqueue, Option.toList_some, List.flatMap_singleton, handed_atEnd]
    rfl
  next hqueue =>
    rw [hqueue]
    split
    · rw [Option.toList_some, List.flatMap_singleton, handed_atEnd]
      rfl
    · rfl

theorem hands_take {found : Option (Except Failure (Option Datagram))} (h : t.take = (found, u)) :
    Hands t (found.toList.flatMap handed) u := by
  have hfound : t.socket.take.1 = found := congrArg Prod.fst h
  have htaken : t.take.2 = u := congrArg Prod.snd h
  refine ⟨[⟨t.socket, .take⟩], htaken ▸ (Occurs.take t).history, ?_⟩
  rw [← hfound, handed_take]
  cases hhead : t.socket.queue.head?.join <;> simp [Moment.taken?, hhead]

theorem hands_takeReady (t : Timeline) : Hands t (handed t.takeReady.1) t.takeReady.2 := by
  rw [takeReady]
  split
  next result u htaken =>
    have htake := hands_take htaken
    rwa [Option.toList_some, List.flatMap_singleton] at htake
  next htaken => exact hands_take htaken

theorem hands_takeCalled (t : Timeline) : Hands t (handed t.takeCalled.1) t.takeCalled.2 := by
  have hrest := (hands_takeReady t).trans (passes_resume t.takeReady.2.agenda t.takeReady.2).hands
  rwa [List.append_nil] at hrest

theorem hands_await (t : Timeline) (length : Option Span) :
    Hands t (handed (t.await length).1) (t.await length).2 := by
  rw [await]
  split
  · exact .refl t
  · dsimp only
    have hcalled := (passes_deliverCalled t).hands
    split
    · exact hcalled.trans (hands_takeCalled _)
    · have hwait := hcalled.trans
        (passes_wait t.deliverCalled (length.map t.deliverCalled.now.after)).hands
      split
      next wait_eq =>
        rw [wait_eq] at hwait
        exact hwait.trans (hands_takeReady _)
      next wait_eq =>
        rw [wait_eq] at hwait
        exact hwait
      next wait_eq =>
        rw [wait_eq] at hwait
        exact hwait

/-- A receiver is given what is handed out, and no more is handed out than that. -/
theorem hands_receive (t : Timeline) (length : Setting (Option Span)) :
    Hands t (handed (t.receive length).1) (t.receive length).2 := by
  rw [receive]
  split
  next htaken =>
    have htake := hands_take htaken
    rwa [Option.toList_some, List.flatMap_singleton] at htake
  next htaken =>
    have htake := hands_take htaken
    split
    · exact htake.trans (hands_await _ _)
    · exact htake

/-! ## What a program does -/

/-- Takes a step with the socket in use. The results are those of receiving. -/
def act (t : Timeline) : Socket.Step → List (Except Failure (Option Datagram)) × Timeline
  | .event event => ([], t.handle event)
  | .close => ([], t.close)
  | .sleep length => ([], t.sleep length)
  | .receive length =>
    let (result, t) := t.receive length
    ([result], t)

def perform (t : Timeline) : List Socket.Step → List (Except Failure (Option Datagram)) × Timeline
  | [] => ([], t)
  | step :: later =>
    let (results, t) := t.act step
    let (others, t) := t.perform later
    (results ++ others, t)

theorem hands_act (t : Timeline) (step : Socket.Step) :
    Hands t ((t.act step).1.flatMap handed) (t.act step).2 := by
  cases step with
  | event event => exact .of_occurs (.event t event) rfl
  | close => exact .of_occurs (.close t) rfl
  | sleep length => exact (passes_sleep t length).hands
  | receive length =>
    show Hands t ([(t.receive length).1].flatMap handed) _
    rw [List.flatMap_singleton]
    exact hands_receive t length

/-- What a program does with a socket has a history, which tells of just the datagrams that the
program is given. -/
theorem hands_perform (t : Timeline) (steps : List Socket.Step) :
    Hands t ((t.perform steps).1.flatMap handed) (t.perform steps).2 := by
  induction steps generalizing t with
  | nil => exact .refl t
  | cons step later ih =>
    show Hands t (((t.act step).1 ++ ((t.act step).2.perform later).1).flatMap _) _
    rw [List.flatMap_append]
    exact (hands_act t step).trans (ih (t.act step).2)

end Timeline

end SqlResolution
