import SqlResolution.Proofs.Timeline.Waiting

/-!
# All that comes in at one instant

Several events may come in before a receiver goes on. Of these it finds the datagrams that came
before the end of the stream, as far as there was room for them, and behind them the end. It
does not matter what comes after the end, nor how often somebody refused.
-/

namespace SqlResolution

namespace Event

/-- How the event ends the stream, if it does so: with an error or without one. -/
def end? : Event → Option (Option OsError)
  | datagram _ => none
  | failure error => if error.isRefused then none else some (some error)
  | loss error => some error

def datagram? : Event → Option Datagram
  | datagram found => some found
  | _ => none

/-- The datagrams before the first end of the stream. -/
def heard (events : List Event) : List Datagram :=
  (events.takeWhile (·.end?.isNone)).filterMap datagram?

/-- The first end of the stream. -/
def ended? (events : List Event) : Option (Option OsError) :=
  events.findSome? end?

variable {event : Event} {events : List Event}

theorem heard_cons_of_end (h : event.end?.isNone = false) : heard (event :: events) = [] := by
  rw [heard, List.takeWhile_cons, h]
  rfl

theorem heard_cons (h : event.end? = none) :
    heard (event :: events) = event.datagram?.toList ++ heard events := by
  rw [heard, List.takeWhile_cons, h, Option.isNone_none, if_pos rfl, List.filterMap_cons]
  cases event.datagram? <;> rfl

theorem ended?_cons_of_end {error : Option OsError} (h : event.end? = some error) :
    ended? (event :: events) = some error := by
  rw [ended?, List.findSome?_cons, h]

theorem ended?_cons (h : event.end? = none) : ended? (event :: events) = ended? events := by
  rw [ended?, List.findSome?_cons, h]
  rfl

/-- An event that is no refusal brings a datagram or the end. -/
theorem heard_or_ended (h : event.isRefusal = false) (hmem : event ∈ events) :
    heard events ≠ [] ∨ ended? events ≠ none := by
  induction events with
  | nil => cases hmem
  | cons first rest ih =>
    cases hend : first.end? with
    | some error =>
      refine .inr ?_
      rw [ended?_cons_of_end hend]
      exact Option.some_ne_none _
    | none =>
      rw [heard_cons hend, ended?_cons hend]
      rcases List.mem_cons.1 hmem with rfl | hrest
      · refine .inl ?_
        cases event with
        | datagram found => simp [datagram?]
        | failure error => simp_all [end?, isRefusal]
        | loss error => cases hend
      · exact (ih hrest).imp_left fun hne hnil => hne (List.append_eq_nil_iff.1 hnil).2

theorem end?_of_isRefusal (h : event.isRefusal = true) :
    event.end? = none ∧ event.datagram? = none := by
  cases event with
  | datagram found => cases h
  | loss error => cases h
  | failure error => exact ⟨if_pos h, rfl⟩

/-- Refusals bring neither. -/
theorem heard_of_refusals (h : ∀ event ∈ events, event.isRefusal = true) :
    heard events = [] ∧ ended? events = none := by
  induction events with
  | nil => exact ⟨rfl, rfl⟩
  | cons event rest ih =>
    obtain ⟨hend, hdatagram⟩ := end?_of_isRefusal (h event List.mem_cons_self)
    obtain ⟨hheard, hended⟩ := ih fun other hmem => h other (List.mem_cons_of_mem _ hmem)
    rw [heard_cons hend, ended?_cons hend, hdatagram, hheard, hended]
    exact ⟨rfl, rfl⟩

end Event

namespace Socket

open Event

variable {socket : Socket} {datagrams : List Datagram} {cause : Option (Option OsError)}
  {capacity : Nat}

/-- These datagrams wait in the queue, and behind them the end, if the stream has ended. -/
structure Holds (socket : Socket) (datagrams : List Datagram)
    (cause : Option (Option OsError)) : Prop where
  queue : ∃ marks, socket.queue = datagrams.map some ++ marks ∧ (∀ mark ∈ marks, mark = none) ∧
    (cause = none → marks = [])
  stream : socket.stream = cause.elim .flowing .ended

theorem Holds.queue_eq (h : socket.Holds datagrams none) : socket.queue = datagrams.map some := by
  obtain ⟨marks, hqueue, -, hmarks⟩ := h.queue
  rw [hqueue, hmarks rfl, List.append_nil]

theorem Holds.hasEnded_eq (h : socket.Holds datagrams none) : socket.hasEnded = false := by
  simp [hasEnded, h.stream]

theorem Holds.finish (h : socket.Holds datagrams none) (error : Option OsError) :
    (socket.finish error).Holds datagrams (some error) := by
  rw [Socket.finish, if_neg (ne_true_of_eq_false h.hasEnded_eq), h.queue_eq]
  refine ⟨?_, rfl⟩
  dsimp only
  split
  · exact ⟨[], (List.append_nil _).symm, by simp, by simp⟩
  · exact ⟨[none], rfl, by simp, by simp⟩

theorem Holds.handle_end {error : Option OsError} (h : socket.Holds datagrams none)
    (hend : event.end? = some error) :
    (socket.handle event).2.Holds datagrams (some error) := by
  cases event with
  | datagram datagram => cases hend
  | failure failure =>
    rw [Event.end?] at hend
    split at hend
    · cases hend
    next hrefused =>
      cases hend
      show (socket.fail failure).2.Holds _ _
      rw [fail, if_neg hrefused]
      exact h.finish _
  | loss error =>
    cases hend
    exact h.finish _

/-- What comes in before the end is put into the queue, if it is a datagram and there is room. -/
theorem Holds.handle (h : socket.Holds datagrams none) (hcapacity : socket.capacity = capacity)
    (hpos : 0 < capacity) (hroom : datagrams.length ≤ capacity) (hend : event.end? = none) :
    (socket.handle event).2.Holds ((datagrams ++ event.datagram?.toList).take capacity) none := by
  have hsame : socket.Holds ((datagrams ++ []).take capacity) none := by
    rw [List.append_nil, List.take_of_length_le hroom]
    exact h
  cases event with
  | loss error => cases hend
  | failure failure =>
    rw [Event.end?] at hend
    split at hend
    next hrefused =>
      show (socket.fail failure).2.Holds _ _
      rw [fail, if_pos hrefused]
      exact hsame
    · cases hend
  | datagram datagram =>
    show (socket.accept datagram).2.Holds ((datagrams ++ [datagram]).take capacity) none
    have hfull : socket.isFull = decide (capacity ≤ datagrams.length) := by
      rw [isFull, hcapacity, h.queue_eq, List.length_map]
      simp [hpos]
    rw [accept, if_neg (ne_true_of_eq_false h.hasEnded_eq), hfull]
    dsimp only
    split
    next hfull =>
      have hlength : capacity = datagrams.length :=
        le_antisymm (of_decide_eq_true hfull) hroom
      rw [hlength, List.take_left]
      exact ⟨⟨[], by rw [h.queue_eq, List.append_nil], by simp, fun _ => rfl⟩, h.stream⟩
    next hnotfull =>
      have hlength : datagrams.length < capacity := by simpa using hnotfull
      rw [List.take_of_length_le (by rw [List.length_append]; exact hlength)]
      refine ⟨⟨[], ?_, by simp, fun _ => rfl⟩, h.stream⟩
      rw [h.queue_eq, List.map_append, List.append_nil]
      rfl

/-- The socket after a number of events. -/
def handleAll (socket : Socket) (events : List Event) : Socket :=
  events.foldl (fun socket event => (socket.handle event).2) socket

theorem handleAll_of_hasEnded (h : socket.hasEnded = true) (events : List Event) :
    socket.handleAll events = socket := by
  induction events with
  | nil => rfl
  | cons event rest ih =>
    show (socket.handle event).2.handleAll rest = socket
    rw [handle_of_hasEnded h, ih]

theorem handleAll_frame (socket : Socket) (events : List Event) :
    ∃ queue stream received, socket.handleAll events = { socket with queue, stream, received } := by
  induction events generalizing socket with
  | nil => exact ⟨socket.queue, socket.stream, socket.received, rfl⟩
  | cons event rest ih =>
    obtain ⟨queue, stream, received, hfirst⟩ := handle_frame socket event
    obtain ⟨queue', stream', received', hrest⟩ := ih (socket.handle event).2
    refine ⟨queue', stream', received', hrest.trans ?_⟩
    rw [hfirst]

/-- There is something to take. -/
theorem Holds.isSome_take (h : socket.Holds datagrams cause)
    (hsome : datagrams ≠ [] ∨ cause ≠ none) : socket.take.1.isSome = true := by
  cases cause with
  | some error => exact isSome_take_of_hasEnded (by simp [hasEnded, h.stream])
  | none =>
    rw [take, h.queue_eq]
    cases datagrams with
    | nil => simp at hsome
    | cons datagram rest => rfl

theorem take_take_append (kept more : List Datagram) (capacity : Nat) :
    (kept.take capacity ++ more).take capacity = (kept ++ more).take capacity := by
  rcases le_total kept.length capacity with hle | hle
  · rw [List.take_of_length_le hle]
  · rw [List.take_append_of_le_length hle, List.take_append_of_le_length (by simp [hle]),
      List.take_take, min_self]

/-- What a socket holds after a number of events. -/
theorem Holds.handleAll (events : List Event) (h : socket.Holds datagrams none)
    (hcapacity : socket.capacity = capacity) (hpos : 0 < capacity)
    (hroom : datagrams.length ≤ capacity) :
    (socket.handleAll events).Holds
      ((datagrams ++ heard events).take capacity) (ended? events) := by
  induction events generalizing socket datagrams with
  | nil =>
    rw [heard, List.takeWhile_nil, List.filterMap_nil, List.append_nil,
      List.take_of_length_le hroom]
    exact h
  | cons event rest ih =>
    show ((socket.handle event).2.handleAll rest).Holds _ _
    cases hend : event.end? with
    | some error =>
      have hended := h.handle_end hend
      have hlast : (socket.handle event).2.hasEnded = true := by
        simp [hasEnded, hended.stream]
      rw [handleAll_of_hasEnded hlast, heard_cons_of_end (by rw [hend]; rfl),
        ended?_cons_of_end hend, List.append_nil, List.take_of_length_le hroom]
      exact hended
    | none =>
      have hnext := h.handle hcapacity hpos hroom hend
      obtain ⟨queue, stream, received, hframe⟩ := handle_frame socket event
      rw [heard_cons hend, ended?_cons hend, ← List.append_assoc, ← take_take_append]
      refine ih hnext ?_ (List.length_take_le _ _)
      rw [hframe]
      exact hcapacity

end Socket

namespace Timeline

variable {t : Timeline} {limit : Option Instant} {time : Instant} {link : Nat}
  {burst later : List (Instant × Event)}

theorem deliver_keeps (t : Timeline) (delivery : Delivery) :
    (t.deliver delivery).called = t.called ∧ (t.deliver delivery).cancelAt = t.cancelAt := by
  obtain ⟨hcalled, -, hcancel⟩ :=
    arrive_keeps (t.networkAt (t.instantOf delivery.time)) delivery
  rw [deliver_eq, hcalled, hcancel, networkAt_eq]
  exact ⟨rfl, rfl⟩

theorem foldl_deliver_keeps (deliveries : List Delivery) (t : Timeline) :
    (deliveries.foldl deliver t).called = t.called ∧
      (deliveries.foldl deliver t).cancelAt = t.cancelAt := by
  induction deliveries generalizing t with
  | nil => exact ⟨rfl, rfl⟩
  | cons delivery rest ih =>
    obtain ⟨hcalled, hcancel⟩ := ih (t.deliver delivery)
    obtain ⟨hcalled', hcancel'⟩ := deliver_keeps t delivery
    exact ⟨hcalled.trans hcalled', hcancel.trans hcancel'⟩

/-- The link is connected, as long as the stream has not ended. -/
def IsLive (link : Nat) (t : Timeline) : Prop :=
  t.isConnected link = true ∨ t.socket.hasEnded = true

theorem IsLive.arrive (h : t.IsLive link) (answer : Instant × Event) :
    (t.arrive (onTheWay link answer)).socket = (t.socket.handle answer.2).2 ∧
      (t.arrive (onTheWay link answer)).IsLive link := by
  have hsocket := socket_arrive t (onTheWay link answer)
  have hlink : (onTheWay link answer).link = link := rfl
  rw [hlink] at hsocket
  by_cases hconnected : t.isConnected link = true
  · rw [if_pos hconnected] at hsocket
    refine ⟨hsocket, ?_⟩
    obtain ⟨time, event⟩ := answer
    cases event with
    | loss error =>
      refine .inr ?_
      rw [hsocket]
      exact Socket.hasEnded_finish _ _
    | datagram found =>
      refine .inl ?_
      rw [Timeline.arrive, hlink, if_pos hconnected]
      exact hconnected
    | failure error =>
      refine .inl ?_
      rw [Timeline.arrive, hlink, if_pos hconnected]
      exact hconnected
  · have hended := h.resolve_left hconnected
    rw [if_neg hconnected] at hsocket
    refine ⟨hsocket.trans (Socket.handle_of_hasEnded hended _).symm, .inr ?_⟩
    rw [hsocket]
    exact hended

theorem IsLive.deliver (h : t.IsLive link) (answer : Instant × Event) :
    (t.deliver (onTheWay link answer)).socket = (t.socket.handle answer.2).2 ∧
      (t.deliver (onTheWay link answer)).IsLive link := by
  have hlive : (t.networkAt (t.instantOf answer.1)).IsLive link := by
    rw [networkAt_eq]
    exact h
  have harrive := hlive.arrive answer
  rw [socket_networkAt] at harrive
  exact harrive

theorem IsLive.foldl_deliver (h : t.IsLive link) (burst : List (Instant × Event)) :
    ((burst.map (onTheWay link)).foldl Timeline.deliver t).socket =
        t.socket.handleAll (burst.map Prod.snd) ∧
      ((burst.map (onTheWay link)).foldl Timeline.deliver t).IsLive link := by
  induction burst generalizing t with
  | nil => exact ⟨rfl, h⟩
  | cons answer rest ih =>
    obtain ⟨hsocket, hlive⟩ := h.deliver answer
    obtain ⟨hrest, hlast⟩ := ih hlive
    refine ⟨?_, hlast⟩
    rw [List.map_cons, List.foldl_cons, hrest, hsocket]
    rfl

theorem now_foldl_deliver_of_due (deliveries : List Delivery)
    (h : ∀ delivery ∈ deliveries, delivery.time.isDue t.now = true) :
    (deliveries.foldl deliver t).now = t.now := by
  induction deliveries generalizing t with
  | nil => rfl
  | cons delivery rest ih =>
    have hfirst := now_deliver_of_due (h delivery List.mem_cons_self)
    rw [List.foldl_cons, ih, hfirst]
    intro other hmem
    rw [hfirst]
    exact h other (List.mem_cons_of_mem _ hmem)

/-- The first event of an instant moves the clock, and the others find it there. -/
theorem now_foldl_deliver_burst (t : Timeline) (link : Nat) (hne : burst ≠ [])
    (htime : ∀ answer ∈ burst, answer.1 = time) :
    ((burst.map (onTheWay link)).foldl deliver t).now =
      (t.networkAt (t.instantOf time)).now := by
  cases burst with
  | nil => exact absurd rfl hne
  | cons answer rest =>
    have hfirst : (t.deliver (onTheWay link answer)).now =
        (t.networkAt (t.instantOf time)).now := by
      rw [now_deliver]
      show (t.networkAt (t.instantOf answer.1)).now = _
      rw [htime answer List.mem_cons_self]
    rw [List.map_cons, List.foldl_cons, now_foldl_deliver_of_due, hfirst]
    intro delivery hmem
    obtain ⟨other, hother, rfl⟩ := List.mem_map.1 hmem
    rw [hfirst]
    show other.1.isDue _ = true
    rw [htime other (List.mem_cons_of_mem _ hother)]
    exact isDue_instantOf t time

/-- Of an agenda comes in what is due, up to the first that is not. -/
theorem deliverDue_append {due late : List Delivery}
    (hdue : ∀ delivery ∈ due, delivery.time.isDue t.now = true)
    (hlate : ∀ delivery ∈ late.head?, delivery.time.isDue t.now = false) :
    t.deliverDue (due ++ late) = (due.foldl deliver t).withAgenda late := by
  induction due generalizing t with
  | nil =>
    cases late with
    | nil => rfl
    | cons delivery rest =>
      have hfirst := hlate delivery rfl
      rw [List.nil_append, deliverDue, if_neg (ne_true_of_eq_false hfirst)]
      rfl
  | cons delivery rest ih =>
    have hfirst := hdue delivery List.mem_cons_self
    have hnow := now_deliver_of_due hfirst
    rw [List.cons_append, deliverDue, if_pos hfirst, List.foldl_cons]
    refine ih ?_ ?_
    · intro other hmem
      rw [hnow]
      exact hdue other (List.mem_cons_of_mem _ hmem)
    · rw [hnow]
      exact hlate

/-- Before the program goes on, all that is due comes in. -/
theorem resume_append (hdue : ∀ answer ∈ burst, answer.1.isDue t.now = true)
    (hlate : ∀ answer ∈ later.head?, answer.1.isDue t.now = false) :
    t.resume ((burst ++ later).map (onTheWay link)) =
      (((burst.map (onTheWay link)).foldl deliver t).withAgenda
        (later.map (onTheWay link))).programTurn := by
  rw [resume, List.map_append, deliverDue_append]
  · intro delivery hmem
    obtain ⟨answer, hanswer, rfl⟩ := List.mem_map.1 hmem
    exact hdue answer hanswer
  · intro delivery hmem
    rw [List.head?_map, Option.mem_def, Option.map_eq_some_iff] at hmem
    obtain ⟨answer, hanswer, rfl⟩ := hmem
    exact hlate answer hanswer

/-- A burst that is more than refusals has a first event that is none. -/
theorem exists_first_event (h : ∃ answer ∈ burst, answer.2.isRefusal = false) :
    ∃ before first rest, burst = before ++ first :: rest ∧ first.2.isRefusal = false ∧
      ∀ answer ∈ before, answer.2.isRefusal = true := by
  obtain ⟨found, hfound, hrefusal⟩ := h
  have hsome : (burst.find? fun answer => !answer.2.isRefusal).isSome = true :=
    List.find?_isSome.2 ⟨found, hfound, by rw [hrefusal]; rfl⟩
  obtain ⟨first, hfirst⟩ := Option.isSome_iff_exists.1 hsome
  obtain ⟨hevent, before, rest, hburst, hbefore⟩ := List.find?_eq_some_iff_append.1 hfirst
  exact ⟨before, first, rest, hburst, by simpa using hevent, by simpa using hbefore⟩

/-- All that comes in at the instant at which the wait ends comes in before the program goes on. -/
theorem waitFrom_burst (hholds : t.socket.Holds [] none) (hconnected : t.isConnected link = true)
    (htime : ∀ answer ∈ burst, answer.1 = time) (hintime : t.isInTime limit time = true)
    (hevent : ∃ answer ∈ burst, answer.2.isRefusal = false)
    (hlater : ∀ answer ∈ later.head?,
      answer.1.isDue (t.networkAt (t.instantOf time)).now = false) :
    t.waitFrom limit ((burst ++ later).map (onTheWay link)) =
      (.ready, (((burst.map (onTheWay link)).foldl deliver t).withAgenda
        (later.map (onTheWay link))).programTurn) := by
  obtain ⟨before, first, rest, rfl, hevent, hbefore⟩ := exists_first_event hevent
  have hready : t.isReady = false := by
    rw [isReady, hholds.queue_eq]
    rfl
  have hshows := Socket.shows_handle hholds.queue_eq hholds.stream hevent
  have hall : ∀ answer ∈ before ++ first :: rest, t.isInTime limit answer.1 = true := by
    intro answer hmem
    rw [htime answer hmem]
    exact hintime
  obtain ⟨s, hs, -, hwait⟩ := waitFrom_found (rest ++ later) hready hconnected hbefore
    (fun answer hmem => hall answer (List.mem_append_left _ hmem))
    (hall first (List.mem_append_right _ List.mem_cons_self)) hshows.queue_ne_nil
  have hfirst : ((before ++ [first]).map (onTheWay link)).foldl deliver t = s := by
    rw [List.map_append, List.foldl_append]
    exact hs.symm
  have hburst : ((before ++ first :: rest).map (onTheWay link)).foldl deliver t =
      (rest.map (onTheWay link)).foldl deliver s := by
    rw [← hfirst, ← List.foldl_append, ← List.map_append, List.append_assoc]
    rfl
  have hnow : s.now = (t.networkAt (t.instantOf time)).now := by
    rw [← hfirst]
    refine now_foldl_deliver_burst t link (by simp) fun answer hmem => htime answer ?_
    rcases List.mem_append.1 hmem with hmem | hmem
    · exact List.mem_append_left _ hmem
    · rw [List.mem_singleton.1 hmem]
      exact List.mem_append_right _ List.mem_cons_self
  rw [← hnow] at hlater
  rw [hburst, ← resume_append _ hlater, List.append_assoc, List.cons_append]
  · exact hwait
  · intro answer hanswer
    rw [hnow, htime answer (List.mem_append_right _ (List.mem_cons_of_mem _ hanswer))]
    exact isDue_instantOf t time

end Timeline

end SqlResolution
