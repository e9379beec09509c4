import SqlResolution.Socket

/-!
# What happens to a socket

Events and takers touch three things of a socket: its queue, whether its stream has
ended, and how many datagrams it counted. All else is decided when it is opened. An
event can only put its own datagram into the queue, and once the stream has ended it
changes nothing.
-/

namespace SqlResolution

def Notice.newState? : Notice → Option State
  | stateChanged _ state => some state
  | _ => none

namespace Socket

variable {socket : Socket}

/-- Nothing has happened to the socket yet. -/
structure IsNew (socket : Socket) : Prop where
  queue : socket.queue = []
  stream : socket.stream = .flowing
  received : socket.received = 0

theorem isNew_new (name : SocketName) (broadcast : Option Bool) (capacity : Int) :
    (new name broadcast capacity).IsNew :=
  ⟨rfl, rfl, rfl⟩

/-! ## Events -/

theorem accept_frame (socket : Socket) (datagram : Datagram) :
    ∃ queue received, (socket.accept datagram).2 = { socket with queue, received } := by
  rw [accept]
  split
  · exact ⟨socket.queue, socket.received, rfl⟩
  · dsimp only
    split
    · exact ⟨socket.queue, _, rfl⟩
    · exact ⟨_, _, rfl⟩

theorem finish_frame (socket : Socket) (error : Option OsError) :
    ∃ queue stream, socket.finish error = { socket with queue, stream } := by
  rw [finish]
  split
  · exact ⟨socket.queue, socket.stream, rfl⟩
  · exact ⟨_, _, rfl⟩

/-- An event leaves alone what was decided when the socket was opened. -/
theorem handle_frame (socket : Socket) (event : Event) :
    ∃ queue stream received, (socket.handle event).2 = { socket with queue, stream, received } := by
  cases event with
  | datagram datagram =>
    obtain ⟨queue, received, h⟩ := accept_frame socket datagram
    exact ⟨queue, socket.stream, received, h⟩
  | failure error =>
    show ∃ queue stream received, (socket.fail error).2 = { socket with queue, stream, received }
    rw [fail]
    split
    · exact ⟨socket.queue, socket.stream, socket.received, rfl⟩
    · obtain ⟨queue, stream, h⟩ := finish_frame socket (some error)
      exact ⟨queue, stream, socket.received, h⟩
  | loss error =>
    obtain ⟨queue, stream, h⟩ := finish_frame socket error
    exact ⟨queue, stream, socket.received, h⟩

@[simp] theorem link_handle (socket : Socket) (event : Event) :
    (socket.handle event).2.link = socket.link := by
  obtain ⟨queue, stream, received, h⟩ := handle_frame socket event
  rw [h]

@[simp] theorem name_handle (socket : Socket) (event : Event) :
    (socket.handle event).2.name = socket.name := by
  obtain ⟨queue, stream, received, h⟩ := handle_frame socket event
  rw [h]

@[simp] theorem link_finish (socket : Socket) (error : Option OsError) :
    (socket.finish error).link = socket.link := by
  obtain ⟨queue, stream, h⟩ := finish_frame socket error
  rw [h]

theorem newState?_of_mem_handle {event : Event} {notice : Notice}
    (h : notice ∈ (socket.handle event).1) : notice.newState? = none := by
  cases event with
  | datagram datagram =>
    change notice ∈ (socket.accept datagram).1 at h
    rw [accept] at h
    split at h
    · cases h
    · dsimp only at h
      split at h
      · simp only [List.mem_cons, List.not_mem_nil, or_false] at h
        rcases h with rfl | rfl <;> rfl
      · rw [List.mem_singleton.1 h]
        rfl
  | failure error =>
    change notice ∈ (socket.fail error).1 at h
    rw [fail] at h
    split at h
    · rw [List.mem_singleton.1 h]
      rfl
    · rw [List.mem_singleton.1 h]
      rfl
  | loss error =>
    rw [List.mem_singleton.1 h]
    rfl

/-! ## The queue -/

theorem mem_queue_finish {error : Option OsError} {datagram : Datagram}
    (h : some datagram ∈ (socket.finish error).queue) : some datagram ∈ socket.queue := by
  rw [finish] at h
  split at h
  · exact h
  · dsimp only at h
    split at h
    · exact h
    · simpa using h

theorem mem_queue_accept {arrival datagram : Datagram}
    (h : some datagram ∈ (socket.accept arrival).2.queue) :
    some datagram ∈ socket.queue ∨ arrival = datagram := by
  rw [accept] at h
  split at h
  · exact .inl h
  · dsimp only at h
    split at h
    · exact .inl h
    · rcases List.mem_append.1 h with hold | hnew
      · exact .inl hold
      · exact .inr (Option.some.inj (List.mem_singleton.1 hnew)).symm

/-- An event puts nothing into the queue but its own datagram. -/
theorem mem_queue_handle {event : Event} {datagram : Datagram}
    (h : some datagram ∈ (socket.handle event).2.queue) :
    some datagram ∈ socket.queue ∨ event = .datagram datagram := by
  cases event with
  | datagram arrival =>
    rcases mem_queue_accept h with hold | rfl
    · exact .inl hold
    · exact .inr rfl
  | failure error =>
    change some datagram ∈ (socket.fail error).2.queue at h
    rw [fail] at h
    split at h
    · exact .inl h
    · exact .inl (mem_queue_finish h)
  | loss error => exact .inl (mem_queue_finish h)

theorem take_frame (socket : Socket) :
    ∃ queue, socket.take.2 = { socket with queue } ∧ ∀ entry ∈ queue, entry ∈ socket.queue := by
  rw [take]
  split
  next datagram rest hqueue =>
    refine ⟨rest, rfl, ?_⟩
    intro entry hentry
    rw [hqueue]
    exact List.mem_cons_of_mem _ hentry
  next rest hqueue =>
    refine ⟨rest, rfl, ?_⟩
    intro entry hentry
    rw [hqueue]
    exact List.mem_cons_of_mem _ hentry
  next => exact ⟨socket.queue, rfl, fun _ hentry => hentry⟩

/-! ## The end of the stream -/

/-- After the end an event changes nothing. -/
theorem handle_of_hasEnded (h : socket.hasEnded = true) (event : Event) :
    (socket.handle event).2 = socket := by
  cases event with
  | datagram datagram =>
    show (socket.accept datagram).2 = socket
    rw [accept, if_pos h]
  | failure error =>
    show (socket.fail error).2 = socket
    rw [fail]
    split
    · rfl
    · show socket.finish (some error) = socket
      rw [finish, if_pos h]
  | loss error =>
    show socket.finish error = socket
    rw [finish, if_pos h]

/-- The end is kept, and with it its cause. -/
theorem stream_handle_of_ended {error : Option OsError} (h : socket.stream = .ended error)
    (event : Event) : (socket.handle event).2.stream = .ended error := by
  have hended : socket.hasEnded = true := by
    rw [hasEnded, h]
    rfl
  rw [handle_of_hasEnded hended, h]

theorem hasEnded_finish (socket : Socket) (error : Option OsError) :
    (socket.finish error).hasEnded = true := by
  rw [finish]
  split
  next hended => exact hended
  next => rfl

/-- At the end of the stream there is always something to take, be it the end itself. -/
theorem isSome_take_of_hasEnded (h : socket.hasEnded = true) : socket.take.1.isSome = true := by
  rw [take]
  split
  · rfl
  · rfl
  · rw [if_pos h]
    rfl

end Socket

end SqlResolution
