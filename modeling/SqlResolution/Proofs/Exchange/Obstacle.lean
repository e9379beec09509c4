import SqlResolution.Collection
import SqlResolution.Proofs.Exchange.Reach
import SqlResolution.Proofs.Socket.Account

/-!
# What keeps a question from getting out

Once an address was found a question goes through five stages: a socket is made, allowed to
broadcast if that is wanted, bound, connected, and used. The network may raise an error at each
of them, and the first one that does decides. What the stages before it have made is closed, and
the shape of the link that is left shows how far they came: none of the later stages has been
tried. Nothing was sent, and it took no time.
-/

namespace SqlResolution

/-- A stage on the way of a question to an address that was found. -/
inductive Stage where
  | create
  | allow
  | bind
  | connect
  | send
  deriving DecidableEq, Repr

namespace Stage

def inOrder : List Stage :=
  [create, allow, bind, connect, send]

/-- The error that a network raises at a stage. Who is not to broadcast is not asked about it. -/
def error? (network : Network) (allowed : Bool) : Stage → Option OsError
  | create => network.socketError
  | allow => if allowed then network.broadcastError else none
  | bind => network.bindError
  | connect => network.connectError
  | send => network.sendError

/-- What is left when a stage has failed: what the stages before it have made, and closed. -/
def leaves (family : Family) (allowed : Bool) : Stage → List Link
  | create => []
  | allow => [⟨family, false, none, false, true⟩]
  | bind => [⟨family, allowed, none, false, true⟩]
  | connect | send => [⟨family, allowed, some (Network.anyAddress family), false, true⟩]

/-- What is told when a stage has failed. Up to the last one this is nothing; then the socket was
connected and the question was about to go out, and so the socket is disconnected again. -/
def tells (name : SocketName) (destination : Destination) (allowed : Bool) (data : List UInt8) :
    Stage → List Notice
  | send =>
    let own := ⟨destination.family, Network.ownAddress destination.family, Network.ownPort⟩
    [.connected name, .opened name own allowed, .sending name destination data,
      .connectionLost name none]
  | _ => []

theorem isClosed_of_mem_leaves {family : Family} {allowed : Bool} {stage : Stage} {link : Link}
    (h : link ∈ stage.leaves family allowed) : link.isClosed = true := by
  cases stage with
  | create => cases h
  | allow | bind | connect | send => rw [List.mem_singleton.1 h]

end Stage

namespace Network

/-- The first stage at which the network raises an error, and the error. -/
def obstacle? (network : Network) (allowed : Bool) : Option (Stage × OsError) :=
  Stage.inOrder.findSome? fun stage => (stage.error? network allowed).map (stage, ·)

/-- The link of a socket that is open. -/
def openedLink (family : Family) (allowed : Bool) : Link :=
  ⟨family, allowed, some (anyAddress family), true, false⟩

/-- A link is opened in the first four stages. -/
theorem openLink_eq (network : Network) (family : Family) (allowed : Bool) :
    network.openLink family allowed =
      match network.obstacle? allowed with
      | some (.send, _) | none => .opened (openedLink family allowed)
      | some (stage, error) => .failed error (stage.leaves family allowed).head? := by
  rw [openLink]
  cases hcreate : network.socketError with
  | some error => simp [obstacle?, Stage.inOrder, Stage.error?, Stage.leaves, hcreate]
  | none =>
    cases hallow : (if allowed then network.broadcastError else none) with
    | some error => simp [obstacle?, Stage.inOrder, Stage.error?, Stage.leaves, hcreate, hallow]
    | none =>
      cases hbind : network.bindError with
      | some error =>
        simp [obstacle?, Stage.inOrder, Stage.error?, Stage.leaves, hcreate, hallow, hbind]
      | none =>
        cases hconnect : network.connectError with
        | some error =>
          simp [obstacle?, Stage.inOrder, Stage.error?, Stage.leaves, hcreate, hallow, hbind,
            hconnect]
        | none =>
          cases hsend : network.sendError <;>
            simp [obstacle?, Stage.inOrder, Stage.error?, openedLink, hcreate, hallow, hbind,
              hconnect, hsend]

theorem sendError_of_obstacle {network : Network} {allowed : Bool} {error : OsError}
    (h : network.obstacle? allowed = some (.send, error)) : network.sendError = some error := by
  obtain ⟨stage, -, hstage⟩ := List.exists_of_findSome?_eq_some h
  obtain ⟨other, hother, heq⟩ := Option.map_eq_some_iff.1 hstage
  cases heq
  exact hother

theorem sendError_of_no_obstacle {network : Network} {allowed : Bool}
    (h : network.obstacle? allowed = none) : network.sendError = none :=
  Option.map_eq_none_iff.1 (List.findSome?_eq_none_iff.1 h .send (by decide))

end Network

namespace Timeline

variable {α : Type} {t u : Timeline} {destination : Destination} {link : Nat}

/-- A question has not got out. Of what was made only closed links are left, and all else is as it
was, but for what was told. -/
structure GivesUp (t : Timeline) (cause : Option Cause) (left : List Link) (told : List Notice)
    (outcome : Outcome α) : Prop where
  result : ∃ fault, outcome.1 = .error (.transport fault) ∧ fault.cause? = cause
  links : outcome.2.links = t.links ++ left
  closed : ∀ link ∈ left, link.isClosed = true
  sent : outcome.2.sent = t.sent
  now : outcome.2.now = t.now
  called : outcome.2.called = t.called
  agenda : outcome.2.agenda = t.agenda
  log : outcome.2.log = (t.note told).log

/-- Who cannot open a socket gives up the whole exchange. -/
theorem GivesUp.collect {cause : Option Cause} {left : List Link} {told : List Notice}
    (h : GivesUp t cause left told t.openSocket) (data : List UInt8) (mode : Mode)
    (limits : Limits) : GivesUp t cause left told (t.collect data mode limits) := by
  obtain ⟨fault, hfault, hcause⟩ := h.result
  rcases hopen : t.openSocket with ⟨result, opened⟩
  rw [hopen] at h hfault
  have hfault : result = .error (.transport fault) := hfault
  rw [Timeline.collect, hopen, hfault]
  exact { h with result := ⟨fault, rfl, hcause⟩ }

/-- A host without an address is given up before anything is made. -/
theorem givesUp_openSocket_of_unresolved {error : Option OsError}
    (h : t.openSocket = (.error (.transport (.unresolved t.socket.name.host error)), t)) :
    GivesUp t (error.map .resolver) [] [] t.openSocket := by
  rw [h]
  exact ⟨⟨_, rfl, rfl⟩, (List.append_nil _).symm, by simp, rfl, rfl, rfl, rfl,
    (List.append_nil _).symm⟩

/-! ## Opening -/

def openedTo (t : Timeline) (destination : Destination) (allowed : Bool) : Timeline :=
  ((t.aim destination allowed).attach (Network.openedLink destination.family allowed)).note
    [.connected t.socket.name, .opened t.socket.name
      ⟨destination.family, Network.ownAddress destination.family, Network.ownPort⟩ allowed]

theorem openTo_aim_of_openLink {allowed : Bool}
    (h : t.network.openLink destination.family allowed =
      .opened (Network.openedLink destination.family allowed)) :
    (t.aim destination allowed).openTo destination allowed =
      (.ok (), t.openedTo destination allowed) := by
  have hopening : (t.aim destination allowed).network.openLink destination.family allowed = _ := h
  rw [openTo, hopening]
  rfl

/-- What was made before the stage that failed is closed. -/
theorem openTo_aim_of_stage (hlink : t.socket.link = none) {allowed : Bool} {stage : Stage}
    {error : OsError} (h : t.network.openLink destination.family allowed =
      .failed error (stage.leaves destination.family allowed).head?) :
    GivesUp t (some (.system error)) (stage.leaves destination.family allowed) []
      ((t.aim destination allowed).openTo destination allowed) := by
  have hleft : (stage.leaves destination.family allowed).head?.toList =
      stage.leaves destination.family allowed := by
    cases stage <;> rfl
  rw [openTo_eq_of_failed (t := t.aim destination allowed) hlink h, hleft]
  exact ⟨⟨_, rfl, rfl⟩, rfl, fun _ => Stage.isClosed_of_mem_leaves, rfl, rfl, rfl, rfl,
    (List.append_nil _).symm⟩

/-! ## Closing -/

theorem note_note (t : Timeline) (notices others : List Notice) :
    (t.note notices).note others = t.note (notices ++ others) := by
  simp only [note, List.map_append, List.append_assoc]

theorem log_note_congr (hlog : u.log = t.log) (hnow : u.now = t.now) (hturn : u.turn = t.turn)
    (notices : List Notice) : (u.note notices).log = (t.note notices).log := by
  rw [note, note, hlog, hnow, hturn]

/-- To close a socket that is connected disconnects it, which is told, and gives its link back. -/
theorem close_of_isConnected (hlink : t.socket.link = some link)
    (hconnected : t.isConnected link = true) :
    t.close = (((t.disconnect link).release link).note
      [.connectionLost t.socket.name none]).use (t.socket.finish none).unlinked := by
  have hhangUp : (t.use t.socket.unlinked).hangUp link =
      ((t.disconnect link).note [.connectionLost t.socket.name none]).use
        (t.socket.unlinked.finish none) := by
    rw [hangUp, if_pos (show (t.use t.socket.unlinked).isConnected link = true from hconnected)]
    rfl
  have hended := Socket.hasEnded_finish t.socket.unlinked none
  rw [close_of_link hlink, dropLink,
    show { t.socket with link := none } = t.socket.unlinked from rfl, hhangUp]
  show use _ ((t.socket.unlinked.finish none).finish none) = _
  rw [Socket.finish_of_hasEnded hended, Socket.finish_unlinked]
  rfl

theorem log_close_of_isConnected (hlink : t.socket.link = some link)
    (hconnected : t.isConnected link = true) :
    t.close.log = (t.note [.connectionLost t.socket.name none]).log := by
  rw [close_of_isConnected hlink hconnected]
  exact log_note_congr (u := (t.disconnect link).release link) rfl rfl rfl _

theorem hangUp_frame (t : Timeline) (link : Nat) :
    ∃ links log socket, t.hangUp link = { t with links, log, socket } := by
  rw [hangUp]
  split
  · exact ⟨(t.disconnect link).links, (t.handle (.loss none)).log, (t.handle (.loss none)).socket,
      rfl⟩
  · exact ⟨t.links, t.log, t.socket, rfl⟩

/-- Closing touches the links, the log and the socket, and nothing else. -/
theorem close_frame (t : Timeline) :
    ∃ links log socket, t.close = { t with links, log, socket } := by
  cases hlink : t.socket.link with
  | none =>
    rw [close_of_no_link hlink]
    exact ⟨t.links, t.log, _, rfl⟩
  | some link =>
    obtain ⟨links, log, socket, hframe⟩ := hangUp_frame (t.use t.socket.unlinked) link
    rw [close_of_link hlink, dropLink,
      show { t.socket with link := none } = t.socket.unlinked from rfl, hframe]
    exact ⟨_, log, _, rfl⟩

theorem modify_concat {α : Type} (items : List α) (last : α) (change : α → α) :
    (items ++ [last]).modify items.length change = items ++ [change last] := by
  induction items with
  | nil => rfl
  | cons item rest ih => exact congrArg (item :: ·) ih

theorem isConnected_concat {link : Link} (h : u.links = t.links ++ [link])
    (hconnected : link.isConnected = true) : u.isConnected t.links.length = true := by
  rw [isConnected, h, List.getElem?_concat_length, Option.map_some, hconnected]
  rfl

/-! ## The whole way -/

section Way

variable {data : List UInt8} {mode : Mode} {limits : Limits} {allowed : Bool}

theorem send_openedTo (t : Timeline) (destination : Destination) (allowed : Bool)
    (data : List UInt8) :
    (t.openedTo destination allowed).send data =
      match t.network.sendError with
      | some error => (.error (.transport (.sendFailed t.socket.name error)),
          (t.openedTo destination allowed).note [.sending t.socket.name destination data])
      | none => (.ok (), ((t.openedTo destination allowed).note
          [.sending t.socket.name destination data]).dispatch t.links.length destination data) :=
  rfl

theorem isConnected_openedTo (t : Timeline) (destination : Destination) (allowed : Bool)
    (notices : List Notice) :
    ((t.openedTo destination allowed).note notices).isConnected t.links.length = true :=
  isConnected_concat (u := (t.openedTo destination allowed).note notices) rfl rfl

/-- A socket over which the question could not be sent is closed again. -/
theorem givesUp_close_openedTo (t : Timeline) (destination : Destination) (allowed : Bool)
    (data : List UInt8) (error : OsError) :
    GivesUp (α := α) t (some (.system error)) (Stage.send.leaves destination.family allowed)
      (Stage.send.tells t.socket.name destination allowed data)
      (.error (.transport (.sendFailed t.socket.name error)),
        ((t.openedTo destination allowed).note
          [.sending t.socket.name destination data]).close) := by
  have hconnected := isConnected_openedTo t destination allowed
    [.sending t.socket.name destination data]
  obtain ⟨links, log, socket, hframe⟩ := close_frame
    ((t.openedTo destination allowed).note [.sending t.socket.name destination data])
  refine ⟨⟨_, rfl, rfl⟩, ?_, fun _ => Stage.isClosed_of_mem_leaves, by rw [hframe]; rfl,
    by rw [hframe]; rfl, by rw [hframe]; rfl, by rw [hframe]; rfl, ?_⟩
  · rw [close_of_isConnected rfl hconnected]
    show ((t.links ++ [_]).modify t.links.length _).modify t.links.length _ = _
    rw [modify_concat, modify_concat]
    rfl
  · show (close _).log = _
    rw [log_close_of_isConnected rfl hconnected, openedTo, note_note, note_note]
    exact log_note_congr rfl rfl rfl _

/-- What comes of the answers that were taken. -/
def outcomeOf (gathered : Collected) : Outcome (List Datagram) :=
  match gathered.failure with
  | some failure => (.error failure, gathered.timeline.close)
  | none => (.ok gathered.datagrams, gathered.timeline.close)

/-- The timeline after a question has got out. -/
def asked (t : Timeline) (destination : Destination) (allowed : Bool) (data : List UInt8) :
    Timeline :=
  ((t.openedTo destination allowed).note [.sending t.socket.name destination data]).dispatch
    t.links.length destination data

theorem openSocket_of_allows {family : Family} {host : String} {others : List (Family × String)}
    (hresolve : t.network.resolve t.socket.name.host = .ok ((family, host) :: others))
    (hallows : t.network.allows t.socket.broadcast ⟨family, host, t.socket.name.port⟩ =
      .ok allowed) :
    t.openSocket = (t.aim ⟨family, host, t.socket.name.port⟩ allowed).openTo
      ⟨family, host, t.socket.name.port⟩ allowed := by
  rw [openSocket_of_resolve hresolve, hallows]

/-- The first stage that fails keeps the question from getting out. -/
theorem collect_of_obstacle (hlink : t.socket.link = none)
    (hopen : t.openSocket = (t.aim destination allowed).openTo destination allowed) {stage : Stage}
    {error : OsError} (hobstacle : t.network.obstacle? allowed = some (stage, error)) :
    GivesUp t (some (.system error)) (stage.leaves destination.family allowed)
      (stage.tells t.socket.name destination allowed data) (t.collect data mode limits) := by
  have hopening := t.network.openLink_eq destination.family allowed
  rw [hobstacle] at hopening
  by_cases hstage : stage = .send
  · subst hstage
    have hopened := hopen.trans (openTo_aim_of_openLink hopening)
    rw [collect, hopened]
    dsimp only
    rw [ask, send_openedTo, Network.sendError_of_obstacle hobstacle]
    exact givesUp_close_openedTo t destination allowed data error
  · have hfailed : t.network.openLink destination.family allowed =
        .failed error (stage.leaves destination.family allowed).head? := by
      rw [hopening]
      cases stage <;> first | rfl | exact absurd rfl hstage
    have htells : stage.tells t.socket.name destination allowed data = [] := by
      cases stage <;> first | rfl | exact absurd rfl hstage
    have hgives := openTo_aim_of_stage hlink hfailed
    rw [← hopen] at hgives
    rw [htells]
    exact hgives.collect data mode limits

/-- If no stage fails the question is out, and its answers are gathered. -/
theorem collect_of_no_obstacle
    (hopen : t.openSocket = (t.aim destination allowed).openTo destination allowed)
    (hobstacle : t.network.obstacle? allowed = none) :
    t.collect data mode limits =
      outcomeOf ((t.asked destination allowed data).gather mode limits) := by
  have hopening := t.network.openLink_eq destination.family allowed
  rw [hobstacle] at hopening
  have hopened := hopen.trans (openTo_aim_of_openLink hopening)
  rw [collect, hopened]
  dsimp only
  rw [ask, send_openedTo, Network.sendError_of_no_obstacle hobstacle]
  dsimp only
  rw [outcomeOf, asked]
  generalize Timeline.gather _ mode limits = gathered
  rcases gathered with ⟨datagrams, _ | failure, after⟩ <;> rfl

end Way

end Timeline

end SqlResolution
