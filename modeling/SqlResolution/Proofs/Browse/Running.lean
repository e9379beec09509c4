import SqlResolution.Proofs.Browse.Flattening
import SqlResolution.Proofs.Browse.Once
import SqlResolution.Proofs.Hanging
import SqlResolution.Proofs.Timeline.Listening

/-!
# A browse from its making to its end

A browse that is entered, iterated and closed whatever happens can be run wherever no other
exchange is going on, and afterwards none is. Whether its question gets out is decided by the
network; if it does, all that the browse hears is an answer to it, and what it hands out is what
those answers hold, as far as it took them, in the order in which they came.
-/

namespace SqlResolution

/-- The datagram is what a host answers to whoever asks under that name. -/
def Network.Answers (network : Network) (name : SocketName) (datagram : Datagram) : Prop :=
  ∃ destination, network.reach name none = .ok destination ∧
    ∃ reply ∈ network.repliesOf destination.host,
      reply.answer.event destination.peer = .datagram datagram

namespace Timeline

variable {t : Timeline}

/-- No exchange is going on: nothing is connected, and every socket that there was is closed. -/
structure IsAtRest (t : Timeline) : Prop where
  sound : t.IsSound fun _ => True
  link : t.socket.link = none
  attends : t.Attends fun _ => False

theorem isAtRest_new (network : Network) : (Timeline.new network).IsAtRest where
  sound := isSound_new fun _ _ _ _ _ => trivial
  link := rfl
  attends := attends_of_no_link rfl (fun _ => rfl) (List.forall_mem_nil _)

theorem IsAtRest.note (h : t.IsAtRest) (notices : List Notice) : (t.note notices).IsAtRest :=
  ⟨Browse.isSound_note h.sound notices, h.link, h.attends.note notices⟩

theorem IsAtRest.isClosed (h : t.IsAtRest) : ∀ link ∈ t.links, link.isClosed = true :=
  h.sound.isClosed h.link

/-- Where nothing is connected, a socket without a link may be told to attend to anything. -/
theorem IsAtRest.attends_use (h : t.IsAtRest) (P : Datagram → Prop) {socket : Socket}
    (hlink : socket.link = none) : (t.use socket).Attends P :=
  (h.attends.of_no_link h.link).use (hlink.trans h.link.symm)

end Timeline

namespace Browse

open Timeline (Listens Emits)

variable {browse after : Browse} {P : Datagram → Prop} {endsAt : Option Instant}
  {failure : Failure} {asked : Timeline}

/-! ## What is heard on the way -/

theorem listens_setState (browse : Browse) (state : State) :
    Listens P browse.timeline (browse.setState state).timeline where
  network := rfl
  sent := rfl
  links := rfl
  now := Int.le_refl _
  attends := fun ht => ht.note _
  hears := fun _ => ⟨[], by
    rw [List.append_nil]
    show (browse.timeline.note [.stateChanged browse.text state]).accepted = _
    rw [Timeline.accepted_note]
    rfl, by simp⟩

theorem listens_releaseSocket (browse : Browse) :
    Listens P browse.timeline browse.releaseSocket.timeline := by
  rw [timeline_releaseSocket]
  split
  · exact Timeline.listens_close _
  · exact .refl _

theorem listens_close (browse : Browse) : Listens P browse.timeline browse.close.timeline := by
  unfold close
  dsimp only
  split
  · exact listens_releaseSocket browse
  · exact (listens_releaseSocket browse).trans (listens_setState _ _)

theorem listens_abandon (browse : Browse) : Listens P browse.timeline browse.abandon.timeline :=
  (listens_setState browse .failed).trans (listens_close _)

theorem listens_conclude (browse : Browse) : Listens P browse.timeline browse.conclude.timeline :=
  (Timeline.listens_note (by simp [Notice.newState?]) (by simp [Notice.IsSilent, Notice.tally])
    browse.timeline).trans (listens_close (browse.note _))

theorem listens_begun (browse : Browse) : Listens P browse.timeline browse.begun.timeline :=
  listens_setState { browse with isIterated := true } .collecting

theorem listens_readAnswer (browse : Browse) (answer : Datagram) :
    Listens P browse.timeline (browse.readAnswer answer).2.timeline := by
  have hstates : ∀ notice ∈ (Response.read answer.peer.host answer.data).1,
      notice.newState? = none := fun _ => newState?_of_mem_read
  have hsilent : ∀ notice ∈ (Response.read answer.peer.host answer.data).1, notice.IsSilent :=
    fun _ => isSilent_of_mem_read
  rw [readAnswer]
  dsimp only
  split
  · exact Timeline.listens_note hstates hsilent browse.timeline
  · refine Timeline.listens_note ?_ ?_ browse.timeline
    · exact List.forall_mem_append.2 ⟨hstates, by simp [Notice.newState?]⟩
    · exact List.forall_mem_append.2 ⟨hsilent, by simp [Notice.IsSilent, Notice.tally]⟩
  · exact Timeline.listens_note hstates hsilent browse.timeline

theorem listens_advance (browse : Browse) (endsAt : Option Instant) :
    Listens P browse.timeline (browse.advance endsAt).2.timeline := by
  have hnext := Timeline.listens_awaitNext (P := P) browse.timeline browse.limits endsAt
  rw [advance]
  dsimp only
  split
  · exact hnext.trans (listens_abandon { browse with timeline := _ })
  · exact hnext
  · exact hnext.trans (listens_conclude { browse with timeline := _ })
  · exact hnext.trans (listens_readAnswer { browse with timeline := _ } _)

theorem listens_of_advance {result : Except Failure (Option (List Instance))}
    (h : browse.advance endsAt = (result, after)) :
    Listens P browse.timeline after.timeline := by
  have hlistens := listens_advance (P := P) browse endsAt
  rwa [h] at hlistens

theorem listens_drain (browse : Browse) (endsAt : Option Instant) :
    Listens P browse.timeline (browse.drain endsAt).browse.timeline := by
  fun_induction drain endsAt browse with
  | case1 browse failure after hadvance => exact listens_of_advance hadvance
  | case2 browse after hadvance => exact listens_of_advance hadvance
  | case3 browse instances after hadvance hpending rest ih =>
    exact (listens_of_advance hadvance).trans ih

theorem listens_iterate (browse : Browse) :
    Listens P browse.timeline browse.iterate.browse.timeline := by
  rw [iterate]
  rcases begin_cases browse with ⟨fault, hbegin⟩ | ⟨hready, hbegin⟩
  · rw [hbegin]
    exact .refl _
  · rw [hbegin]
    cases hend : browse.begun.timeline.endOf browse.limits.total with
    | error failure => exact listens_begun browse
    | ok endsAt => exact (listens_begun browse).trans (listens_drain browse.begun endsAt)

/-! ## Asking -/

/-- The browse with its socket, that has not asked yet. -/
def socketed (browse : Browse) : Browse :=
  { browse with timeline := browse.timeline.use (.new browse.name none Protocol.maxQueueSize) }

/-- What becomes of the question of a browse. -/
def asking (browse : Browse) : Outcome Unit :=
  browse.socketed.timeline.question [Protocol.enumerateOpcode]

theorem puts_asking (browse : Browse) :
    Timeline.Puts browse.socketed.timeline [Protocol.enumerateOpcode] browse.asking :=
  Timeline.puts_question rfl _

theorem fst_asking (browse : Browse) :
    browse.asking.1 = (browse.timeline.network.reach browse.name none).map fun _ => () :=
  (puts_asking browse).result

/-- What the browse puts on the wire. -/
def question (browse : Browse) : List Sent :=
  match browse.timeline.network.reach browse.name none with
  | .ok destination =>
    [⟨destination.host, destination.port, [Protocol.enumerateOpcode], browse.timeline.now⟩]
  | .error _ => []

/-! ## The whole run -/

theorem run_of_asking_error (hidle : browse.state = .idle)
    (h : browse.asking = (.error failure, asked)) :
    browse.run =
      ⟨[], some failure, { browse with holdsSocket := true, timeline := asked }.abandon⟩ := by
  rw [run, enter_of_error hidle h]

theorem run_of_asking_ok (hidle : browse.state = .idle) (h : browse.asking = (.ok (), asked)) :
    browse.run =
      { (browse.questioned asked).iterate with
        browse := (browse.questioned asked).iterate.browse.close } := by
  rw [run, enter_of_ok hidle h]

/-- Where the name leads nowhere, nothing is found. -/
theorem run_of_refused (hidle : browse.state = .idle)
    (h : browse.timeline.network.reach browse.name none = .error failure) :
    browse.run.instances = [] ∧ browse.run.failure = some failure := by
  have hasked : browse.asking = (.error failure, browse.asking.2) := by
    refine Prod.ext ?_ rfl
    rw [fst_asking, h]
    rfl
  rw [run_of_asking_error hidle hasked]
  exact ⟨rfl, rfl⟩

theorem listens_run (hidle : browse.state = .idle) :
    Listens P browse.asking.2 browse.run.browse.timeline := by
  rcases hasked : browse.asking with ⟨failure | _, asked⟩
  · rw [run_of_asking_error hidle hasked]
    exact listens_abandon { browse with holdsSocket := true, timeline := asked }
  · rw [run_of_asking_ok hidle hasked]
    have hsent : Listens P asked (browse.questioned asked).timeline :=
      listens_setState { browse with holdsSocket := true, timeline := asked } .requestSent
    exact (hsent.trans (listens_iterate _)).trans (listens_close _)

/-- All that is handed out is in the answers that come in on the new socket. -/
theorem takes_run (hidle : browse.state = .idle) :
    ∃ taken, Takes taken browse.run.instances browse.socketed browse.run.browse ∧
      taken.flatMap Datagram.instances = browse.run.instances := by
  have hentered : Takes [] [] browse.socketed browse.enter.2 := takes_enter_of_idle hidle
  rcases hasked : browse.asking with ⟨failure | _, asked⟩
  · rw [enter_of_error hidle hasked] at hentered
    rw [run_of_asking_error hidle hasked]
    exact ⟨[], hentered, rfl⟩
  · rw [enter_of_ok hidle hasked] at hentered
    rw [run_of_asking_ok hidle hasked]
    obtain ⟨taken, htakes, hinstances⟩ := takes_iterate (browse.questioned asked)
    have hclosed := (hentered.trans htakes).trans (takes_close _)
    rw [List.append_nil, List.append_nil] at hclosed
    exact ⟨taken, hclosed, hinstances⟩

theorem IsSound.isReady_questioned (hsound : browse.IsSound P) (hidle : browse.state = .idle)
    (h : browse.asking = (.ok (), asked)) :
    (browse.questioned asked).IsSound P ∧ (browse.questioned asked).IsReady := by
  have hentered := hsound.enter
  rw [enter_of_ok hidle h] at hentered
  exact ⟨hentered, hentered.isReady rfl⟩

/-- A browse that was run has ended, and it is as sound as it was. -/
theorem IsSound.run (hsound : browse.IsSound P) (hidle : browse.state = .idle) :
    browse.run.browse.IsSound P ∧ browse.run.browse.state.isTerminal = true := by
  rcases hasked : browse.asking with ⟨failure | _, asked⟩
  · have hentered := hsound.enter
    rw [enter_of_error hidle hasked] at hentered
    rw [run_of_asking_error hidle hasked]
    exact ⟨hentered, isTerminal_close _⟩
  · obtain ⟨hentered, hready⟩ := hsound.isReady_questioned hidle hasked
    rw [run_of_asking_ok hidle hasked]
    exact ⟨((hentered.begun hready).ends hready.ends_iterate).close, isTerminal_close _⟩

/-- If the question does not get out, that is the failure of the run; otherwise only an iteration
that has begun can fail. -/
theorem IsSound.mayFail_run (hsound : browse.IsSound P) (hidle : browse.state = .idle)
    (hvalid : browse.timeline.network.localNetworks.AreValid)
    (h : browse.run.failure = some failure) : MayFail failure := by
  have hreach := fst_asking browse
  rcases hasked : browse.asking with ⟨found | _, asked⟩
  · rw [run_of_asking_error hidle hasked] at h
    rw [hasked] at hreach
    cases h
    cases hreached : browse.timeline.network.reach browse.name none with
    | ok destination =>
      rw [hreached] at hreach
      cases hreach
    | error cause =>
      obtain ⟨fault, rfl⟩ := Network.exists_transport_of_reach hvalid hreached
      rw [hreached] at hreach
      cases hreach
      exact .transport fault
  · obtain ⟨hentered, hready⟩ := hsound.isReady_questioned hidle hasked
    rw [run_of_asking_ok hidle hasked] at h
    exact hready.mayFail_iterate hentered h

/-- To run the browse hangs. -/
def runHangs (browse : Browse) : Bool :=
  match browse.enter with
  | (.error _, _) => false
  | (.ok (), entered) => entered.iterateHangs

theorem runHangs_eq_false (h : browse.limits.WaitsEnd .many) : browse.runHangs = false := by
  rw [runHangs]
  split
  · rfl
  next entered hentered =>
    have hlimits : entered.limits = browse.limits := by
      have hasked := congrArg Prod.snd (asked_enter browse)
      rwa [hentered] at hasked
    exact iterateHangs_eq_false (hlimits ▸ h)

/-- The browse was made, entered, iterated and closed, and nothing of it is left. -/
structure Completes (browse : Browse) (browsed : Browsed) : Prop where
  network : browsed.browse.timeline.network = browse.timeline.network
  now : browse.timeline.now ≤ browsed.browse.timeline.now
  links : browsed.browse.timeline.links.length ≤ browse.timeline.links.length + 1
  sent : browsed.browse.timeline.sent = browse.timeline.sent ++ browse.question
  heard : ∃ arrived taken,
    browsed.browse.timeline.accepted = browse.timeline.accepted ++ arrived ∧
    (∀ answer ∈ arrived, browse.timeline.network.Answers browse.name answer) ∧
    taken <+: arrived ∧ browsed.instances = taken.flatMap Datagram.instances
  refused : ∀ failure, browse.timeline.network.reach browse.name none = .error failure →
    browsed.instances = [] ∧ browsed.failure = some failure
  mayFail : ∀ failure, browsed.failure = some failure → MayFail failure
  isTerminal : browsed.browse.state.isTerminal = true
  isClosed : ∀ link ∈ browsed.browse.timeline.links, link.isClosed = true
  ends : browse.limits.WaitsEnd .many → browse.runHangs = false

theorem isAtRest_run {t : Timeline} (hrest : t.IsAtRest) (name : SocketName) (limits : Limits) :
    (new t name limits).run.browse.timeline.IsAtRest := by
  have hsound : (new t name limits).IsSound fun _ => True :=
    isSound_new hrest.sound hrest.link name limits
  have hidle : (new t name limits).state = .idle := rfl
  obtain ⟨hafter, hterminal⟩ := hsound.run hidle
  have hreleased := hafter.fits.isReleased (hafter.released hterminal).1
  have hasked := (puts_asking (new t name limits)).attends (P := fun _ => True)
    (hrest.attends_use _ rfl) (fun _ _ _ _ _ _ => trivial)
  exact ⟨hafter.timeline, hreleased.link,
    ((listens_run hidle).attends hasked).of_no_link hreleased.link⟩

theorem completes_run {t : Timeline} (hrest : t.IsAtRest) (name : SocketName) (limits : Limits)
    (hvalid : t.network.localNetworks.AreValid) :
    (new t name limits).Completes (new t name limits).run := by
  have hsound : (new t name limits).IsSound fun _ => True :=
    isSound_new hrest.sound hrest.link name limits
  have hidle : (new t name limits).state = .idle := rfl
  obtain ⟨hafter, hterminal⟩ := hsound.run hidle
  have hputs := puts_asking (new t name limits)
  have hattends := hputs.attends (P := t.network.Answers name) (hrest.attends_use _ rfl)
    fun destination hreach reply hreply datagram hevent =>
      ⟨destination, hreach, reply, hreply, hevent⟩
  have hlistens := listens_run (P := t.network.Answers name) hidle
  refine
    { network := hlistens.network.trans hputs.network
      now := Int.le_trans (Int.le_of_eq hputs.now.symm) hlistens.now
      links := hlistens.links ▸ hputs.emits.links
      sent := hlistens.sent.trans hputs.emits.sent
      heard := ?_
      refused := fun _ => run_of_refused hidle
      mayFail := fun _ => hsound.mayFail_run hidle hvalid
      isTerminal := hterminal
      isClosed := (hafter.released hterminal).2
      ends := runHangs_eq_false }
  obtain ⟨taken, htakes, hinstances⟩ := takes_run hidle
  obtain ⟨arrived, hqueue, haccepted⟩ := htakes.flows
  obtain ⟨heard, hgrows, hanswers⟩ := hlistens.hears hattends
  rw [hputs.accepted] at hgrows
  obtain rfl := List.append_cancel_left (haccepted.symm.trans hgrows)
  exact ⟨arrived, taken, haccepted, hanswers, ⟨_, hqueue⟩, hinstances.symm⟩

end Browse

end SqlResolution
