import SqlResolution.Proofs.Browse.Session

/-!
# What a browse owns

Entering is the only step that creates a link, and it does so at most once, because it leaves
idle whatever comes of it, and nothing leads back there. So a browse has an allowance of one
link as long as it is idle, and none afterwards; links and allowance together never grow.

Whether the browse holds a socket can be told from its state. If it does, its one link is open;
if it does not, there is no link or it is closed.
-/

namespace SqlResolution

namespace Browse

variable {browse rest after : Browse} {P : Datagram → Prop}

/-- How many links were created. -/
def linkCount (browse : Browse) : Nat :=
  browse.timeline.links.length

/-- How many links may still be created. -/
def allowance (browse : Browse) : Nat :=
  if browse.state = .idle then 1 else 0

/-- A link that is created is taken from the allowance, and none is lost. -/
structure Spends (browse after : Browse) : Prop where
  kept : browse.linkCount ≤ after.linkCount
  spent : after.linkCount + after.allowance ≤ browse.linkCount + browse.allowance

theorem Spends.refl (browse : Browse) : Spends browse browse :=
  ⟨Nat.le_refl _, Nat.le_refl _⟩

theorem Spends.trans (h : Spends browse rest) (h' : Spends rest after) : Spends browse after :=
  ⟨Nat.le_trans h.kept h'.kept, Nat.le_trans h'.spent h.spent⟩

/-- Once idle is left, no link is created any more. -/
theorem Spends.linkCount_eq (h : Spends browse after) (hstate : browse.state ≠ .idle) :
    after.linkCount = browse.linkCount := by
  have hnone : browse.allowance = 0 := if_neg hstate
  have hspent := h.spent
  have hkept := h.kept
  omega

/-! ## Counting links -/

theorem length_closedLinks (t : Timeline) : t.closedLinks.length = t.links.length :=
  List.length_map _

theorem length_links_of_later {t u : Timeline} (h : Timeline.Later t u) :
    u.links.length = t.links.length := by
  rw [← length_closedLinks, h.closedLinks, length_closedLinks]

theorem length_links_close (t : Timeline) : t.close.links.length = t.links.length := by
  cases hlink : t.socket.link with
  | none => rw [Timeline.close_of_no_link hlink]; rfl
  | some link =>
    rw [Timeline.close_of_link hlink]
    show (t.dropLink link).links.length = _
    rw [← length_closedLinks, Timeline.closedLinks_dropLink, List.length_set, length_closedLinks]

theorem linkCount_releaseSocket (browse : Browse) :
    browse.releaseSocket.linkCount = browse.linkCount := by
  rw [linkCount, timeline_releaseSocket]
  split
  · exact length_links_close _
  · rfl

theorem spends_of_linkCount_eq (hcount : after.linkCount = browse.linkCount)
    (hstate : after.state = browse.state ∨ after.state ≠ .idle) : Spends browse after := by
  refine ⟨Nat.le_of_eq hcount.symm, ?_⟩
  rw [hcount]
  refine Nat.add_le_add_left ?_ _
  rw [allowance, allowance]
  rcases hstate with hsame | hleft
  · rw [hsame]
  · rw [if_neg hleft]
    exact Nat.zero_le _

theorem Rests.spends (h : Rests browse after) : Spends browse after :=
  spends_of_linkCount_eq (length_links_of_later h.moves.later) (.inl h.state)

theorem spends_close (browse : Browse) : Spends browse browse.close := by
  have hreleased : Spends browse browse.releaseSocket :=
    spends_of_linkCount_eq (linkCount_releaseSocket browse) (.inl (state_releaseSocket browse))
  unfold close
  dsimp only
  split
  · exact hreleased
  · exact hreleased.trans (spends_of_linkCount_eq rfl (.inr State.noConfusion))

theorem spends_abandon (browse : Browse) : Spends browse browse.abandon := by
  have hfailed : Spends browse (browse.setState .failed) :=
    spends_of_linkCount_eq rfl (.inr State.noConfusion)
  exact hfailed.trans (spends_close _)

theorem spends_conclude (browse : Browse) : Spends browse browse.conclude := by
  have hnoted : Spends browse
      (browse.note [.browseEnded browse.text browse.datagrams browse.yielded]) :=
    spends_of_linkCount_eq rfl (.inl rfl)
  exact hnoted.trans (spends_close _)

theorem Ends.spends {failure : Option Failure} (h : Ends browse failure after) :
    Spends browse after := by
  cases h with
  | completed rest hrests => exact hrests.spends.trans (spends_conclude rest)
  | failed rest fault hrests => exact hrests.spends.trans (spends_abandon rest)
  | stopped rest failure hrests hother => exact hrests.spends

theorem spends_begun (browse : Browse) : Spends browse browse.begun :=
  spends_of_linkCount_eq rfl (.inr State.noConfusion)

/-! ## Entering -/

/-- One link is created, or none. -/
structure AddsLink (t u : Timeline) : Prop where
  kept : t.links.length ≤ u.links.length
  atMostOne : u.links.length ≤ t.links.length + 1

theorem addsLink_openTo {t aimed : Timeline} (h : aimed.links = t.links)
    (destination : Destination) (broadcast : Bool) :
    AddsLink t (aimed.openTo destination broadcast).2 := by
  rw [Timeline.openTo]
  split
  next error closed hopening =>
    have hcount :
        (Timeline.close { aimed with links := aimed.links ++ closed.toList }).links.length =
          t.links.length + closed.toList.length := by
      rw [length_links_close, h, List.length_append]
    have hclosed : closed.toList.length ≤ 1 := by cases closed <;> simp
    constructor
    · dsimp only
      omega
    · dsimp only
      omega
  next link hopening =>
    have hlinks : (aimed.links ++ [link]).length = t.links.length + 1 := by
      rw [h, List.length_append, List.length_singleton]
    exact ⟨hlinks ▸ Nat.le_succ _, Nat.le_of_eq hlinks⟩

theorem addsLink_openSocket (t : Timeline) : AddsLink t t.openSocket.2 := by
  have hsame : ∀ socket, AddsLink t (t.use socket) := fun _ => ⟨Nat.le_refl _, Nat.le_succ _⟩
  rw [Timeline.openSocket]
  dsimp only
  split
  · exact hsame t.socket
  · exact hsame t.socket
  · split
    · exact hsame _
    · refine addsLink_openTo ?_ _ _
      rfl

theorem links_send (t : Timeline) (data : List UInt8) : (t.send data).2.links = t.links := by
  rw [Timeline.send]
  split
  · dsimp only
    split <;> rfl
  · rfl

theorem addsLink_question (t : Timeline) (data : List UInt8) :
    AddsLink t (t.question data).2 := by
  have hopen := addsLink_openSocket t
  rw [Timeline.question]
  split
  next failure u heq =>
    rw [heq] at hopen
    exact hopen
  next u heq =>
    rw [heq] at hopen
    exact ⟨links_send u data ▸ hopen.kept, links_send u data ▸ hopen.atMostOne⟩

/-- The allowance is spent by entering, even if no link comes of it. -/
theorem spends_enter (browse : Browse) : Spends browse browse.enter.2 := by
  by_cases hidle : browse.state = .idle
  · obtain ⟨hkept, hmore⟩ := addsLink_question
      (browse.timeline.use (.new browse.name none Protocol.maxQueueSize)) [Protocol.enumerateOpcode]
    rw [enter, if_neg (not_not_intro hidle)]
    dsimp only
    generalize (Timeline.question _ _).1 = result
    generalize (Timeline.question _ _).2 = timeline at hkept hmore
    have hsent : Spends browse
        ({ browse with holdsSocket := true, timeline }.setState .requestSent) := by
      refine ⟨hkept, ?_⟩
      have hallowance : browse.allowance = 1 := if_pos hidle
      rw [hallowance]
      exact hmore
    cases result with
    | ok => exact hsent
    | error failure =>
      have hfailed : Spends browse
          ({ browse with holdsSocket := true, timeline }.setState .failed) :=
        ⟨hsent.kept, hsent.spent⟩
      exact hfailed.trans (spends_close _)
  · rw [enter_of_ne_idle hidle]
    exact .refl browse

/-! ## What goes with the state -/

/-- At most one link was created; a browse has a socket in hand between its question and its end,
and only then; and the link is open as long as it has. -/
structure Owns (browse : Browse) : Prop where
  length_links_le : browse.timeline.links.length ≤ 1
  holdsSocket_iff : browse.holdsSocket = true ↔
    browse.state = .requestSent ∨ browse.state = .collecting
  isOpen : browse.holdsSocket = true → browse.timeline.IsOpen
  isClosed : browse.holdsSocket = false → ∀ link ∈ browse.timeline.links, link.isClosed = true

theorem Fits.holdsSocket_iff (h : browse.Fits) :
    browse.holdsSocket = true ↔ browse.state = .requestSent ∨ browse.state = .collecting := by
  rw [Fits] at h
  cases hstate : browse.state <;> rw [hstate] at h
  case awaitingOne => exact h.elim
  case timedOut => exact h.elim
  all_goals simp [h.1]

theorem Fits.isOpen (h : browse.Fits) (hholds : browse.holdsSocket = true) :
    browse.timeline.IsOpen := by
  have hiff := h.holdsSocket_iff
  rw [Fits] at h
  rcases hiff.1 hholds with hstate | hstate <;> rw [hstate] at h
  · exact h.2.2
  · exact h.2.2

theorem holdsSocket_close (browse : Browse) : browse.close.holdsSocket = false := by
  unfold close
  dsimp only
  split
  · exact holdsSocket_releaseSocket browse
  · exact holdsSocket_releaseSocket browse

theorem IsSound.owns (h : browse.IsSound P) (hcount : browse.linkCount ≤ 1) : browse.Owns where
  length_links_le := hcount
  holdsSocket_iff := h.fits.holdsSocket_iff
  isOpen := h.fits.isOpen
  isClosed hholds := h.timeline.isClosed (h.fits.isReleased hholds).link

end Browse

namespace Session

open Browse (Spends)

variable {session : Session}

theorem spends_act (session : Session) (step : Browse.Step) :
    Spends session.browse (session.act step).2.browse := by
  generalize (session.act step).2.browse = after, session.changes_act step = hchanges
  cases hchanges with
  | entered => exact Browse.spends_enter _
  | closed => exact Browse.spends_close _
  | rested h => exact h.spends
  | ended h => exact h.spends
  | begun hready h => exact (Browse.spends_begun _).trans h.spends
  | begunEnded hready h => exact (Browse.spends_begun _).trans h.spends

theorem spends_run (session : Session) (steps : List Browse.Step) :
    Spends session.browse (session.run steps).browse := by
  induction steps generalizing session with
  | nil => exact .refl _
  | cons step later ih => exact (session.spends_act step).trans (ih (session.act step).2)

/-- Whatever is done with a browse, and whatever the network does: it never has more than one link,
which is open exactly as long as the state says that the browse holds a socket; once it is no longer
idle no step creates a link; and after it is closed nothing is open. -/
theorem owns_run (network : Network) (name : SocketName) (limits : Limits)
    (steps : List Browse.Step) :
    let session := (start network name limits).run steps
    session.browse.Owns ∧
      (session.browse.state ≠ .idle → ∀ later,
        (session.run later).browse.timeline.links.length = session.browse.timeline.links.length) ∧
      (session.act .close).2.browse.holdsSocket = false ∧
      ∀ link ∈ (session.act .close).2.browse.timeline.links, link.isClosed = true := by
  intro session
  have hsound : session.IsSound fun _ => True :=
    (isSound_start (fun _ _ _ _ _ => trivial) name limits).run steps
  have hclosed := (hsound.act .close).browse
  have hcount : ∀ later, (session.run later).browse.linkCount ≤ 1 := by
    intro later
    have hstart : (start network name limits).browse.linkCount +
        (start network name limits).browse.allowance = 1 := rfl
    have hspent := (((start network name limits).spends_run steps).trans
      (session.spends_run later)).spent
    exact Nat.le_trans (Nat.le_add_right _ _) (hstart ▸ hspent)
  have howns := hclosed.owns (hcount [.close])
  have hholds := Browse.holdsSocket_close session.browse
  exact ⟨hsound.browse.owns (hcount []),
    fun hstate later => (session.spends_run later).linkCount_eq hstate, hholds,
    howns.isClosed hholds⟩

end Session

end SqlResolution
