import SqlResolution.Browse
import SqlResolution.Proofs.Exchange
import SqlResolution.Proofs.Response.Refusal

/-!
# What is true of a browse in each state

The state of a browse is written in several places, and so is all that goes with it: whether
it holds a socket, whether that socket has a link, whether an iteration has begun. What fits
what is said here once, state by state, and every step keeps it.

A step of an iteration either leaves the browse as it was but for time and answers, or it
ends the iteration, in one of three ways. The answers may be over; the transport may have
failed; or something stopped the iteration that is no business of the browse, and then the
browse is not ended at all.
-/

namespace SqlResolution

/-- The notice is about what a datagram holds. -/
def Notice.isOfContent : Notice → Bool
  | unnamedRecord .. | invalidPort .. | invalidVia .. => true
  | _ => false

/-- A cursor that still has somewhere to go. -/
def Cursor.isRunning : Cursor → Bool
  | .running .. => true
  | _ => false

namespace Browse

open Timeline (Moves)

variable {browse rest after : Browse} {P : Datagram → Prop}

/-- The same browse but for time, answers and counters. -/
structure Rests (browse after : Browse) : Prop where
  moves : Moves browse.timeline after.timeline
  name : after.name = browse.name
  limits : after.limits = browse.limits
  state : after.state = browse.state
  holdsSocket : after.holdsSocket = browse.holdsSocket
  isIterated : after.isIterated = browse.isIterated

theorem Rests.refl (browse : Browse) : Rests browse browse :=
  ⟨.refl _, rfl, rfl, rfl, rfl, rfl⟩

theorem Rests.trans (h : Rests browse rest) (h' : Rests rest after) : Rests browse after where
  moves := h.moves.trans h'.moves
  name := h'.name.trans h.name
  limits := h'.limits.trans h.limits
  state := h'.state.trans h.state
  holdsSocket := h'.holdsSocket.trans h.holdsSocket
  isIterated := h'.isIterated.trans h.isIterated

/-- How an iteration ends: with no failure, with one of the transport, or with another one. -/
inductive Ends (browse : Browse) : Option Failure → Browse → Prop
  | completed (rest : Browse) (h : Rests browse rest) : Ends browse none rest.conclude
  | failed (rest : Browse) (fault : TransportFault) (h : Rests browse rest) :
    Ends browse (some (.transport fault)) rest.abandon
  | stopped (rest : Browse) (failure : Failure) (h : Rests browse rest)
    (hother : ∀ fault, failure ≠ .transport fault) : Ends browse (some failure) rest

theorem Ends.of_rests {failure : Option Failure} (h : Rests browse rest)
    (hends : Ends rest failure after) : Ends browse failure after := by
  cases hends with
  | completed _ hlast => exact .completed _ (h.trans hlast)
  | failed _ fault hlast => exact .failed _ fault (h.trans hlast)
  | stopped _ failure hlast hother => exact .stopped _ failure (h.trans hlast) hother

/-! ## Answers -/

theorem isOfContent_of_mem_ofRecord {source : String} {record : Record} {notice : Notice}
    (h : notice ∈ (Instance.ofRecord source record).1) : notice.isOfContent = true := by
  rw [Instance.ofRecord] at h
  split at h
  · rw [List.mem_singleton.1 h]
    rfl
  · split at h
    · cases h
    · unfold Instance.nonsenseNotices at h
      rcases List.mem_append.1 h with htcp | hvia
      · obtain ⟨text, -, rfl⟩ := Option.map_eq_some_iff.1 (Option.mem_toList.1 htcp)
        rfl
      · obtain ⟨text, -, rfl⟩ := Option.map_eq_some_iff.1 (Option.mem_toList.1 hvia)
        rfl

theorem isOfContent_of_mem_ofRecords {source : String} {records : List Record} {notice : Notice}
    (h : notice ∈ (Instance.ofRecords source records).1) : notice.isOfContent = true := by
  induction records with
  | nil => cases h
  | cons record rest ih =>
    rw [Instance.ofRecords] at h
    split at h
    next hrecord =>
      refine @isOfContent_of_mem_ofRecord source record notice ?_
      rw [hrecord]
      exact h
    next hrecord =>
      rcases List.mem_append.1 h with hfirst | hlater
      · refine @isOfContent_of_mem_ofRecord source record notice ?_
        rw [hrecord]
        exact hfirst
      · exact ih hlater

/-- What is noticed while an answer is read is about what the answer holds. -/
theorem isOfContent_of_mem_read {source : String} {data : List UInt8} {notice : Notice}
    (h : notice ∈ (Response.read source data).1) : notice.isOfContent = true := by
  rw [Response.read] at h
  split at h
  · cases h
  · split at h
    · cases h
    · unfold Response.readText at h
      split at h
      · cases h
      · exact isOfContent_of_mem_ofRecords h

theorem newState?_of_mem_read {source : String} {data : List UInt8} {notice : Notice}
    (h : notice ∈ (Response.read source data).1) : notice.newState? = none := by
  have hcontent := isOfContent_of_mem_read h
  cases notice with
  | stateChanged => cases hcontent
  | _ => rfl

theorem rests_handOut (browse : Browse) (count : Nat) : Rests browse (browse.handOut count) :=
  ⟨.refl _, rfl, rfl, rfl, rfl, rfl⟩

theorem rests_readAnswer (browse : Browse) (answer : Datagram) :
    Rests browse (browse.readAnswer answer).2 := by
  rw [readAnswer]
  dsimp only
  split
  next instances hread =>
    have hnote := Timeline.Move.note browse.timeline _ fun _ =>
      @newState?_of_mem_read answer.peer.host answer.data _
    exact ⟨hnote.moves, rfl, rfl, rfl, rfl, rfl⟩
  next fault hread =>
    have hsilent : ∀ notice ∈ (Response.read answer.peer.host answer.data).1 ++
        [.malformedSkipped answer.peer fault], notice.newState? = none := by
      intro notice hnotice
      rcases List.mem_append.1 hnotice with hread | hskipped
      · exact newState?_of_mem_read hread
      · rw [List.mem_singleton.1 hskipped]
        rfl
    have hnote := Timeline.Move.note browse.timeline _ hsilent
    exact ⟨hnote.moves, rfl, rfl, rfl, rfl, rfl⟩
  next failure hread _ =>
    have hnote := Timeline.Move.note browse.timeline _ fun _ =>
      @newState?_of_mem_read answer.peer.host answer.data _
    exact ⟨hnote.moves, rfl, rfl, rfl, rfl, rfl⟩

theorem readAnswer_frame (browse : Browse) (answer : Datagram) :
    ∃ notices, (browse.readAnswer answer).2.timeline = browse.timeline.note notices ∧
      (browse.readAnswer answer).2.limits = browse.limits := by
  rw [readAnswer]
  dsimp only
  split <;> exact ⟨_, rfl, rfl⟩

/-- An answer can fail to be read in no way but one. -/
theorem readAnswer_error {answer : Datagram} {failure : Failure}
    (h : (browse.readAnswer answer).1 = .error failure) :
    ∃ fault, failure = .invalidValue fault := by
  rw [readAnswer] at h
  dsimp only at h
  split at h
  · cases h
  · cases h
  next failure hmalformed hread =>
    cases h
    rcases Response.read_error hread with ⟨fault, rfl⟩ | hinvalid
    · exact absurd rfl (hmalformed fault)
    · exact hinvalid

theorem rests_awaitNext (browse : Browse) (endsAt : Option Instant) :
    Rests browse { browse with
      timeline := (browse.timeline.awaitNext browse.limits endsAt).2 } :=
  ⟨Timeline.moves_awaitNext _ _ _, rfl, rfl, rfl, rfl, rfl⟩

/-- What taking an answer comes to, by its result. -/
def Advances (browse : Browse) :
    Except Failure (Option (List Instance)) → Browse → Prop
  | .error failure, after => Ends browse (some failure) after
  | .ok none, after => Ends browse none after
  | .ok (some _), after => Rests browse after

theorem advances (browse : Browse) (endsAt : Option Instant) :
    Advances browse (browse.advance endsAt).1 (browse.advance endsAt).2 := by
  have hrests := rests_awaitNext browse endsAt
  rw [advance]
  dsimp only
  generalize { browse with timeline := (browse.timeline.awaitNext browse.limits endsAt).2 } = rest
    at hrests
  split
  next fault _ => exact .failed rest fault hrests
  next failure hother _ =>
    exact .stopped rest failure hrests fun fault heq => hother fault (heq ▸ rfl)
  next => exact .completed rest hrests
  next answer _ =>
    have hread := hrests.trans (rests_readAnswer rest answer)
    cases hresult : (rest.readAnswer answer).1 with
    | error failure =>
      obtain ⟨fault, rfl⟩ := readAnswer_error hresult
      refine .stopped _ _ hread ?_
      intro other hother
      cases hother
    | ok instances => exact hread

theorem ends_drain (browse : Browse) (endsAt : Option Instant) :
    Ends browse (browse.drain endsAt).failure (browse.drain endsAt).browse := by
  fun_induction drain endsAt browse with
  | case1 browse failure after hadvance =>
    have h := advances browse endsAt
    rw [hadvance] at h
    exact h
  | case2 browse after hadvance =>
    have h := advances browse endsAt
    rw [hadvance] at h
    exact h
  | case3 browse instances after hadvance hpending later ih =>
    have h := advances browse endsAt
    rw [hadvance] at h
    exact ih.of_rests (h.trans (rests_handOut after _))

def failure? {α : Type} : Except Failure α → Option Failure
  | .error failure => some failure
  | .ok _ => none

theorem failure?_eq_some {α : Type} {result : Except Failure α} {failure : Failure} :
    failure? result = some failure ↔ result = .error failure := by
  cases result <;> simp [failure?]

/-- What a fetch comes to, by its result. -/
def Fetches (browse : Browse) :
    Except Failure (Option Instance) → Cursor → Browse → Prop
  | .error failure, cursor, after => Ends browse (some failure) after ∧ cursor = .done
  | .ok none, cursor, after => Ends browse none after ∧ cursor = .done
  | .ok (some _), cursor, after => Rests browse after ∧ cursor.isRunning = true

theorem Fetches.of_rests {result : Except Failure (Option Instance)} {cursor : Cursor}
    (h : Rests browse rest) (hfetches : Fetches rest result cursor after) :
    Fetches browse result cursor after := by
  match result, hfetches with
  | .error failure, hfetches => exact ⟨hfetches.1.of_rests h, hfetches.2⟩
  | .ok none, hfetches => exact ⟨hfetches.1.of_rests h, hfetches.2⟩
  | .ok (some _), hfetches => exact ⟨h.trans hfetches.1, hfetches.2⟩

theorem Fetches.ends_or_rests {result : Except Failure (Option Instance)} {cursor : Cursor}
    (h : Fetches browse result cursor after) :
    Ends browse (failure? result) after ∧ cursor = .done ∨
      Rests browse after ∧ cursor.isRunning = true := by
  match result, h with
  | .error failure, h => exact .inl h
  | .ok none, h => exact .inl h
  | .ok (some found), h => exact .inr h

theorem fetches (browse : Browse) (endsAt : Option Instant) :
    Fetches browse (browse.fetch endsAt).1 (browse.fetch endsAt).2.1
      (browse.fetch endsAt).2.2 := by
  fun_induction fetch endsAt browse with
  | case1 browse failure after hadvance =>
    have h := advances browse endsAt
    rw [hadvance] at h
    exact ⟨h, rfl⟩
  | case2 browse after hadvance =>
    have h := advances browse endsAt
    rw [hadvance] at h
    exact ⟨h, rfl⟩
  | case3 browse after hadvance hpending ih =>
    have h := advances browse endsAt
    rw [hadvance] at h
    exact ih.of_rests h
  | case4 browse found later after hadvance =>
    have h := advances browse endsAt
    rw [hadvance] at h
    exact ⟨h.trans (rests_handOut after 1), rfl⟩

/-! ## What was asked for -/

/-- The host and the times that a browse was made for. -/
def asked (browse : Browse) : SocketName × Limits :=
  (browse.name, browse.limits)

theorem Rests.asked (h : Rests browse after) : after.asked = browse.asked :=
  Prod.ext h.name h.limits

theorem asked_releaseSocket (browse : Browse) : browse.releaseSocket.asked = browse.asked := by
  rw [releaseSocket]
  split <;> rfl

theorem asked_close (browse : Browse) : browse.close.asked = browse.asked := by
  unfold close
  dsimp only
  split
  · exact asked_releaseSocket browse
  · exact asked_releaseSocket browse

theorem asked_abandon (browse : Browse) : browse.abandon.asked = browse.asked :=
  asked_close (browse.setState .failed)

theorem asked_conclude (browse : Browse) : browse.conclude.asked = browse.asked :=
  asked_close (browse.note _)

theorem Ends.asked {failure : Option Failure} (h : Ends browse failure after) :
    after.asked = browse.asked := by
  cases h with
  | completed rest hrests => exact (asked_conclude rest).trans hrests.asked
  | failed rest fault hrests => exact (asked_abandon rest).trans hrests.asked
  | stopped rest failure hrests hother => exact hrests.asked

theorem asked_enter (browse : Browse) : browse.enter.2.asked = browse.asked := by
  rw [enter]
  split
  · rfl
  · dsimp only
    split
    · exact asked_abandon _
    · rfl

/-! ## States -/

/-- What goes with the state of a browse. -/
def Fits (browse : Browse) : Prop :=
  match browse.state with
  | .idle =>
    browse.holdsSocket = false ∧ browse.isIterated = false ∧ browse.timeline.socket.link = none
  | .requestSent =>
    browse.holdsSocket = true ∧ browse.isIterated = false ∧ browse.timeline.IsOpen
  | .collecting =>
    browse.holdsSocket = true ∧ browse.isIterated = true ∧ browse.timeline.IsOpen
  | .completed | .failed =>
    browse.holdsSocket = false ∧ browse.timeline.socket.link = none ∧
      (browse.isIterated = true → browse.timeline.socket.hasEnded = true)
  | .awaitingOne | .timedOut => False

/-- What goes with the state is as it should be, and so is the timeline. -/
structure IsSound (P : Datagram → Prop) (browse : Browse) : Prop where
  timeline : browse.timeline.IsSound P
  fits : browse.Fits

theorem isSound_new {t : Timeline} (h : t.IsSound P) (hlink : t.socket.link = none)
    (name : SocketName) (limits : Limits) : (new t name limits).IsSound P :=
  ⟨h, rfl, rfl, hlink⟩

theorem hasEnded_of_moves {t u : Timeline} (h : Moves t u) (hended : t.socket.hasEnded = true) :
    u.socket.hasEnded = true := by
  rw [Socket.hasEnded] at hended ⊢
  cases hstream : t.socket.stream with
  | flowing => simp [hstream] at hended
  | ended error => simp [h.ended hstream]

theorem Rests.fits (h : Rests browse after) (hfits : browse.Fits) : after.Fits := by
  have hlater := h.moves.later
  rw [Fits] at hfits ⊢
  rw [h.state, h.holdsSocket, h.isIterated, hlater.link]
  cases hstate : browse.state <;> rw [hstate] at hfits
  case idle => exact hfits
  case requestSent => exact ⟨hfits.1, hfits.2.1, hfits.2.2.of_later hlater⟩
  case collecting => exact ⟨hfits.1, hfits.2.1, hfits.2.2.of_later hlater⟩
  case awaitingOne => exact hfits
  case completed =>
    exact ⟨hfits.1, hfits.2.1, fun hit => hasEnded_of_moves h.moves (hfits.2.2 hit)⟩
  case timedOut => exact hfits
  case failed =>
    exact ⟨hfits.1, hfits.2.1, fun hit => hasEnded_of_moves h.moves (hfits.2.2 hit)⟩

theorem IsSound.rests (hsound : browse.IsSound P) (h : Rests browse after) : after.IsSound P :=
  ⟨hsound.timeline.moves h.moves, h.fits hsound.fits⟩

/-! ## Closing -/

theorem timeline_releaseSocket (browse : Browse) :
    browse.releaseSocket.timeline =
      if browse.holdsSocket then browse.timeline.close else browse.timeline := by
  rw [releaseSocket]
  split <;> rfl

@[simp] theorem holdsSocket_releaseSocket (browse : Browse) :
    browse.releaseSocket.holdsSocket = false := by
  rw [releaseSocket]
  split
  · rfl
  next hholds => simpa using hholds

@[simp] theorem state_releaseSocket (browse : Browse) :
    browse.releaseSocket.state = browse.state := by
  rw [releaseSocket]
  split <;> rfl

@[simp] theorem isIterated_releaseSocket (browse : Browse) :
    browse.releaseSocket.isIterated = browse.isIterated := by
  rw [releaseSocket]
  split <;> rfl

@[simp] theorem states_releaseSocket (browse : Browse) :
    browse.releaseSocket.timeline.states = browse.timeline.states := by
  rw [timeline_releaseSocket]
  split
  · exact Timeline.states_close _
  · rfl

theorem isIterated_close (browse : Browse) : browse.close.isIterated = browse.isIterated := by
  unfold close
  dsimp only
  split
  · exact isIterated_releaseSocket browse
  · exact isIterated_releaseSocket browse

theorem state_close (browse : Browse) :
    browse.close.state = if browse.state.isTerminal then browse.state else .completed := by
  unfold close
  dsimp only
  rw [state_releaseSocket]
  split
  · exact state_releaseSocket browse
  · rfl

theorem states_setState (browse : Browse) (state : State) :
    (browse.setState state).timeline.states = browse.timeline.states ++ [state] :=
  Timeline.states_note _ _

theorem isSound_note {t : Timeline} (h : t.IsSound P) (notices : List Notice) :
    (t.note notices).IsSound P :=
  ⟨h.replies, h.queued, h.called, h.agenda, h.uncancelled, h.tidy⟩

/-- Without a socket in hand there is no link, and no stream that an iteration could still wait
for. -/
structure IsReleased (browse : Browse) : Prop where
  link : browse.timeline.socket.link = none
  ended : browse.isIterated = true → browse.timeline.socket.hasEnded = true

theorem Fits.isReleased (hfits : browse.Fits) (hholds : browse.holdsSocket = false) :
    browse.IsReleased := by
  rw [Fits] at hfits
  cases hstate : browse.state <;> rw [hstate] at hfits
  case idle => exact ⟨hfits.2.2, fun hit => by rw [hfits.2.1] at hit; cases hit⟩
  case requestSent => rw [hholds] at hfits; cases hfits.1
  case collecting => rw [hholds] at hfits; cases hfits.1
  case completed => exact ⟨hfits.2.1, hfits.2.2⟩
  case failed => exact ⟨hfits.2.1, hfits.2.2⟩
  all_goals cases hfits

theorem isReleased_releaseSocket (h : browse.holdsSocket = false → browse.IsReleased) :
    browse.releaseSocket.IsReleased := by
  cases hholds : browse.holdsSocket with
  | true =>
    have htimeline : browse.releaseSocket.timeline = browse.timeline.close := by
      rw [timeline_releaseSocket, if_pos hholds]
    constructor
    · rw [htimeline]
      exact Timeline.link_close _
    · rw [htimeline]
      exact fun _ => Timeline.hasEnded_close _
  | false =>
    have hsame : browse.releaseSocket = browse := by
      rw [releaseSocket, hholds]
      rfl
    rw [hsame]
    exact h hholds

theorem isSound_timeline_releaseSocket (hsound : browse.timeline.IsSound P) :
    browse.releaseSocket.timeline.IsSound P := by
  rw [timeline_releaseSocket]
  split
  · exact hsound.close
  · exact hsound

theorem IsReleased.isSound (h : browse.IsReleased) (hsound : browse.timeline.IsSound P)
    (hholds : browse.holdsSocket = false) (hstate : browse.state.isTerminal = true) :
    browse.IsSound P := by
  refine ⟨hsound, ?_⟩
  rw [Fits]
  cases hcase : browse.state <;> rw [hcase] at hstate
  case completed => exact ⟨hholds, h.link, h.ended⟩
  case failed => exact ⟨hholds, h.link, h.ended⟩
  all_goals cases hstate

/-- A browse that has ended holds nothing that closing it could give back. -/
theorem close_of_isTerminal (hfits : browse.Fits) (h : browse.state.isTerminal = true) :
    browse.close = browse := by
  have hholds : browse.holdsSocket = false := by
    rw [Fits] at hfits
    cases hstate : browse.state <;> rw [hstate] at hfits h
    case completed => exact hfits.1
    case failed => exact hfits.1
    all_goals cases h
  rw [close, releaseSocket]
  simp [hholds, h]

theorem close_of_not_isTerminal (h : browse.state.isTerminal = false) :
    browse.close = browse.releaseSocket.setState .completed := by
  rw [close]
  simp [h]

theorem IsSound.close (hsound : browse.IsSound P) : browse.close.IsSound P := by
  cases hterminal : browse.state.isTerminal with
  | true => rwa [close_of_isTerminal hsound.fits hterminal]
  | false =>
    rw [close_of_not_isTerminal hterminal]
    have hreleased := isReleased_releaseSocket hsound.fits.isReleased
    have htimeline := isSound_timeline_releaseSocket hsound.timeline
    exact IsReleased.isSound ⟨hreleased.link, hreleased.ended⟩ (isSound_note htimeline _)
      (holdsSocket_releaseSocket browse) rfl

theorem abandon_eq (browse : Browse) :
    browse.abandon = (browse.setState .failed).releaseSocket := by
  rw [abandon, close]
  simp [setState, State.isTerminal]

theorem state_abandon (browse : Browse) : browse.abandon.state = .failed := by
  rw [abandon_eq, state_releaseSocket]
  rfl

theorem isSound_of_advance {endsAt : Option Instant} {instances : List Instance}
    (hsound : browse.timeline.IsSound P)
    (h : browse.advance endsAt = (.ok (some instances), after)) : after.timeline.IsSound P := by
  have hrests := advances browse endsAt
  rw [h] at hrests
  exact hsound.moves hrests.moves

theorem Ends.isIterated {failure : Option Failure} (h : Ends browse failure after) :
    after.isIterated = browse.isIterated := by
  cases h with
  | completed rest hrests => exact (isIterated_close _).trans hrests.isIterated
  | failed rest fault hrests => exact (isIterated_close _).trans hrests.isIterated
  | stopped rest failure hrests hother => exact hrests.isIterated

/-- Abandoning leaves nothing behind, if there was nothing but the socket in hand. -/
theorem isSound_abandon (hsound : browse.timeline.IsSound P)
    (h : browse.holdsSocket = false → browse.IsReleased) : browse.abandon.IsSound P := by
  rw [abandon_eq]
  have hreleased : (browse.setState .failed).releaseSocket.IsReleased :=
    isReleased_releaseSocket fun hholds => ⟨(h hholds).link, (h hholds).ended⟩
  exact hreleased.isSound (isSound_timeline_releaseSocket (isSound_note hsound _))
    (holdsSocket_releaseSocket _) (by rw [state_releaseSocket]; rfl)

theorem IsSound.note (hsound : browse.IsSound P) (notices : List Notice) :
    (browse.note notices).IsSound P :=
  ⟨isSound_note hsound.timeline notices, hsound.fits⟩

theorem IsSound.conclude (hsound : browse.IsSound P) : browse.conclude.IsSound P :=
  (hsound.note _).close

theorem IsSound.ends {failure : Option Failure} (hsound : browse.IsSound P)
    (h : Ends browse failure after) : after.IsSound P := by
  cases h with
  | completed rest hrests => exact (hsound.rests hrests).conclude
  | failed rest fault hrests =>
    have hrest := hsound.rests hrests
    exact isSound_abandon hrest.timeline hrest.fits.isReleased
  | stopped rest failure hrests hother => exact hsound.rests hrests

/-! ## Entering -/

theorem isSound_use_new {t : Timeline} (h : t.IsSound P) (hlink : t.socket.link = none)
    (name : SocketName) (broadcast : Option Bool) (capacity : Int) :
    (t.use (.new name broadcast capacity)).IsSound P :=
  { h with
    queued := fun _ hmem => absurd hmem List.not_mem_nil
    tidy := by
      intro i hi
      rw [h.tidy i hi] at hlink
      cases hlink }

theorem isSound_question {t : Timeline} (h : t.IsSound P) (hlink : t.socket.link = none)
    (data : List UInt8) :
    (t.question data).2.IsSound P ∧ (t.question data).2.states = t.states ∧
      ((t.question data).1 = .ok () → (t.question data).2.IsOpen) := by
  have hopened := Timeline.opened_openSocket h hlink
  rw [Timeline.question]
  split
  next failure u hopen =>
    rw [hopen] at hopened
    refine ⟨hopened.sound, hopened.states, ?_⟩
    intro hok
    cases hok
  next u hopen =>
    rw [hopen] at hopened
    have hasked := Timeline.asked_send hopened.sound data
    refine ⟨hasked.sound, hasked.states.trans hopened.states, ?_⟩
    intro _
    rw [Timeline.IsOpen, hasked.link, hasked.closedLinks]
    exact hopened.ok rfl

theorem enter_of_ne_idle (h : browse.state ≠ .idle) :
    browse.enter = (.error (.misuse (.alreadyStarted browse.text)), browse) :=
  if_pos h

theorem isTerminal_close (browse : Browse) : browse.close.state.isTerminal = true := by
  rw [state_close]
  split
  · assumption
  · rfl

theorem Ends.state_cases {failure : Option Failure} (h : Ends browse failure after) :
    after.state = browse.state ∨ after.state.isTerminal = true := by
  cases h with
  | completed rest hrests => exact .inr (isTerminal_close _)
  | failed rest fault hrests => exact .inr (isTerminal_close _)
  | stopped rest failure hrests hother => exact .inl hrests.state

theorem state_enter_of_idle (h : browse.state = .idle) :
    browse.enter.2.state = .requestSent ∨ browse.enter.2.state.isTerminal = true := by
  rw [enter, if_neg (not_not_intro h)]
  dsimp only
  split
  · exact .inr (isTerminal_close _)
  · exact .inl rfl

theorem isIterated_enter (browse : Browse) : browse.enter.2.isIterated = browse.isIterated := by
  rw [enter]
  split
  · rfl
  · dsimp only
    split
    · exact isIterated_close _
    · rfl

theorem IsSound.enter (hsound : browse.IsSound P) : browse.enter.2.IsSound P := by
  by_cases hidle : browse.state = .idle
  · have hfits := hsound.fits
    rw [Fits, hidle] at hfits
    obtain ⟨-, hiterated, hlink⟩ := hfits
    obtain ⟨hquestion, -, hopen⟩ := isSound_question
      (isSound_use_new hsound.timeline hlink browse.name none Protocol.maxQueueSize) rfl
      [Protocol.enumerateOpcode]
    rw [Browse.enter, if_neg (not_not_intro hidle)]
    dsimp only
    split
    · refine @isSound_abandon { browse with holdsSocket := true, timeline := _ } P hquestion ?_
      intro hholds
      cases hholds
    next hresult => exact ⟨isSound_note hquestion _, rfl, hiterated, hopen hresult⟩
  · rw [enter_of_ne_idle hidle]
    exact hsound

/-! ## Iterating -/

/-- The browse once its iteration has begun. -/
def begun (browse : Browse) : Browse :=
  { browse with isIterated := true }.setState .collecting

/-- What has to be so for an iteration to begin. -/
structure IsReady (browse : Browse) : Prop where
  holdsSocket : browse.holdsSocket = true
  state : browse.state = .requestSent
  isIterated : browse.isIterated = false

theorem IsReady.begin_eq (h : browse.IsReady) :
    browse.begin = (browse.begun.timeline.endOf browse.limits.total, browse.begun) := by
  rw [begin, if_neg (by simp [h.isIterated]), if_neg (by simp [h.holdsSocket, h.state])]
  rfl

/-- An iteration begins, or it cannot and changes nothing. -/
theorem begin_cases (browse : Browse) :
    (∃ fault, browse.begin = (.error (.misuse fault), browse)) ∨
      browse.IsReady ∧
        browse.begin = (browse.begun.timeline.endOf browse.limits.total, browse.begun) := by
  rw [begin]
  split
  · exact .inl ⟨_, rfl⟩
  next hiterated =>
    split
    · exact .inl ⟨_, rfl⟩
    next hready =>
      simp only [Bool.or_eq_true, Bool.not_eq_true', decide_eq_true_eq, not_or, Bool.not_eq_false,
        not_not] at hready
      exact .inr ⟨⟨hready.1, hready.2, by simpa using hiterated⟩, rfl⟩

/-- An iteration that cannot begin is refused, and nothing comes of it. -/
theorem next_fresh_of_not_isReady (h : ¬ browse.IsReady) :
    ∃ fault, browse.next .fresh = (.error (.misuse fault), .done, browse) := by
  rcases begin_cases browse with ⟨fault, hbegin⟩ | ⟨hready, -⟩
  · refine ⟨fault, ?_⟩
    rw [next, hbegin]
  · exact absurd hready h

theorem iterate_of_not_isReady (h : ¬ browse.IsReady) :
    ∃ fault, browse.iterate = ⟨[], some (.misuse fault), browse⟩ := by
  rcases begin_cases browse with ⟨fault, hbegin⟩ | ⟨hready, -⟩
  · refine ⟨fault, ?_⟩
    rw [iterate, hbegin]
  · exact absurd hready h

theorem collect_of_not_isReady (h : ¬ browse.IsReady) :
    ∃ fault, browse.collect = (.error (.misuse fault), browse) := by
  obtain ⟨fault, hiterate⟩ := iterate_of_not_isReady h
  refine ⟨fault, ?_⟩
  rw [collect, hiterate]

theorem endOf_error {t : Timeline} {total : Setting Timeout} {failure : Failure}
    (h : t.endOf total = .error failure) : failure = .blankSetting .total := by
  unfold Timeline.endOf at h
  split at h
  · cases h
  · cases h
    rfl

theorem IsSound.begun (hsound : browse.IsSound P) (hready : browse.IsReady) :
    browse.begun.IsSound P := by
  have hfits := hsound.fits
  rw [Fits, hready.state] at hfits
  exact ⟨isSound_note hsound.timeline _, hfits.1, rfl, hfits.2.2⟩

/-- How a browse comes out when it is iterated to the end. -/
inductive Iterates (browse : Browse) : Option Failure → Browse → Prop
  | refused (fault : Misuse) : Iterates browse (some (.misuse fault)) browse
  | ended (failure : Option Failure) (after : Browse) (hready : browse.IsReady)
    (h : Ends browse.begun failure after) : Iterates browse failure after

theorem IsReady.ends_iterate (h : browse.IsReady) :
    Ends browse.begun browse.iterate.failure browse.iterate.browse := by
  rw [iterate, h.begin_eq]
  cases hend : browse.begun.timeline.endOf browse.limits.total with
  | error failure =>
    obtain rfl := endOf_error hend
    exact .stopped _ _ (.refl _) fun _ => Failure.noConfusion
  | ok endsAt => exact ends_drain _ _

theorem iterates (browse : Browse) :
    Iterates browse browse.iterate.failure browse.iterate.browse := by
  rcases begin_cases browse with ⟨fault, hbegin⟩ | ⟨hready, -⟩
  · unfold iterate
    rw [hbegin]
    exact .refused fault
  · exact .ended _ _ hready hready.ends_iterate

theorem collect_eq (browse : Browse) :
    browse.collect =
      (browse.iterate.failure.elim (.ok browse.iterate.instances) .error,
        browse.iterate.browse) := by
  unfold collect
  dsimp only
  split
  next hfailure => rw [hfailure]; rfl
  next hfailure => rw [hfailure]; rfl

/-- How a browse and a cursor come out when the cursor is moved. -/
inductive Moved (browse : Browse) (cursor : Cursor) : Cursor → Browse → Prop
  | rested (moved : Cursor) (after : Browse) (h : Rests browse after)
    (hrunning : moved.isRunning = cursor.isRunning) : Moved browse cursor moved after
  | ended (endsAt : Option Instant) (after : Browse)
    (h : Ends browse (failure? (browse.fetch endsAt).1) after)
    (hcursor : cursor = .running endsAt []) : Moved browse cursor .done after
  | begun (moved : Cursor) (after : Browse) (hready : browse.IsReady) (h : Rests browse.begun after)
    (hfresh : cursor = .fresh) : Moved browse cursor moved after
  | begunEnded (failure : Option Failure) (after : Browse) (hready : browse.IsReady)
    (h : Ends browse.begun failure after) (hfresh : cursor = .fresh) :
    Moved browse cursor .done after

theorem moved_next (browse : Browse) (cursor : Cursor) :
    Moved browse cursor (browse.next cursor).2.1 (browse.next cursor).2.2 := by
  match cursor with
  | .done => exact .rested _ _ (.refl _) rfl
  | .running endsAt (found :: later) => exact .rested _ _ (rests_handOut browse 1) rfl
  | .running endsAt [] =>
    show Moved browse _ (browse.fetch endsAt).2.1 (browse.fetch endsAt).2.2
    rcases (fetches browse endsAt).ends_or_rests with ⟨hends, hdone⟩ | ⟨hrests, hrun⟩
    · rw [hdone]
      exact .ended endsAt _ hends rfl
    · exact .rested _ _ hrests hrun
  | .fresh =>
    rw [next]
    rcases begin_cases browse with ⟨fault, hbegin⟩ | ⟨hready, hbegin⟩
    · rw [hbegin]
      exact .rested _ _ (.refl _) rfl
    · rw [hbegin]
      cases hend : browse.begun.timeline.endOf browse.limits.total with
      | error failure => exact .begun _ _ hready (.refl _) rfl
      | ok endsAt =>
        dsimp only
        rcases (fetches browse.begun endsAt).ends_or_rests with
          ⟨hends, hdone⟩ | ⟨hrests, -⟩
        · rw [hdone]
          exact .begunEnded _ _ hready hends rfl
        · exact .begun _ _ hready hrests rfl

end Browse

end SqlResolution
