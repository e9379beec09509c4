import SqlResolution.Proofs.Browse.Survival
import SqlResolution.Proofs.Timeline.Flow

/-!
# What a browse takes and hands out

A cursor takes an answer, counts it, reads it, and hands its instances out one by one, each
counted as it goes. So whatever a cursor does is told by two lists: the answers that it took
and the instances that it handed out. Both only ever grow, the counters say how long they are,
and nothing but a cursor adds to them.

The two are in balance. What the cursor had left of its last answer, followed by what is in
the answers it took, is what it handed out, followed by what it has left now.
-/

namespace SqlResolution

/-- The instances that an answer tells of; one that cannot be read tells of none. -/
def Datagram.instances (answer : Datagram) : List Instance :=
  match (Response.read answer.peer.host answer.data).2 with
  | .ok instances => instances
  | .error _ => []

/-- The answer cannot be read. -/
def Datagram.isUnreadable (answer : Datagram) : Bool :=
  match (Response.read answer.peer.host answer.data).2 with
  | .ok _ => false
  | .error _ => true

/-- The answer cannot be read because it is malformed. -/
def Datagram.isMalformed (answer : Datagram) : Bool :=
  match (Response.read answer.peer.host answer.data).2 with
  | .error (.malformed _) => true
  | _ => false

/-- The answer comes from an address, and no value in it is overlong. -/
def Datagram.isTame (answer : Datagram) : Bool :=
  answer.hasAddress && !answer.isOverlong

/-- An answer of that kind can only be malformed. -/
theorem Datagram.isMalformed_of_isTame {answer : Datagram} (h : answer.isTame = true) :
    answer.isMalformed = answer.isUnreadable := by
  rw [isTame, Bool.and_eq_true, Bool.not_eq_true'] at h
  obtain ⟨address, haddress⟩ := Option.isSome_iff_exists.1 h.1
  rw [isMalformed, isUnreadable]
  rcases Response.read_of_not_overlong haddress h.2 with ⟨-, fault, hread⟩ | ⟨records, -, hread⟩
  · rw [hread]
  · rw [hread]

/-- The instances of its last answer that a cursor has yet to hand out. -/
def Cursor.rest : Cursor → List Instance
  | .running _ instances => instances
  | _ => []

namespace Browse

open Timeline (Flows)

variable {browse mid after : Browse} {taken takenLater : List Datagram}
  {given givenLater : List Instance}

/-- From one browse to the other these answers were taken and these instances handed out, and both
are counted. -/
structure Takes (taken : List Datagram) (given : List Instance) (browse after : Browse) :
    Prop where
  flows : Flows taken browse.timeline after.timeline
  datagrams : after.datagrams = browse.datagrams + taken.length
  malformed : after.malformed = browse.malformed + taken.countP (·.isMalformed)
  yielded : after.yielded = browse.yielded + given.length

theorem Takes.refl (browse : Browse) : Takes [] [] browse browse :=
  ⟨.refl _, rfl, rfl, rfl⟩

theorem Takes.trans (h : Takes taken given browse mid)
    (h' : Takes takenLater givenLater mid after) :
    Takes (taken ++ takenLater) (given ++ givenLater) browse after where
  flows := h.flows.trans h'.flows
  datagrams := by rw [h'.datagrams, h.datagrams, List.length_append, Nat.add_assoc]
  malformed := by rw [h'.malformed, h.malformed, List.countP_append, Nat.add_assoc]
  yielded := by rw [h'.yielded, h.yielded, List.length_append, Nat.add_assoc]

/-! ## Where nothing is taken -/

theorem takes_note {notices : List Notice} (h : ∀ notice ∈ notices, notice.IsSilent)
    (browse : Browse) : Takes [] [] browse (browse.note notices) :=
  ⟨Timeline.flows_note h, rfl, rfl, rfl⟩

theorem takes_setState (browse : Browse) (state : State) :
    Takes [] [] browse (browse.setState state) := by
  have hnoted : Takes [] [] browse (browse.note [.stateChanged browse.text state]) :=
    takes_note (by simp [Notice.IsSilent, Notice.tally]) browse
  exact ⟨hnoted.flows, rfl, rfl, rfl⟩

theorem takes_releaseSocket (browse : Browse) : Takes [] [] browse browse.releaseSocket := by
  rw [releaseSocket]
  split
  · exact ⟨Timeline.flows_close _, rfl, rfl, rfl⟩
  · exact .refl browse

theorem takes_close (browse : Browse) : Takes [] [] browse browse.close := by
  unfold close
  dsimp only
  split
  · exact takes_releaseSocket browse
  · exact (takes_releaseSocket browse).trans (takes_setState _ _)

theorem takes_abandon (browse : Browse) : Takes [] [] browse browse.abandon :=
  (takes_setState browse .failed).trans (takes_close _)

theorem takes_conclude (browse : Browse) : Takes [] [] browse browse.conclude :=
  (takes_note (by simp [Notice.IsSilent, Notice.tally]) browse).trans (takes_close _)

theorem takes_sleep (browse : Browse) (length : Span) :
    Takes [] [] browse (browse.sleep length) :=
  ⟨Timeline.flows_sleep _ _, rfl, rfl, rfl⟩

theorem takes_begun (browse : Browse) : Takes [] [] browse browse.begun := by
  have hstate : Takes [] [] _ browse.begun :=
    takes_setState { browse with isIterated := true } .collecting
  exact ⟨hstate.flows, rfl, rfl, rfl⟩

/-! ## Taking and handing out -/

theorem takes_handOut (browse : Browse) (given : List Instance) :
    Takes [] given browse (browse.handOut given.length) :=
  ⟨.refl _, rfl, rfl, rfl⟩

theorem isSilent_of_isOfContent {notice : Notice} (h : notice.isOfContent = true) :
    notice.IsSilent := by
  cases notice with
  | received | queueFull => cases h
  | _ => exact fun _ => rfl

theorem isSilent_of_mem_read {source : String} {data : List UInt8} {notice : Notice}
    (h : notice ∈ (Response.read source data).1) : notice.IsSilent :=
  isSilent_of_isOfContent (isOfContent_of_mem_read h)

/-- The instances in what a step of an iteration comes to. -/
def offered : Except Failure (Option (List Instance)) → List Instance
  | .ok found => found.getD []
  | .error _ => []

theorem countP_isMalformed_singleton (answer : Datagram) :
    [answer].countP (·.isMalformed) = answer.isMalformed.toNat := by
  rw [List.countP_singleton]
  cases answer.isMalformed <;> rfl

/-- An answer that is read is counted, and it is counted whether it is malformed. -/
theorem takes_readAnswer {t : Timeline} (answer : Datagram)
    (h : Flows [answer] browse.timeline t) :
    Takes [answer] [] browse ({ browse with timeline := t }.readAnswer answer).2 ∧
      offered (({ browse with timeline := t }.readAnswer answer).1.map some) =
        answer.instances := by
  have hsilent : ∀ notice ∈ (Response.read answer.peer.host answer.data).1, notice.IsSilent :=
    fun _ => isSilent_of_mem_read
  have hnoted := h.trans (Timeline.flows_note hsilent)
  have hcount := countP_isMalformed_singleton answer
  rw [readAnswer, Datagram.instances]
  rw [Datagram.isMalformed] at hcount
  dsimp only
  cases hread : (Response.read answer.peer.host answer.data).2 with
  | ok instances =>
    rw [hread] at hcount
    exact ⟨⟨hnoted, rfl, by rw [hcount]; rfl, rfl⟩, rfl⟩
  | error failure =>
    rw [hread] at hcount
    cases failure with
    | malformed fault =>
      have hskipped : ∀ notice ∈ (Response.read answer.peer.host answer.data).1 ++
          [.malformedSkipped answer.peer fault], notice.IsSilent := by
        intro notice hnotice
        rcases List.mem_append.1 hnotice with hread | hlast
        · exact hsilent notice hread
        · rw [List.mem_singleton.1 hlast]
          exact fun _ => rfl
      exact ⟨⟨h.trans (Timeline.flows_note hskipped), rfl, by rw [hcount]; rfl, rfl⟩, rfl⟩
    | _ => exact ⟨⟨hnoted, rfl, by rw [hcount]; rfl, rfl⟩, rfl⟩

variable {endsAt : Option Instant}

/-- What is offered is what the answers that were taken hold. -/
theorem takes_advance (browse : Browse) (endsAt : Option Instant) :
    ∃ taken, Takes taken [] browse (browse.advance endsAt).2 ∧
      taken.flatMap Datagram.instances = offered (browse.advance endsAt).1 := by
  have hflows := Timeline.flows_awaitNext browse.timeline browse.limits endsAt
  have hrests : ∀ {t}, Flows [] browse.timeline t →
      Takes [] [] browse { browse with timeline := t } :=
    fun h => ⟨h, rfl, rfl, rfl⟩
  rw [advance]
  dsimp only
  cases hnext : browse.timeline.awaitNext browse.limits endsAt with
  | mk result t =>
    rw [hnext] at hflows
    cases result with
    | error failure =>
      cases failure with
      | transport fault => exact ⟨[], (hrests hflows).trans (takes_abandon _), rfl⟩
      | _ => exact ⟨[], hrests hflows, rfl⟩
    | ok found =>
      cases found with
      | none => exact ⟨[], (hrests hflows).trans (takes_conclude _), rfl⟩
      | some answer =>
        obtain ⟨htakes, hoffered⟩ := takes_readAnswer answer hflows
        exact ⟨[answer], htakes, by rw [hoffered, List.flatMap_singleton]⟩

theorem takes_of_advance {result : Except Failure (Option (List Instance))}
    (h : browse.advance endsAt = (result, after)) :
    ∃ taken, Takes taken [] browse after ∧
      taken.flatMap Datagram.instances = offered result := by
  have htakes := takes_advance browse endsAt
  rwa [h] at htakes

/-- The instance that a move hands out, if there is one. -/
def handed : Except Failure (Option Instance) → List Instance
  | .ok found => found.toList
  | .error _ => []

/-- A fetch hands out the first instance of the answers that it takes, and leaves the others to the
cursor. -/
theorem takes_fetch (browse : Browse) (endsAt : Option Instant) :
    ∃ taken, Takes taken (handed (browse.fetch endsAt).1) browse (browse.fetch endsAt).2.2 ∧
      taken.flatMap Datagram.instances =
        handed (browse.fetch endsAt).1 ++ (browse.fetch endsAt).2.1.rest := by
  fun_induction fetch endsAt browse with
  | case1 browse failure after hadvance =>
    obtain ⟨taken, htakes, hoffered⟩ := takes_of_advance hadvance
    exact ⟨taken, htakes, hoffered⟩
  | case2 browse after hadvance =>
    obtain ⟨taken, htakes, hoffered⟩ := takes_of_advance hadvance
    exact ⟨taken, htakes, hoffered⟩
  | case3 browse after hadvance hpending ih =>
    obtain ⟨taken, htakes, hoffered⟩ := takes_of_advance hadvance
    obtain ⟨later, hlater, hhanded⟩ := ih
    refine ⟨taken ++ later, htakes.trans hlater, ?_⟩
    rw [List.flatMap_append, hoffered, hhanded]
    rfl
  | case4 browse found later after hadvance =>
    obtain ⟨taken, htakes, hoffered⟩ := takes_of_advance hadvance
    refine ⟨taken, ?_, hoffered⟩
    have hgiven := htakes.trans (takes_handOut after [found])
    rwa [List.append_nil] at hgiven

/-- A cursor that is moved hands out, and keeps, what it had left and what it takes. -/
theorem takes_next (browse : Browse) (cursor : Cursor) :
    ∃ taken, Takes taken (handed (browse.next cursor).1) browse (browse.next cursor).2.2 ∧
      cursor.rest ++ taken.flatMap Datagram.instances =
        handed (browse.next cursor).1 ++ (browse.next cursor).2.1.rest := by
  match cursor with
  | .done => exact ⟨[], .refl browse, rfl⟩
  | .running endsAt (found :: later) =>
    exact ⟨[], takes_handOut browse [found], by rw [List.flatMap_nil, List.append_nil]; rfl⟩
  | .running endsAt [] => exact takes_fetch browse endsAt
  | .fresh =>
    rw [next]
    rcases begin_cases browse with ⟨fault, hbegin⟩ | ⟨hready, hbegin⟩
    · rw [hbegin]
      exact ⟨[], .refl browse, rfl⟩
    · rw [hbegin]
      cases hend : browse.begun.timeline.endOf browse.limits.total with
      | error failure => exact ⟨[], takes_begun browse, rfl⟩
      | ok endsAt =>
        obtain ⟨taken, htakes, hhanded⟩ := takes_fetch browse.begun endsAt
        exact ⟨taken, (takes_begun browse).trans htakes, hhanded⟩

theorem takes_drain (browse : Browse) (endsAt : Option Instant) :
    ∃ taken, Takes taken (browse.drain endsAt).instances browse (browse.drain endsAt).browse ∧
      taken.flatMap Datagram.instances = (browse.drain endsAt).instances := by
  fun_induction drain endsAt browse with
  | case1 browse failure after hadvance =>
    obtain ⟨taken, htakes, hoffered⟩ := takes_of_advance hadvance
    exact ⟨taken, htakes, hoffered⟩
  | case2 browse after hadvance =>
    obtain ⟨taken, htakes, hoffered⟩ := takes_of_advance hadvance
    exact ⟨taken, htakes, hoffered⟩
  | case3 browse instances after hadvance hpending rest ih =>
    obtain ⟨taken, htakes, hoffered⟩ := takes_of_advance hadvance
    obtain ⟨later, hlater, hinstances⟩ := ih
    have hgiven := (htakes.trans (takes_handOut after instances)).trans hlater
    rw [List.append_nil, List.nil_append] at hgiven
    refine ⟨taken ++ later, hgiven, ?_⟩
    rw [List.flatMap_append, hoffered, hinstances]
    rfl

/-- A whole iteration hands out all that is in the answers that it takes. -/
theorem takes_iterate (browse : Browse) :
    ∃ taken, Takes taken browse.iterate.instances browse browse.iterate.browse ∧
      taken.flatMap Datagram.instances = browse.iterate.instances := by
  rw [iterate]
  rcases begin_cases browse with ⟨fault, hbegin⟩ | ⟨hready, hbegin⟩
  · rw [hbegin]
    exact ⟨[], .refl browse, rfl⟩
  · rw [hbegin]
    cases hend : browse.begun.timeline.endOf browse.limits.total with
    | error failure => exact ⟨[], takes_begun browse, rfl⟩
    | ok endsAt =>
      obtain ⟨taken, htakes, hinstances⟩ := takes_drain browse.begun endsAt
      exact ⟨taken, (takes_begun browse).trans htakes, hinstances⟩

/-- Whatever came in on the socket before, another one takes its place. -/
theorem takes_enter_of_idle (hidle : browse.state = .idle) :
    Takes [] [] { browse with
      timeline := browse.timeline.use (.new browse.name none Protocol.maxQueueSize) }
      browse.enter.2 := by
  have hasked := Timeline.flows_question
    (browse.timeline.use (.new browse.name none Protocol.maxQueueSize)) [Protocol.enumerateOpcode]
  rw [enter, if_neg (not_not_intro hidle)]
  dsimp only
  generalize Timeline.question _ _ = outcome at hasked
  obtain ⟨result, timeline⟩ := outcome
  have hheld : Takes [] [] { browse with
      timeline := browse.timeline.use (.new browse.name none Protocol.maxQueueSize) }
      { browse with holdsSocket := true, timeline } :=
    ⟨hasked, rfl, rfl, rfl⟩
  cases result with
  | error failure => exact hheld.trans (takes_abandon _)
  | ok => exact hheld.trans (takes_setState _ _)

/-- A socket that nothing came in on is given up for another one. -/
theorem takes_enter (h : browse.state = .idle → browse.timeline.socket.datagrams = []) :
    Takes [] [] browse browse.enter.2 := by
  by_cases hidle : browse.state = .idle
  · have hnew : Flows [] browse.timeline
        (browse.timeline.use (.new browse.name none Protocol.maxQueueSize)) :=
      Timeline.flows_of_same (h hidle).symm rfl
    have hused : Takes [] [] browse { browse with
        timeline := browse.timeline.use (.new browse.name none Protocol.maxQueueSize) } :=
      ⟨hnew, rfl, rfl, rfl⟩
    exact hused.trans (takes_enter_of_idle hidle)
  · rw [enter_of_ne_idle hidle]
    exact .refl browse

theorem IsReady.isIterated_next (h : browse.IsReady) :
    (browse.next .fresh).2.2.isIterated = true := by
  rw [next, h.begin_eq]
  cases hend : browse.begun.timeline.endOf browse.limits.total with
  | error failure => rfl
  | ok endsAt =>
    rcases (fetches browse.begun endsAt).ends_or_rests with ⟨hends, -⟩ | ⟨hrests, -⟩
    · exact hends.isIterated
    · exact hrests.isIterated

end Browse

end SqlResolution
