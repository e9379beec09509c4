import SqlResolution.Proofs.Browse.Taking

/-!
# A browse flattens an exchange

A browse asks the question of a plain exchange that takes many answers, and it takes them from
the same kind of socket. But it is written apart from it: it opens and asks in one place, takes
in another, reads in between, and closes in four.

The two are run side by side. As long as both take, their timelines differ in nothing but the
log, to which a browse writes more; so the next answer of the one is the next answer of the
other. When the answers are over, or fail, the browse closes its socket at once, and the
exchange does so behind it. If every answer can be dealt with there is no other end, and what
the browse has collected is what is in the answers that the exchange took.
-/

namespace SqlResolution

/-- The exchange that asks a host for all instances, from the beginning of time. -/
def Network.exchange (network : Network) (name : SocketName) (limits : Limits) :
    Outcome (List Datagram) :=
  ((Timeline.new network).use (.new name none Protocol.maxQueueSize)).collect
    [Protocol.enumerateOpcode] .many limits

namespace Browse

open Timeline (awaitMany)

variable {browse : Browse} {answer : Datagram}

/-- Enters the browse, and if that succeeds, collects at once. -/
def enterAndCollect (browse : Browse) : Except Failure (List Instance) × Browse :=
  match browse.enter with
  | (.error failure, after) => (.error failure, after)
  | (.ok (), after) => after.collect

/-! ## Closing, but for the log -/

theorem bare_close (hholds : browse.holdsSocket = true) :
    browse.close.timeline.bare = browse.timeline.close.bare := by
  have hreleased : browse.releaseSocket.timeline = browse.timeline.close := by
    rw [timeline_releaseSocket, if_pos hholds]
  unfold close
  dsimp only
  split
  · rw [hreleased]
  · show (browse.releaseSocket.timeline.note _).bare = _
    rw [hreleased]
    rfl

theorem bare_abandon (hholds : browse.holdsSocket = true) :
    browse.abandon.timeline.bare = browse.timeline.close.bare := by
  have hclosed := @bare_close (browse.setState .failed) hholds
  exact hclosed.trans (Timeline.close_congr rfl)

theorem bare_conclude (hholds : browse.holdsSocket = true) :
    browse.conclude.timeline.bare = browse.timeline.close.bare := by
  have hclosed := @bare_close
    (browse.note [.browseEnded browse.text browse.datagrams browse.yielded]) hholds
  exact hclosed.trans (Timeline.close_congr rfl)

/-! ## Side by side -/

/-- The browse has taken what was gathered, handed out what is in it, and come to the same end. -/
structure Mirrors (browse : Browse) (gathered : Collected) (browsed : Browsed) : Prop where
  takes : Takes gathered.datagrams browsed.instances browse browsed.browse
  instances : browsed.instances = gathered.datagrams.flatMap Datagram.instances
  failure : browsed.failure = gathered.failure
  timeline : browsed.browse.timeline.bare = gathered.timeline.close.bare
  state : browsed.browse.state = if gathered.failure = none then .completed else .failed

theorem readAnswer_of_isTame (browse : Browse) (h : answer.isTame = true) :
    (browse.readAnswer answer).1 = .ok answer.instances := by
  rw [Datagram.isTame, Bool.and_eq_true, Bool.not_eq_true'] at h
  obtain ⟨address, haddress⟩ := Option.isSome_iff_exists.1 h.1
  rw [readAnswer, Datagram.instances]
  dsimp only
  rcases Response.read_of_not_overlong haddress h.2 with ⟨-, fault, hread⟩ | ⟨records, -, hread⟩
  · rw [hread]
  · rw [hread]

/-- An answer goes to both. -/
theorem Mirrors.cons {rest : Browse} {gathered : Collected} {browsed : Browsed}
    (h : Mirrors rest gathered browsed)
    (htakes : Takes [answer] answer.instances browse rest) :
    Mirrors browse { gathered with datagrams := answer :: gathered.datagrams }
      { browsed with instances := answer.instances ++ browsed.instances } where
  takes := htakes.trans h.takes
  instances := by rw [h.instances, List.flatMap_cons]
  failure := h.failure
  timeline := h.timeline
  state := h.state

/-- The log does not matter to what is gathered. -/
theorem Mirrors.of_eq {gathered other : Collected} {browsed : Browsed}
    (h : Mirrors browse gathered browsed) (hdatagrams : gathered.datagrams = other.datagrams)
    (hfailure : gathered.failure = other.failure)
    (hbare : gathered.timeline.bare = other.timeline.bare) : Mirrors browse other browsed := by
  obtain ⟨htakes, hinstances, hsame, htimeline, hstate⟩ := h
  rw [hdatagrams] at htakes hinstances
  rw [hfailure] at hsame hstate
  exact ⟨htakes, hinstances, hsame, htimeline.trans (Timeline.close_congr hbare), hstate⟩

section Draining

variable {P : Datagram → Prop} {inactivity : Timeout} {endsAt : Option Instant}
  {taken : Timeline}

theorem mirrors_of_transport {fault : TransportFault}
    (hnext : browse.timeline.awaitNext browse.limits endsAt = (.error (.transport fault), taken))
    (hholds : browse.holdsSocket = true) :
    Mirrors browse (awaitMany browse.limits endsAt browse.timeline) (browse.drain endsAt) := by
  have hflows := Timeline.flows_of_awaitNext hnext
  rw [Timeline.awaitMany_of_error hnext, drain_of_error (advance_of_transport hnext)]
  have htaken : Takes [] [] browse { browse with timeline := taken } := ⟨hflows, rfl, rfl, rfl⟩
  exact ⟨htaken.trans (takes_abandon _), rfl, rfl, bare_abandon hholds, state_abandon _⟩

theorem mirrors_of_none
    (hnext : browse.timeline.awaitNext browse.limits endsAt = (.ok none, taken))
    (hholds : browse.holdsSocket = true) (hstate : browse.state = .collecting) :
    Mirrors browse (awaitMany browse.limits endsAt browse.timeline) (browse.drain endsAt) := by
  have hflows := Timeline.flows_of_awaitNext hnext
  rw [Timeline.awaitMany_of_none hnext, drain_of_none (advance_of_none hnext)]
  have htaken : Takes [] [] browse { browse with timeline := taken } := ⟨hflows, rfl, rfl, rfl⟩
  refine ⟨htaken.trans (takes_conclude _), rfl, rfl, bare_conclude hholds, ?_⟩
  rw [conclude, state_close]
  show (if browse.state.isTerminal then browse.state else .completed) = _
  rw [hstate]
  rfl

/-- What a drain takes is what is gathered from the same timeline. -/
theorem mirrors_drain (hsound : browse.timeline.IsSound P)
    (hvalue : browse.limits.inactivity = .value inactivity) (hholds : browse.holdsSocket = true)
    (hstate : browse.state = .collecting)
    (htame : ∀ answer ∈ (awaitMany browse.limits endsAt browse.timeline).datagrams,
      answer.isTame = true) :
    Mirrors browse (awaitMany browse.limits endsAt browse.timeline) (browse.drain endsAt) := by
  induction hpending : browse.timeline.pending using Nat.strongRecOn generalizing browse with
  | ind pending ih =>
    have hreceives := hsound.receives_awaitNext hvalue endsAt
    cases hnext : browse.timeline.awaitNext browse.limits endsAt with
    | mk result taken =>
      rw [hnext] at hreceives
      cases result with
      | error failure =>
        obtain ⟨fault, rfl⟩ := hreceives
        exact mirrors_of_transport hnext hholds
      | ok found =>
        cases found with
        | none => exact mirrors_of_none hnext hholds hstate
        | some answer =>
          rw [Timeline.awaitMany_of_some hnext] at htame ⊢
          have hanswer := htame answer List.mem_cons_self
          have hadvance := advance_of_some hnext
          rw [readAnswer_of_isTame _ hanswer] at hadvance
          have hless := pending_advance_of_some hadvance
          have hafter := isSound_of_advance hsound hadvance
          obtain ⟨hread, -⟩ := takes_readAnswer answer (Timeline.flows_of_awaitNext hnext)
          have hgiven := hread.trans (takes_handOut _ answer.instances)
          have hrests := rests_readAnswer { browse with timeline := taken } answer
          obtain ⟨notices, htimeline, -⟩ :=
            readAnswer_frame { browse with timeline := taken } answer
          generalize ({ browse with timeline := taken }.readAnswer answer).2 = after
            at hadvance hless hafter hgiven hrests htimeline
          have hbare : (after.handOut answer.instances.length).timeline.bare = taken.bare := by
            show after.timeline.bare = taken.bare
            rw [htimeline]
            rfl
          have hlimits : (after.handOut answer.instances.length).limits = browse.limits :=
            hrests.limits
          obtain ⟨hdatagrams, hfailure, hgathered⟩ :=
            Timeline.awaitMany_congr hbare browse.limits endsAt
          have hrest := @ih _ (hpending ▸ hless) (after.handOut answer.instances.length) hafter
            (hrests.limits ▸ hvalue) (hrests.holdsSocket.trans hholds)
            (hrests.state.trans hstate)
          rw [hlimits, hdatagrams] at hrest
          have hmirrors :=
            hrest (fun other hother => htame other (List.mem_cons_of_mem _ hother)) rfl
          rw [drain_of_some hadvance]
          exact (hmirrors.of_eq hdatagrams hfailure hgathered).cons hgiven

end Draining

theorem areGiven_cases {limits : Limits} (h : limits.areGiven = true) :
    ∃ inactivity total, limits.inactivity = .value inactivity ∧ limits.total = .value total := by
  rw [Limits.areGiven, Bool.and_eq_true] at h
  cases hinactivity : limits.inactivity with
  | blank => simp [hinactivity] at h
  | value inactivity =>
    cases htotal : limits.total with
    | blank => simp [htotal] at h
    | value total => exact ⟨inactivity, total, rfl, rfl⟩

/-- A whole iteration takes what is gathered from the same timeline, but for the log. -/
theorem mirrors_iterate {P : Datagram → Prop} {t : Timeline} (hsound : browse.IsSound P)
    (hready : browse.IsReady) (hgiven : browse.limits.areGiven = true)
    (hbare : browse.timeline.bare = t.bare)
    (htame : ∀ answer ∈ (t.gather .many browse.limits).datagrams, answer.isTame = true) :
    Mirrors browse (t.gather .many browse.limits) browse.iterate := by
  obtain ⟨inactivity, total, hvalue, htotal⟩ := areGiven_cases hgiven
  obtain ⟨endsAt, hend⟩ : ∃ endsAt, t.bare.endOf browse.limits.total = .ok endsAt := by
    rw [htotal]
    exact ⟨_, rfl⟩
  have hgather : t.gather .many browse.limits = awaitMany browse.limits endsAt t := by
    have hend : t.endOf browse.limits.total = .ok endsAt := hend
    unfold Timeline.gather
    dsimp only
    rw [hend]
  have hiterate : browse.iterate = browse.begun.drain endsAt := by
    rw [← hbare] at hend
    have hend : browse.begun.timeline.endOf browse.limits.total = .ok endsAt := hend
    rw [iterate, hready.begin_eq, hend]
  have hbegun : browse.begun.timeline.bare = t.bare := hbare
  obtain ⟨hdatagrams, hfailure, hgathered⟩ :=
    Timeline.awaitMany_congr hbegun browse.limits endsAt
  rw [hgather, ← hdatagrams] at htame
  have hdrain := @mirrors_drain browse.begun P inactivity endsAt (hsound.begun hready).timeline
    hvalue hready.holdsSocket rfl htame
  have hsame := hdrain.of_eq hdatagrams hfailure hgathered
  rw [hgather, hiterate]
  exact ⟨(takes_begun browse).trans hsame.takes, hsame.instances, hsame.failure, hsame.timeline,
    hsame.state⟩

end Browse

/-! ## The exchange and the browse -/

/-- What can be seen from outside is the same: what was sent and when, the links with all that
became of them, and the time. -/
structure Timeline.LooksAs (t u : Timeline) : Prop where
  sent : u.sent = t.sent
  links : u.links = t.links
  now : u.now = t.now

theorem Timeline.looksAs_of_bare_eq {t u : Timeline} (h : u.bare = t.bare) : t.LooksAs u := by
  have hsent := congrArg Timeline.sent h
  have hlinks := congrArg Timeline.links h
  have hnow := congrArg Timeline.now h
  exact ⟨hsent, hlinks, hnow⟩

theorem Timeline.LooksAs.trans {t u v : Timeline} (h : t.LooksAs u) (h' : u.LooksAs v) :
    t.LooksAs v :=
  ⟨h'.sent.trans h.sent, h'.links.trans h.links, h'.now.trans h.now⟩

/-- To close a socket without a link can be seen by nobody. -/
theorem Timeline.looksAs_close {t : Timeline} (h : t.socket.link = none) : t.LooksAs t.close := by
  rw [close_of_no_link h]
  exact ⟨rfl, rfl, rfl⟩

section Asking

variable {t asked : Timeline} {data : List UInt8} {limits : Limits} {failure : Failure}

theorem Timeline.collect_of_open_error (h : t.openSocket = (.error failure, asked)) :
    t.question data = (.error failure, asked) ∧
      t.collect data .many limits = (.error failure, asked) := by
  rw [question, collect, h]
  exact ⟨rfl, rfl⟩

theorem Timeline.collect_of_send_error {opened : Timeline} (h : t.openSocket = (.ok (), opened))
    (hsend : opened.send data = (.error failure, asked)) :
    t.question data = (.error failure, asked) ∧
      t.collect data .many limits = (.error failure, asked.close) := by
  rw [question, collect, h]
  dsimp only
  rw [ask, hsend]
  exact ⟨rfl, rfl⟩

theorem Timeline.collect_of_send {opened : Timeline} (h : t.openSocket = (.ok (), opened))
    (hsend : opened.send data = (.ok (), asked)) :
    t.question data = (.ok (), asked) ∧
      t.collect data .many limits =
        ((asked.gather .many limits).failure.elim (.ok (asked.gather .many limits).datagrams)
          .error, (asked.gather .many limits).timeline.close) := by
  rw [question, collect, h]
  dsimp only
  rw [ask, hsend]
  refine ⟨rfl, ?_⟩
  dsimp only
  cases (asked.gather .many limits).failure <;> rfl

end Asking

namespace Browse

variable {browse : Browse} {asked : Timeline} {failure : Failure} {P : Datagram → Prop}

theorem enter_of_error (hidle : browse.state = .idle)
    (h : (browse.timeline.use (.new browse.name none Protocol.maxQueueSize)).question
      [Protocol.enumerateOpcode] = (.error failure, asked)) :
    browse.enter =
      (.error failure, { browse with holdsSocket := true, timeline := asked }.abandon) := by
  rw [enter, if_neg (not_not_intro hidle)]
  dsimp only
  rw [h]

/-- The browse with its question sent. -/
def questioned (browse : Browse) (asked : Timeline) : Browse :=
  { browse with holdsSocket := true, timeline := asked }.setState .requestSent

theorem enter_of_ok (hidle : browse.state = .idle)
    (h : (browse.timeline.use (.new browse.name none Protocol.maxQueueSize)).question
      [Protocol.enumerateOpcode] = (.ok (), asked)) :
    browse.enter = (.ok (), browse.questioned asked) := by
  rw [enter, if_neg (not_not_intro hidle)]
  dsimp only
  rw [h]
  rfl

/-- The browse can be told from the exchange by nobody. It comes to the instances in the answers to
which the exchange comes, or to the same failure. -/
structure Flattens (browse : Browse) (exchange : Outcome (List Datagram))
    (browsed : Except Failure (List Instance) × Browse) : Prop where
  looks : exchange.2.LooksAs browsed.2.timeline
  ok : ∀ answers, exchange.1 = .ok answers →
    browsed.1 = .ok (answers.flatMap Datagram.instances) ∧
      browsed.2.datagrams = browse.datagrams + answers.length ∧
      browsed.2.malformed = browse.malformed + answers.countP (·.isMalformed) ∧
      browsed.2.yielded = browse.yielded + (answers.flatMap Datagram.instances).length ∧
      browsed.2.state = .completed
  error : ∀ failure, exchange.1 = .error failure →
    browsed.1 = .error failure ∧ browsed.2.state = .failed

/-- Where the question fails the browse fails, and closes what the exchange closes. -/
theorem flattens_of_error {last : Timeline} (hidle : browse.state = .idle)
    (h : (browse.timeline.use (.new browse.name none Protocol.maxQueueSize)).question
      [Protocol.enumerateOpcode] = (.error failure, asked))
    (hlast : last.LooksAs asked.close) :
    Flattens browse (.error failure, last) browse.enterAndCollect := by
  have hbare := @bare_abandon { browse with holdsSocket := true, timeline := asked } rfl
  rw [enterAndCollect, enter_of_error hidle h]
  refine ⟨hlast.trans (Timeline.looksAs_of_bare_eq hbare), ?_, ?_⟩
  · intro answers hanswers
    cases hanswers
  · intro found hfound
    cases hfound
    exact ⟨rfl, state_abandon _⟩

/-- Where the question is sent, the browse mirrors what is gathered after it. -/
theorem Mirrors.flattens {gathered : Collected} {browsed : Browsed}
    (h : Mirrors browse gathered browsed) :
    Flattens browse (gathered.failure.elim (.ok gathered.datagrams) .error,
        gathered.timeline.close)
      (browsed.failure.elim (.ok browsed.instances) .error, browsed.browse) := by
  have hlooks := Timeline.looksAs_of_bare_eq h.timeline
  have hstate := h.state
  rw [h.failure]
  cases hfailure : gathered.failure with
  | none =>
    rw [hfailure, if_pos rfl] at hstate
    refine ⟨hlooks, ?_, ?_⟩
    · intro answers hanswers
      cases hanswers
      rw [← h.instances]
      exact ⟨rfl, h.takes.datagrams, h.takes.malformed, h.takes.yielded, hstate⟩
    · intro found hfound
      cases hfound
  | some failure =>
    rw [hfailure, if_neg (Option.some_ne_none failure)] at hstate
    refine ⟨hlooks, ?_, ?_⟩
    · intro answers hanswers
      cases hanswers
    · intro found hfound
      cases hfound
      exact ⟨rfl, hstate⟩

theorem flattens_of_ok (hsound : browse.IsSound P) (hidle : browse.state = .idle)
    (hgiven : browse.limits.areGiven = true)
    (h : (browse.timeline.use (.new browse.name none Protocol.maxQueueSize)).question
      [Protocol.enumerateOpcode] = (.ok (), asked))
    (htame : ∀ answer ∈ (asked.gather .many browse.limits).datagrams, answer.isTame = true) :
    Flattens browse
      ((asked.gather .many browse.limits).failure.elim
          (.ok (asked.gather .many browse.limits).datagrams) .error,
        (asked.gather .many browse.limits).timeline.close)
      browse.enterAndCollect := by
  have henter := enter_of_ok hidle h
  have hentered := hsound.enter
  rw [henter] at hentered
  have hmirrors := @mirrors_iterate (browse.questioned asked) P asked hentered
    (hentered.isReady rfl) hgiven rfl htame
  have hflattens := hmirrors.flattens
  rw [← collect_eq] at hflattens
  rw [enterAndCollect, henter]
  exact ⟨hflattens.looks, hflattens.ok, hflattens.error⟩

/-- What is gathered after a question was accepted by the socket that was opened for it. -/
theorem mem_accepted_of_gather {start : Timeline} {data : List UInt8} {limits : Limits}
    (hqueue : start.socket.datagrams = []) (h : start.question data = (.ok (), asked))
    {answer : Datagram} (hanswer : answer ∈ (asked.gather .many limits).datagrams) :
    answer ∈ (asked.gather .many limits).timeline.close.accepted := by
  have hasked := Timeline.flows_question start data
  rw [h] at hasked
  have hgathered := (hasked.trans (Timeline.flows_gather asked limits)).trans
    (Timeline.flows_close _)
  rw [List.append_nil] at hgathered
  exact hgathered.mem_accepted hqueue hanswer

theorem flattens_enterAndCollect (hsound : browse.IsSound P) (hidle : browse.state = .idle)
    (hgiven : browse.limits.areGiven = true)
    (htame : ∀ answer ∈ ((browse.timeline.use
      (.new browse.name none Protocol.maxQueueSize)).collect
        [Protocol.enumerateOpcode] .many browse.limits).2.accepted, answer.isTame = true) :
    Flattens browse
      ((browse.timeline.use (.new browse.name none Protocol.maxQueueSize)).collect
        [Protocol.enumerateOpcode] .many browse.limits)
      browse.enterAndCollect := by
  have hfits := hsound.fits
  rw [Fits, hidle] at hfits
  have hstart := isSound_use_new hsound.timeline hfits.2.2 browse.name none Protocol.maxQueueSize
  have hopened := Timeline.opened_openSocket hstart rfl
  cases hopen : (browse.timeline.use
      (.new browse.name none Protocol.maxQueueSize)).openSocket with
  | mk opening opened =>
    rw [hopen] at hopened
    cases opening with
    | error failure =>
      obtain ⟨hquestion, hcollect⟩ :=
        @Timeline.collect_of_open_error _ _ [Protocol.enumerateOpcode] browse.limits _ hopen
      rw [hcollect]
      exact flattens_of_error hidle hquestion (Timeline.looksAs_close (hopened.error failure rfl))
    | ok =>
      cases hsend : opened.send [Protocol.enumerateOpcode] with
      | mk sending asked =>
        cases sending with
        | error failure =>
          obtain ⟨hquestion, hcollect⟩ :=
            @Timeline.collect_of_send_error _ _ _ browse.limits _ _ hopen hsend
          rw [hcollect]
          exact flattens_of_error hidle hquestion ⟨rfl, rfl, rfl⟩
        | ok =>
          obtain ⟨hquestion, hcollect⟩ :=
            @Timeline.collect_of_send _ _ _ browse.limits _ hopen hsend
          rw [hcollect] at htame ⊢
          exact flattens_of_ok hsound hidle hgiven hquestion fun answer hanswer =>
            htame answer (mem_accepted_of_gather rfl hquestion hanswer)

/-- Entered and collected at once, a browse does what the exchange does that asks for all instances
with the same times, none of them left blank. If every answer that the socket accepts can be dealt
with, then the browse comes to the instances in the answers to which the exchange comes; and if the
exchange fails, the browse fails with the same failure. -/
theorem enterAndCollect_flattens (network : Network) (name : SocketName) {limits : Limits}
    (hgiven : limits.areGiven = true)
    (htame : ∀ answer ∈ (network.exchange name limits).2.accepted, answer.isTame = true) :
    let exchange := network.exchange name limits
    let browsed := (Browse.new (.new network) name limits).enterAndCollect
    exchange.2.LooksAs browsed.2.timeline ∧
      (∀ answers, exchange.1 = .ok answers →
        browsed.1 = .ok (answers.flatMap Datagram.instances) ∧
          browsed.2.datagrams = answers.length ∧
          browsed.2.malformed = answers.countP (·.isMalformed) ∧
          browsed.2.yielded = (answers.flatMap Datagram.instances).length ∧
          browsed.2.state = .completed) ∧
      ∀ failure, exchange.1 = .error failure →
        browsed.1 = .error failure ∧ browsed.2.state = .failed := by
  intro exchange browsed
  have hnew : (Browse.new (.new network) name limits).IsSound fun _ => True :=
    isSound_new (Timeline.isSound_new fun _ _ _ _ _ => trivial) rfl name limits
  have hflattens := flattens_enterAndCollect hnew rfl hgiven htame
  refine ⟨hflattens.looks, ?_, hflattens.error⟩
  intro answers hanswers
  obtain ⟨hresult, hdatagrams, hmalformed, hyielded, hstate⟩ := hflattens.ok answers hanswers
  exact ⟨hresult, hdatagrams.trans (Nat.zero_add _), hmalformed.trans (Nat.zero_add _),
    hyielded.trans (Nat.zero_add _), hstate⟩

/-- A network with a host that tells of one instance, then of nothing that can be read, and then of
two more. -/
def talkative : Network :=
  { Network.silent ⟨[], none, none⟩ with
    replies := [("10.0.0.1", [⟨0, Session.oneInstance⟩,
      ⟨Span.ofMillis 40, .datagram none [0x05, 0x01]⟩,
      ⟨Span.ofMillis 90, .datagram none ([0x05, 0x20, 0x00] ++
        Text.Utf8.encode "InstanceName;B;;InstanceName;C;;")⟩])] }

theorem enterAndCollect_flattens_talkative :
    let name : SocketName := ⟨"10.0.0.1", .value 1434⟩
    let limits : Limits := ⟨.blank, .value (.ofMillis 200), .value (.ofMillis 2000)⟩
    let browsed := (Browse.new (.new talkative) name limits).enterAndCollect
    limits.areGiven = true ∧
      (∀ answer ∈ (talkative.exchange name limits).2.accepted, answer.isTame = true) ∧
      ∃ answers, (talkative.exchange name limits).1 = .ok answers ∧
        answers.map (fun answer => answer.instances.map (·.name)) = [["A"], [], ["B", "C"]] ∧
        browsed.1 = .ok (answers.flatMap Datagram.instances) ∧
        browsed.2.datagrams = answers.length ∧
        browsed.2.malformed = answers.countP (·.isMalformed) := by
  intro name limits browsed
  have hgiven : limits.areGiven = true := by decide +kernel
  have htame : ∀ answer ∈ (talkative.exchange name limits).2.accepted, answer.isTame = true := by
    decide +kernel
  have hnames : (talkative.exchange name limits).1.map
      (List.map fun answer => answer.instances.map (·.name)) = .ok [["A"], [], ["B", "C"]] := by
    decide +kernel
  have hflattens := enterAndCollect_flattens talkative name hgiven htame
  cases hanswers : (talkative.exchange name limits).1 with
  | error failure =>
    rw [hanswers] at hnames
    cases hnames
  | ok answers =>
    rw [hanswers] at hnames
    obtain ⟨hresult, hdatagrams, hmalformed, -⟩ := hflattens.2.1 answers hanswers
    exact ⟨hgiven, htame, answers, rfl, Except.ok.inj hnames, hresult, hdatagrams, hmalformed⟩

end Browse

end SqlResolution
