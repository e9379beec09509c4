import SqlResolution.Proofs.Browse.Iterating
import SqlResolution.Proofs.Browse.Session
import SqlResolution.Proofs.Timeline.Log

/-!
# What a browse survives

A browse that was entered is iterated to the end. It should not matter what the answers hold:
one that is malformed is skipped, and either the answers are over at some time or the
transport fails. Then the browse has ended, and nothing is left open.

It is so as long as no answer is overlong. The answers that would be taken do not depend on
what is read in them, since reading only writes to the log; so they can be told beforehand,
by taking them without reading any. If one of them is overlong, the iteration stops there
with a failure that is neither the end nor the transport's, and the browse is left in the
middle of collecting with its socket open.
-/

namespace SqlResolution

open SqlResolution.Text

def Datagram.hasAddress (datagram : Datagram) : Bool :=
  (Address.read? datagram.peer.host).isSome

def Datagram.isOverlong (datagram : Datagram) : Bool :=
  Response.isOverlong datagram.data

/-- None of the times that many answers need was left blank. -/
def Limits.areGiven (limits : Limits) : Bool :=
  limits.inactivity ≠ .blank && limits.total ≠ .blank

/-- The iteration is over, and so is the browse: it is completed, or it failed with the
transport. It holds nothing, and nothing that it opened is open. -/
structure Browsed.IsSettled (browsed : Browsed) : Prop where
  outcome : browsed.failure = none ∧ browsed.browse.state = .completed ∨
    ∃ fault, browsed.failure = some (.transport fault) ∧ browsed.browse.state = .failed
  holdsSocket : browsed.browse.holdsSocket = false
  isClosed : ∀ link ∈ browsed.browse.timeline.links, link.isClosed = true

/-- The iteration is over, but the browse is not. -/
structure Browsed.IsBrokenOff (browsed : Browsed) : Prop where
  state : browsed.browse.state = .collecting
  holdsSocket : browsed.browse.holdsSocket = true
  isOpen : ∃ link ∈ browsed.browse.timeline.links, link.isClosed = false

/-- How the answers that are taken decide on a failure. The first that is overlong causes it, and if
there is none, then it is the failure of taking them. -/
structure Collected.Decides (collected : Collected) (failure : Option Failure) : Prop where
  readable : (∀ answer ∈ collected.datagrams, answer.isOverlong = false) →
    failure = collected.failure
  overlong : (∃ answer ∈ collected.datagrams, answer.isOverlong = true) →
    ∃ count, Decimal.digitLimit < count ∧ failure = some (.invalidValue (.tooManyDigits count))

namespace Collected

variable {collected : Collected} {failure : Option Failure}

theorem decides_nil (failure : Option Failure) (t : Timeline) :
    Decides ⟨[], failure, t⟩ failure where
  readable _ := rfl
  overlong := by
    rintro ⟨answer, hanswer, -⟩
    cases hanswer

theorem Decides.of_eq {other : Collected} (h : collected.Decides failure)
    (hsame : collected.datagrams = other.datagrams ∧ collected.failure = other.failure) :
    other.Decides failure := by
  obtain ⟨hdatagrams, hfailure⟩ := hsame
  constructor
  · rw [← hdatagrams, ← hfailure]
    exact h.readable
  · rw [← hdatagrams]
    exact h.overlong

/-- An answer that is not overlong decides nothing. -/
theorem Decides.cons {answer : Datagram} (h : collected.Decides failure)
    (hanswer : answer.isOverlong = false) :
    Decides { collected with datagrams := answer :: collected.datagrams } failure where
  readable hall := h.readable fun other hother => hall other (List.mem_cons_of_mem _ hother)
  overlong := by
    rintro ⟨other, hother, hoverlong⟩
    rcases List.mem_cons.1 hother with rfl | hrest
    · rw [hanswer] at hoverlong
      cases hoverlong
    · exact h.overlong ⟨other, hrest, hoverlong⟩

theorem decides_of_overlong {answer : Datagram} {count : Nat} (hanswer : answer.isOverlong = true)
    (hcount : Decimal.digitLimit < count) (collected : Collected) :
    Decides { collected with datagrams := answer :: collected.datagrams }
      (some (.invalidValue (.tooManyDigits count))) where
  readable hall := by
    rw [hall answer List.mem_cons_self] at hanswer
    cases hanswer
  overlong _ := ⟨count, hcount, rfl⟩

end Collected

namespace Timeline

variable {t : Timeline} {P : Datagram → Prop} {limits : Limits}

/-- Taking answers, for times that are given, fails only as the transport does. -/
theorem IsSound.failure_awaitMany (h : t.IsSound P) {inactivity : Timeout}
    (hvalue : limits.inactivity = .value inactivity) {endsAt : Option Instant} {failure : Failure}
    (hfailure : (awaitMany limits endsAt t).failure = some failure) :
    ∃ fault, failure = .transport fault := by
  fun_induction awaitMany limits endsAt t with
  | case1 t found after hnext =>
    have hreceives := h.receives_awaitNext hvalue endsAt
    rw [hnext] at hreceives
    cases hfailure
    exact hreceives
  | case2 => cases hfailure
  | case3 t datagram after hnext hpending rest ih =>
    have hafter := h.moves (moves_awaitNext t limits endsAt)
    rw [hnext] at hafter
    exact ih hafter hfailure

/-- Whatever is taken comes from a host of which enough is known. -/
theorem IsSound.of_awaitNext (h : t.IsSound P) {endsAt : Option Instant} {datagram : Datagram}
    {after : Timeline} (hnext : t.awaitNext limits endsAt = (.ok (some datagram), after)) :
    P datagram := by
  cases hvalue : limits.inactivity with
  | value inactivity =>
    have hreceives := h.receives_awaitNext hvalue endsAt
    rw [hnext] at hreceives
    exact hreceives
  | blank =>
    unfold awaitNext at hnext
    dsimp only at hnext
    rw [hvalue] at hnext
    split at hnext <;> cases hnext

theorem IsSound.of_mem_awaitMany (h : t.IsSound P) {endsAt : Option Instant} {answer : Datagram}
    (hanswer : answer ∈ (awaitMany limits endsAt t).datagrams) : P answer := by
  fun_induction awaitMany limits endsAt t with
  | case1 => cases hanswer
  | case2 => cases hanswer
  | case3 t datagram after hnext hpending rest ih =>
    have hafter := h.moves (moves_awaitNext t limits endsAt)
    rw [hnext] at hafter
    rcases List.mem_cons.1 hanswer with rfl | hlater
    · exact h.of_awaitNext hnext
    · exact ih hafter hlater

theorem IsSound.of_mem_gather (h : t.IsSound P) {answer : Datagram}
    (hanswer : answer ∈ (t.gather .many limits).datagrams) : P answer := by
  rw [gather] at hanswer
  split at hanswer
  · exact h.of_mem_awaitMany hanswer
  · cases hanswer

theorem IsSound.failure_gather (h : t.IsSound P) (hgiven : limits.areGiven = true)
    {failure : Failure} (hfailure : (t.gather .many limits).failure = some failure) :
    ∃ fault, failure = .transport fault := by
  rw [Limits.areGiven] at hgiven
  cases hinactivity : limits.inactivity with
  | blank => simp [hinactivity] at hgiven
  | value inactivity =>
    cases htotal : limits.total with
    | blank => simp [htotal] at hgiven
    | value total =>
      unfold gather at hfailure
      dsimp only at hfailure
      rw [htotal] at hfailure
      exact h.failure_awaitMany hinactivity hfailure

end Timeline

namespace Browse

open Timeline (awaitMany)

variable {browse after : Browse} {P : Datagram → Prop} {endsAt : Option Instant}

/-! ## Reading what is taken -/

theorem readAnswer_of_not_overlong (browse : Browse) {answer : Datagram}
    (haddress : answer.hasAddress = true) (h : answer.isOverlong = false) :
    ∃ instances, (browse.readAnswer answer).1 = .ok instances := by
  obtain ⟨address, haddress⟩ := Option.isSome_iff_exists.1 haddress
  rw [readAnswer]
  dsimp only
  rcases Response.read_of_not_overlong haddress h with ⟨-, fault, hread⟩ | ⟨records, -, hread⟩
  · rw [hread]
    exact ⟨_, rfl⟩
  · rw [hread]
    exact ⟨_, rfl⟩

theorem readAnswer_of_overlong (browse : Browse) {answer : Datagram}
    (haddress : answer.hasAddress = true) (h : answer.isOverlong = true) :
    ∃ count, Decimal.digitLimit < count ∧
      (browse.readAnswer answer).1 = .error (.invalidValue (.tooManyDigits count)) := by
  obtain ⟨address, haddress⟩ := Option.isSome_iff_exists.1 haddress
  obtain ⟨count, hcount, hread⟩ := Response.read_of_overlong haddress h
  refine ⟨count, hcount, ?_⟩
  rw [readAnswer]
  dsimp only
  rw [hread]

section Draining

variable {taken : Timeline} {answer : Datagram}

theorem drain_of_overlong
    (hnext : browse.timeline.awaitNext browse.limits endsAt = (.ok (some answer), taken))
    (haddress : answer.hasAddress = true) (h : answer.isOverlong = true) :
    ∃ count, Decimal.digitLimit < count ∧
      (browse.drain endsAt).failure = some (.invalidValue (.tooManyDigits count)) := by
  have hadvance := advance_of_some hnext
  obtain ⟨count, hcount, hread⟩ :=
    readAnswer_of_overlong { browse with timeline := taken } haddress h
  rw [hread] at hadvance
  refine ⟨count, hcount, ?_⟩
  rw [drain_of_error hadvance]

/-- After an answer that can be dealt with the drain goes on, and only the log shows that the answer
was read. -/
theorem drain_of_not_overlong
    (hnext : browse.timeline.awaitNext browse.limits endsAt = (.ok (some answer), taken))
    (haddress : answer.hasAddress = true) (h : answer.isOverlong = false) :
    ∃ (rest : Browse) (notices : List Notice),
      rest.timeline = taken.note notices ∧ rest.limits = browse.limits ∧
        rest.timeline.pending < browse.timeline.pending ∧
        (browse.drain endsAt).failure = (rest.drain endsAt).failure := by
  have hadvance := advance_of_some hnext
  obtain ⟨instances, hread⟩ :=
    readAnswer_of_not_overlong { browse with timeline := taken } haddress h
  obtain ⟨notices, htimeline, hlimits⟩ := readAnswer_frame { browse with timeline := taken } answer
  rw [hread] at hadvance
  have hless := pending_advance_of_some hadvance
  refine ⟨({ browse with timeline := taken }.readAnswer answer).2.handOut instances.length,
    notices, htimeline, hlimits, hless, ?_⟩
  rw [drain_of_some hadvance]

end Draining

/-- A drain fails as the answers that it takes decide. -/
theorem decides_drain (hsound : browse.timeline.IsSound fun answer => answer.hasAddress = true)
    (endsAt : Option Instant) :
    (awaitMany browse.limits endsAt browse.timeline).Decides (browse.drain endsAt).failure := by
  induction hpending : browse.timeline.pending using Nat.strongRecOn generalizing browse with
  | ind pending ih =>
    have hmoves := Timeline.moves_awaitNext browse.timeline browse.limits endsAt
    cases hnext : browse.timeline.awaitNext browse.limits endsAt with
    | mk result taken =>
      match result with
      | .error failure =>
        have hadvance := advance_of_error hnext
        rw [Timeline.awaitMany_of_error hnext, drain_of_error (Prod.ext hadvance rfl)]
        exact Collected.decides_nil _ _
      | .ok none =>
        have hadvance := advance_of_none hnext
        rw [Timeline.awaitMany_of_none hnext, drain_of_none hadvance]
        exact Collected.decides_nil _ _
      | .ok (some answer) =>
        have haddress := hsound.of_awaitNext hnext
        rw [Timeline.awaitMany_of_some hnext]
        cases hoverlong : answer.isOverlong with
        | true =>
          obtain ⟨count, hcount, hfailure⟩ := drain_of_overlong hnext haddress hoverlong
          rw [hfailure]
          exact Collected.decides_of_overlong hoverlong hcount _
        | false =>
          obtain ⟨rest, notices, htimeline, hlimits, hless, hfailure⟩ :=
            drain_of_not_overlong hnext haddress hoverlong
          -- The drain goes on with a longer log than the taking, which takes the same all the same.
          rw [hnext] at hmoves
          have hlater : rest.timeline.IsSound fun answer => answer.hasAddress = true := by
            rw [htimeline]
            exact isSound_note (hsound.moves hmoves) notices
          have hrest := ih _ (hpending ▸ hless) hlater rfl
          rw [htimeline, hlimits, ← hfailure] at hrest
          have hsame := Timeline.awaitMany_note browse.limits endsAt taken notices
          exact (hrest.of_eq hsame).cons hoverlong

theorem decides_iterate (hsound : browse.IsSound fun answer => answer.hasAddress = true)
    (hready : browse.IsReady) :
    (browse.timeline.gather .many browse.limits).Decides browse.iterate.failure := by
  have hend : browse.begun.timeline.endOf browse.limits.total =
      browse.timeline.endOf browse.limits.total := rfl
  unfold iterate Timeline.gather
  dsimp only
  rw [hready.begin_eq, hend]
  cases browse.timeline.endOf browse.limits.total with
  | error failure => exact Collected.decides_nil _ _
  | ok endsAt =>
    have hdrain := decides_drain (hsound.begun hready).timeline endsAt
    exact hdrain.of_eq (Timeline.awaitMany_note browse.limits endsAt browse.timeline _)

/-! ## How the browse is left -/

/-- A sound browse that has ended has given back all that it opened. -/
theorem IsSound.released (hsound : browse.IsSound P) (h : browse.state.isTerminal = true) :
    browse.holdsSocket = false ∧ ∀ link ∈ browse.timeline.links, link.isClosed = true := by
  have hfits := hsound.fits
  rw [Fits] at hfits
  cases hstate : browse.state <;> rw [hstate] at hfits h
  case completed => exact ⟨hfits.1, hsound.timeline.isClosed hfits.2.1⟩
  case failed => exact ⟨hfits.1, hsound.timeline.isClosed hfits.2.1⟩
  all_goals cases h

theorem IsSound.isReady (hsound : browse.IsSound P) (h : browse.state = .requestSent) :
    browse.IsReady := by
  have hfits := hsound.fits
  rw [Fits, h] at hfits
  exact ⟨hfits.1, h, hfits.2.1⟩

/-- An iteration that ends by itself, or with the transport, settles a browse that collects. -/
theorem Ends.isSettled {failure : Option Failure} (hends : Ends browse failure after)
    (hsound : browse.IsSound P) (hstate : browse.state = .collecting)
    (hfailure : ∀ found, failure = some found → ∃ fault, found = .transport fault)
    (instances : List Instance) : Browsed.IsSettled ⟨instances, failure, after⟩ := by
  have hafter := hsound.ends hends
  cases hends with
  | completed rest hrests =>
    have hcompleted : rest.conclude.state = .completed := by
      show (rest.note _).close.state = _
      rw [state_close]
      show (if rest.state.isTerminal then rest.state else .completed) = _
      rw [hrests.state, hstate]
      rfl
    obtain ⟨hholds, hclosed⟩ := hafter.released (by rw [hcompleted]; rfl)
    exact ⟨.inl ⟨rfl, hcompleted⟩, hholds, hclosed⟩
  | failed rest fault hrests =>
    have hfailed := state_abandon rest
    obtain ⟨hholds, hclosed⟩ := hafter.released (by rw [hfailed]; rfl)
    exact ⟨.inr ⟨fault, rfl, hfailed⟩, hholds, hclosed⟩
  | stopped rest found hrests hother =>
    obtain ⟨fault, rfl⟩ := hfailure found rfl
    exact absurd rfl (hother fault)

theorem Ends.isBrokenOff {failure : Failure} (hends : Ends browse (some failure) after)
    (hsound : browse.IsSound P) (hstate : browse.state = .collecting)
    (hother : ∀ fault, failure ≠ .transport fault) (instances : List Instance) :
    Browsed.IsBrokenOff ⟨instances, some failure, after⟩ := by
  have hafter := (hsound.ends hends).fits
  cases hends with
  | failed rest fault hrests => exact absurd rfl (hother fault)
  | stopped rest found hrests =>
    have hcollecting : after.state = .collecting := hrests.state.trans hstate
    rw [Fits, hcollecting] at hafter
    exact ⟨hcollecting, hafter.1, hafter.2.2.exists_open⟩

end Browse

namespace Session

open Browse (exhaust)

/-- However a browse was entered, and whatever then comes in from hosts with an address, moving a
cursor to its end is collecting. It settles the browse if and only if none of the answers that would
be taken is overlong; if one is, the browse is left in the middle with a failure that is not the
transport's. -/
theorem exhaust_outcome {network : Network}
    (hpeers : network.EachReply fun answer => answer.hasAddress = true) (name : SocketName)
    (limits : Limits) (steps : List Browse.Step)
    (hentered : ((start network name limits).run steps).browse.state = .requestSent) :
    let browse := ((start network name limits).run steps).browse
    let answers := (browse.timeline.gather .many limits).datagrams
    let browsed := browse.exhaust .fresh
    browse.collect = (browsed.failure.elim (.ok browsed.instances) .error, browsed.browse) ∧
      (limits.areGiven = true →
        (browsed.IsSettled ↔ ∀ answer ∈ answers, answer.isOverlong = false)) ∧
      ((∃ answer ∈ answers, answer.isOverlong = true) →
        browsed.IsBrokenOff ∧ ∃ count, Decimal.digitLimit < count ∧
          browsed.failure = some (.invalidValue (.tooManyDigits count))) := by
  intro browse answers browsed
  have hsound : browse.IsSound fun answer => answer.hasAddress = true :=
    ((isSound_start hpeers name limits).run steps).browse
  have hlimits : browse.limits = limits :=
    congrArg Prod.snd (asked_run (start network name limits) steps)
  have hready := hsound.isReady hentered
  have hdecides := Browse.decides_iterate hsound hready
  rw [hlimits] at hdecides
  have hends := hready.ends_iterate
  have hbegun := hsound.begun hready
  have hiterate : browsed = browse.iterate := Browse.exhaust_fresh browse
  have hbroken : (∃ answer ∈ answers, answer.isOverlong = true) →
      browsed.IsBrokenOff ∧ ∃ count, Decimal.digitLimit < count ∧
        browsed.failure = some (.invalidValue (.tooManyDigits count)) := by
    intro hoverlong
    obtain ⟨count, hcount, hfailure⟩ := hdecides.overlong hoverlong
    rw [hiterate]
    rw [hfailure] at hends
    have hother : ∀ fault, Failure.invalidValue (.tooManyDigits count) ≠ .transport fault := by
      intro fault hfault
      cases hfault
    have hbroken := hends.isBrokenOff hbegun rfl hother browse.iterate.instances
    rw [← hfailure] at hbroken
    exact ⟨hbroken, count, hcount, hfailure⟩
  refine ⟨?_, fun hgiven => ⟨?_, ?_⟩, hbroken⟩
  · rw [hiterate]
    exact Browse.collect_eq browse
  · intro hsettled answer hanswer
    cases hoverlong : answer.isOverlong with
    | false => rfl
    | true =>
      obtain ⟨-, count, -, hfailure⟩ := hbroken ⟨answer, hanswer, hoverlong⟩
      rcases hsettled.outcome with ⟨hnone, -⟩ | ⟨fault, hfault, -⟩
      · rw [hfailure] at hnone
        cases hnone
      · rw [hfailure] at hfault
        cases hfault
  · intro hreadable
    have hfailure := hdecides.readable hreadable
    rw [hiterate]
    refine hends.isSettled hbegun rfl ?_ browse.iterate.instances
    intro found hfound
    rw [hfailure] at hfound
    exact hsound.timeline.failure_gather hgiven hfound

theorem eachReply_promptNetwork (answers : List (List UInt8)) :
    (promptNetwork (answers.map (.datagram none))).EachReply
      fun answer => answer.peer.host = "10.0.0.1" ∧ answer.data ∈ answers := by
  intro destination reply hreply datagram hevent
  rw [Network.repliesOf, promptNetwork, List.lookup_cons] at hreply
  cases hasked : destination.host == "10.0.0.1" with
  | false =>
    rw [hasked] at hreply
    cases hreply
  | true =>
    rw [hasked] at hreply
    obtain ⟨answer, hanswer, rfl⟩ := List.mem_map.1 hreply
    obtain ⟨data, hdata, rfl⟩ := List.mem_map.1 hanswer
    cases hevent
    exact ⟨eq_of_beq hasked, hdata⟩

/-- Three answers, of which the second is malformed, and the third has a port of as many digits as
can be read. -/
def mixedAnswers : List (List UInt8) :=
  [[0x05, 0x10, 0x00] ++ Utf8.encode "InstanceName;B;;", [0x05, 0x01],
    Response.zerosData Decimal.digitLimit]

theorem exhaust_outcome_mixed :
    let browse := ((startPrompt (mixedAnswers.map (.datagram none))).run [.enter]).browse
    (promptNetwork (mixedAnswers.map (.datagram none))).EachReply
        (fun answer => answer.hasAddress = true) ∧
      browse.state = .requestSent ∧
      (browse.timeline.gather .many .default).datagrams.map (·.data.length) = [19, 2, 4324] ∧
      mixedAnswers.map (fun data => (Response.records? data).isSome) = [true, false, true] ∧
      (browse.exhaust .fresh).IsSettled := by
  intro browse
  have hreplies := eachReply_promptNetwork mixedAnswers
  have hpeers : (promptNetwork (mixedAnswers.map (.datagram none))).EachReply
      fun answer => answer.hasAddress = true := by
    intro destination reply hreply answer hevent
    rw [Datagram.hasAddress, (hreplies destination reply hreply answer hevent).1]
    decide +kernel
  have hentered : browse.state = .requestSent := by decide +kernel
  -- The last answer is too long to be read by evaluation.
  have hlong : Decimal.digitLimit + 21 ≤ 65535 := by decide
  have hreadable : ∀ data ∈ mixedAnswers, Response.isOverlong data = false := by
    refine List.forall_mem_cons.2 ⟨by decide +kernel, List.forall_mem_cons.2
      ⟨by decide +kernel, List.forall_mem_cons.2 ⟨?_, List.forall_mem_nil _⟩⟩⟩
    exact (Response.isOverlong_zerosData hlong).trans (by decide)
  have hcarried : mixedAnswers.map (fun data => (Response.records? data).isSome) =
      [true, false, true] := by
    rw [mixedAnswers, List.map_cons, List.map_cons, List.map_cons,
      Response.records?_zerosData hlong]
    decide +kernel
  have hsound : browse.timeline.IsSound _ :=
    ((isSound_start hreplies _ .default).run [.enter]).browse.timeline
  refine ⟨hpeers, hentered, by decide +kernel, hcarried, ?_⟩
  obtain ⟨-, hsettled, -⟩ := exhaust_outcome hpeers _ _ _ hentered
  exact (hsettled (by decide +kernel)).2 fun answer hanswer =>
    hreadable answer.data (hsound.of_mem_gather hanswer).2

end Session

end SqlResolution
