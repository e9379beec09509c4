import SqlResolution.Proofs.Browse.Taking

/-!
# What a browse has handed out

Between two moves of a cursor anything may happen to the browse: time passes, answers come in,
the browse is closed, other cursors are tried. The account survives it because at most one
cursor of a session is ever on its way. What that cursor has left of its last answer is then
all that keeps the instances handed out from being all that is in the answers taken.

Once the cursor is stopped nothing more is handed out, and what was handed out remains a prefix.
-/

namespace SqlResolution

namespace Browse

/-- Nothing was opened and nothing came in. -/
structure IsUnopened (browse : Browse) : Prop where
  links : browse.timeline.links = []
  datagrams : browse.timeline.socket.datagrams = []

end Browse

namespace Session

open Browse (Takes)

variable {session : Session} {taken : List Datagram} {given : List Instance} {P : Datagram → Prop}

/-- The instances that a step hands out. A collection hands out one after the other, also if it then
fails. -/
def handedBy (session : Session) : Browse.Step → List Instance
  | .collect => session.browse.iterate.instances
  | step => (session.act step).1.toOption.getD []

/-- The instances that were handed out, in their order. -/
def handedOut (session : Session) : List Browse.Step → List Instance
  | [] => []
  | step :: later => session.handedBy step ++ (session.act step).2.handedOut later

/-- All that is in the answers taken was handed out, but for what a cursor on its way has left; and
before an iteration has begun there is nothing to hand out. -/
structure Balances (taken : List Datagram) (given : List Instance) (session : Session) : Prop where
  isPrefix : given <+: taken.flatMap Datagram.instances
  rest : ∀ {i : Nat} {cursor : Cursor}, session.cursors[i]? = some cursor →
    cursor.isRunning = true → given ++ cursor.rest = taken.flatMap Datagram.instances
  untaken : session.browse.isIterated = false → taken = []
  unopened : session.browse.state = .idle → session.browse.IsUnopened

theorem balances_start (network : Network) (name : SocketName) (limits : Limits) :
    (start network name limits).Balances [] [] where
  isPrefix := List.prefix_refl _
  rest := by
    intro i cursor hcursor
    cases hcursor
  untaken _ := rfl
  unopened _ := ⟨rfl, rfl⟩

/-- Before an iteration has begun, nothing was taken or handed out. -/
theorem Balances.eq_nil (h : session.Balances taken given)
    (hiterated : session.browse.isIterated = false) : taken = [] ∧ given = [] := by
  have htaken := h.untaken hiterated
  have hgiven := h.isPrefix
  rw [htaken] at hgiven
  exact ⟨htaken, List.prefix_nil.1 hgiven⟩

/-- As long as a browse is idle only time passes, and nothing comes in. -/
theorem IsSound.isUnopened_act (h : session.IsSound P) (step : Browse.Step)
    (hunopened : session.browse.state = .idle → session.browse.IsUnopened)
    (hidle : (session.act step).2.browse.state = .idle) :
    (session.act step).2.browse.IsUnopened := by
  have hbefore := hunopened ((changes_act session step).state_of_idle hidle)
  rcases h.browse_act_of_idle hidle with hsame | ⟨length, rfl⟩
  · rw [hsame]
    exact hbefore
  · have hslept := (Timeline.passes_sleep session.browse.timeline length).of_links_eq_nil
      hbefore.links
    exact ⟨hslept.1, (congrArg Socket.datagrams hslept.2).trans hbefore.datagrams⟩

/-! ## Cursors -/

theorem move_of_none {i : Nat} (h : session.cursors[i]? = none) :
    session.move i = (.ok [], session) := by
  rw [Session.move, h]

theorem move_of_some {i : Nat} {found : Cursor} (h : session.cursors[i]? = some found) :
    session.move i = ((session.browse.next found).1.map Option.toList,
      ⟨(session.browse.next found).2.2,
        session.cursors.set i (session.browse.next found).2.1⟩) := by
  rw [Session.move, h]

theorem getElem?_of_set_done {cursors : List Cursor} {i j : Nat} {cursor : Cursor}
    (h : (cursors.set i .done)[j]? = some cursor) (hrunning : cursor.isRunning = true) :
    cursors[j]? = some cursor := by
  by_cases hij : i = j
  · rw [hij, List.getElem?_set_self'] at h
    cases hfound : cursors[j]? with
    | none =>
      rw [hfound] at h
      cases h
    | some found =>
      rw [hfound] at h
      cases h
      cases hrunning
  · rwa [List.getElem?_set_ne hij] at h

/-- No two cursors are on their way. -/
theorem IsSound.eq_of_isRunning (h : session.IsSound P) {i j : Nat} {found other : Cursor}
    (hfound : session.cursors[i]? = some found) (hother : session.cursors[j]? = some other)
    (hrunning : found.isRunning = true) (hotherRunning : other.isRunning = true) : i = j := by
  by_contra hij
  have hset := countP_set_le hfound .done
  have hone := h.running_le_one
  have hother : (session.cursors.set i .done)[j]? = some other := by
    rwa [List.getElem?_set_ne hij]
  have hleft := isRunning_le_countP hother
  rw [Session.running] at hone
  rw [hrunning] at hset
  rw [hotherRunning] at hleft
  simp only [Bool.toNat_true] at hset hleft
  change _ ≤ _ - 1 + 0 at hset
  omega

/-! ## Steps -/

theorem handedBy_next {i : Nat} {found : Cursor} (hfound : session.cursors[i]? = some found) :
    session.handedBy (.next i) = Browse.handed (session.browse.next found).1 := by
  show (session.move i).1.toOption.getD [] = _
  rw [move_of_some hfound]
  dsimp only
  cases (session.browse.next found).1 <;> rfl

/-- Nothing is taken or handed out in the step, no iteration begins, and no cursor is set on its
way. -/
structure IsAside (session : Session) (step : Browse.Step) : Prop where
  takes : Takes [] [] session.browse (session.act step).2.browse
  handedBy : session.handedBy step = []
  isIterated : (session.act step).2.browse.isIterated = session.browse.isIterated
  cursors : ∀ {i : Nat} {cursor : Cursor}, (session.act step).2.cursors[i]? = some cursor →
    cursor.isRunning = true → session.cursors[i]? = some cursor

/-- The part of a step in the one iteration: none, or a cursor on its way is moved, or the iteration
begins, be it with a cursor or as a whole. -/
inductive Plays (session : Session) : Browse.Step → Prop
  | aside {step : Browse.Step} (h : session.IsAside step) : Plays session step
  | moves {i : Nat} {endsAt : Option Instant} {instances : List Instance}
    (hfound : session.cursors[i]? = some (.running endsAt instances)) : Plays session (.next i)
  | begins {i : Nat} (hready : session.browse.IsReady)
    (hfound : session.cursors[i]? = some .fresh) : Plays session (.next i)
  | collects (hready : session.browse.IsReady) : Plays session .collect

theorem isAside_of_refused {i : Nat} {found : Cursor} {result : Except Failure (Option Instance)}
    (hfound : session.cursors[i]? = some found)
    (hnext : session.browse.next found = (result, .done, session.browse))
    (hnone : Browse.handed result = []) : session.IsAside (.next i) := by
  have hmove : (session.act (.next i)).2 = ⟨session.browse, session.cursors.set i .done⟩ := by
    show (session.move i).2 = _
    rw [move_of_some hfound, hnext]
  refine ⟨?_, by rw [handedBy_next hfound, hnext, hnone], by rw [hmove], ?_⟩
  · rw [hmove]
    exact .refl _
  · rw [hmove]
    exact getElem?_of_set_done

theorem plays_next (session : Session) (i : Nat) : session.Plays (.next i) := by
  cases hfound : session.cursors[i]? with
  | none =>
    have hmove : session.act (.next i) = (.ok [], session) := move_of_none hfound
    refine .aside ⟨?_, ?_, by rw [hmove], ?_⟩
    · rw [hmove]
      exact .refl _
    · show (session.act (.next i)).1.toOption.getD [] = []
      rw [hmove]
      rfl
    · rw [hmove]
      exact fun hcursor _ => hcursor
  | some found =>
    cases found with
    | done => exact .aside (isAside_of_refused hfound rfl rfl)
    | fresh =>
      by_cases hready : session.browse.IsReady
      · exact .begins hready hfound
      · obtain ⟨fault, hnext⟩ := Browse.next_fresh_of_not_isReady hready
        exact .aside (isAside_of_refused hfound hnext rfl)
    | running endsAt instances => exact .moves hfound

theorem plays (session : Session)
    (hunopened : session.browse.state = .idle → session.browse.IsUnopened) (step : Browse.Step) :
    session.Plays step := by
  cases step with
  | enter =>
    refine .aside ⟨Browse.takes_enter fun hidle => (hunopened hidle).datagrams, ?_,
      Browse.isIterated_enter _, fun hcursor _ => hcursor⟩
    show (session.browse.enter.1.map _).toOption.getD [] = []
    cases session.browse.enter.1 <;> rfl
  | close =>
    exact .aside ⟨Browse.takes_close _, rfl, Browse.isIterated_close _, fun hcursor _ => hcursor⟩
  | sleep length =>
    exact .aside ⟨Browse.takes_sleep _ _, rfl, rfl, fun hcursor _ => hcursor⟩
  | collect =>
    by_cases hready : session.browse.IsReady
    · exact .collects hready
    · obtain ⟨fault, hiterate⟩ := Browse.iterate_of_not_isReady hready
      have hcollect : (session.act .collect).2 = session := by
        show { session with browse := session.browse.collect.2 } = session
        rw [Browse.collect_eq, hiterate]
      refine .aside ⟨?_, ?_, by rw [hcollect], ?_⟩
      · rw [hcollect]
        exact .refl _
      · show session.browse.iterate.instances = []
        rw [hiterate]
      · rw [hcollect]
        exact fun hcursor _ => hcursor
  | iterate =>
    refine .aside ⟨.refl _, rfl, rfl, ?_⟩
    intro i cursor hcursor hrunning
    have hcursor : (session.cursors ++ [.fresh])[i]? = some cursor := hcursor
    rw [List.getElem?_append] at hcursor
    split at hcursor
    · exact hcursor
    · rw [List.mem_singleton.1 (List.mem_of_getElem? hcursor)] at hrunning
      cases hrunning
  | next i => exact plays_next session i
  | stop i => exact .aside ⟨.refl _, rfl, rfl, getElem?_of_set_done⟩

/-! ## The balance -/

theorem Balances.aside {step : Browse.Step} (h : session.Balances taken given)
    (haside : session.IsAside step)
    (hunopened : (session.act step).2.browse.state = .idle →
      (session.act step).2.browse.IsUnopened) :
    (session.act step).2.Balances taken given where
  isPrefix := h.isPrefix
  rest hcursor hrunning := h.rest (haside.cursors hcursor hrunning) hrunning
  untaken hnot := h.untaken (haside.isIterated ▸ hnot)
  unopened := hunopened

/-- The one cursor that may go on is moved. -/
theorem balances_move {i : Nat} {found : Cursor} (hfound : session.cursors[i]? = some found)
    (hrest : given ++ found.rest = taken.flatMap Datagram.instances)
    (honly : ∀ {j : Nat} {other : Cursor}, session.cursors[j]? = some other →
      other.isRunning = true → i = j)
    (hiterated : (session.move i).2.browse.isIterated = true)
    (hunopened : (session.move i).2.browse.state = .idle →
      (session.move i).2.browse.IsUnopened) :
    ∃ later, Takes later (session.handedBy (.next i)) session.browse (session.move i).2.browse ∧
      (session.move i).2.Balances (taken ++ later) (given ++ session.handedBy (.next i)) := by
  obtain ⟨later, htakes, hconserved⟩ := Browse.takes_next session.browse found
  rw [handedBy_next hfound]
  rw [move_of_some hfound] at hiterated hunopened ⊢
  have hgiven : (given ++ Browse.handed (session.browse.next found).1) ++
      (session.browse.next found).2.1.rest = (taken ++ later).flatMap Datagram.instances := by
    rw [List.append_assoc, ← hconserved, ← List.append_assoc, hrest, List.flatMap_append]
  refine ⟨later, htakes, ⟨_, hgiven⟩, ?_, ?_, hunopened⟩
  · intro j cursor hcursor hrunning
    by_cases hij : i = j
    · rw [hij, List.getElem?_set_self', ← hij, hfound] at hcursor
      cases hcursor
      exact hgiven
    · rw [List.getElem?_set_ne hij] at hcursor
      exact absurd (honly hcursor hrunning) hij
  · intro hnot
    rw [hiterated] at hnot
    cases hnot

theorem Balances.collect (hsound : session.IsSound P) (h : session.Balances taken given)
    (hready : session.browse.IsReady)
    (hunopened : session.browse.collect.2.state = .idle → session.browse.collect.2.IsUnopened) :
    ∃ later, Takes later session.browse.iterate.instances session.browse
        session.browse.collect.2 ∧
      { session with browse := session.browse.collect.2 }.Balances (taken ++ later)
        (given ++ session.browse.iterate.instances) := by
  obtain ⟨later, htakes, hinstances⟩ := Browse.takes_iterate session.browse
  obtain ⟨rfl, rfl⟩ := h.eq_nil hready.isIterated
  rw [Browse.collect_eq] at hunopened ⊢
  refine ⟨later, htakes, hinstances ▸ List.prefix_refl _, ?_, ?_, hunopened⟩
  · exact fun hcursor hrunning =>
      absurd hrunning (hsound.not_isRunning hready.isIterated hcursor)
  · intro hnot
    have hiterated := hready.ends_iterate.isIterated
    dsimp only at hnot
    rw [hnot] at hiterated
    cases hiterated

theorem Balances.act (hsound : session.IsSound P) (h : session.Balances taken given)
    (step : Browse.Step) :
    ∃ later, Takes later (session.handedBy step) session.browse (session.act step).2.browse ∧
      (session.act step).2.Balances (taken ++ later) (given ++ session.handedBy step) := by
  have hunopened := hsound.isUnopened_act step h.unopened
  have hplays : session.Plays step := session.plays h.unopened step
  cases hplays with
  | aside haside =>
    have htakes := haside.takes
    have hbalances := h.aside haside hunopened
    rw [← List.append_nil taken, ← List.append_nil given] at hbalances
    rw [haside.handedBy]
    exact ⟨[], htakes, hbalances⟩
  | @moves i endsAt instances hfound =>
    refine balances_move hfound (h.rest hfound rfl) ?_ ?_ hunopened
    · exact fun hother hrunning => hsound.eq_of_isRunning hfound hother rfl hrunning
    · by_contra hnot
      have hbefore := (changes_act session (.next i)).isIterated (Bool.not_eq_true _ ▸ hnot)
      exact hsound.not_isRunning hbefore hfound rfl
  | begins hready hfound =>
    obtain ⟨rfl, rfl⟩ := h.eq_nil hready.isIterated
    refine balances_move hfound rfl ?_ ?_ hunopened
    · exact fun hother hrunning =>
        absurd hrunning (hsound.not_isRunning hready.isIterated hother)
    · rw [move_of_some hfound]
      exact hready.isIterated_next
  | collects hready => exact h.collect hsound hready hunopened

/-- Whatever is done, what was taken and what was handed out stay in balance. -/
theorem Balances.run (hsound : session.IsSound P) (h : session.Balances taken given)
    (steps : List Browse.Step) :
    ∃ later, Takes later (session.handedOut steps) session.browse (session.run steps).browse ∧
      (session.run steps).Balances (taken ++ later) (given ++ session.handedOut steps) := by
  induction steps generalizing session taken given with
  | nil =>
    refine ⟨[], .refl _, ?_⟩
    rw [handedOut, List.append_nil, List.append_nil]
    exact h
  | cons step rest ih =>
    obtain ⟨first, htakes, hbalances⟩ := h.act hsound step
    obtain ⟨later, hlater, hrun⟩ := ih (hsound.act step) hbalances
    refine ⟨first ++ later, htakes.trans hlater, ?_⟩
    rw [handedOut, ← List.append_assoc, ← List.append_assoc]
    exact hrun

/-- Whatever is done with a browse: what it has handed out is a prefix of what is in the answers
that its socket accepted, in the order in which they arrived. The counters say how many instances
were handed out, how many answers were taken, and how many of those are malformed, which, where none
is overlong, are those that cannot be read; and they never go back. -/
theorem handedOut_accounted (network : Network) (name : SocketName) (limits : Limits)
    (steps : List Browse.Step) :
    let session := (start network name limits).run steps
    let given := (start network name limits).handedOut steps
    let taken := session.browse.timeline.taken
    let accepted := session.browse.timeline.accepted
    given <+: accepted.flatMap Datagram.instances ∧
      session.browse.yielded = given.length ∧
      taken ++ session.browse.timeline.socket.datagrams = accepted ∧
      session.browse.datagrams = taken.length ∧
      session.browse.malformed = taken.countP (·.isMalformed) ∧
      ((∀ answer ∈ accepted, answer.isTame = true) →
        session.browse.malformed = taken.countP (·.isUnreadable)) ∧
      ∀ later, session.browse.yielded ≤ (session.run later).browse.yielded ∧
        session.browse.datagrams ≤ (session.run later).browse.datagrams ∧
        session.browse.malformed ≤ (session.run later).browse.malformed := by
  intro session given taken accepted
  have hstart : (start network name limits).IsSound fun _ => True :=
    isSound_start (fun _ _ _ _ _ => trivial) name limits
  obtain ⟨answers, htakes, hbalances⟩ := (balances_start network name limits).run hstart steps
  have hbefore : [] ++ (start network name limits).browse.timeline.socket.datagrams =
      (start network name limits).browse.timeline.accepted := rfl
  have haccepted : answers ++ session.browse.timeline.socket.datagrams = accepted :=
    htakes.flows.append_datagrams hbefore
  have htaken : taken = answers := Timeline.taken_eq_of_append haccepted
  rw [← htaken] at htakes hbalances haccepted
  have hmalformed : session.browse.malformed = taken.countP (·.isMalformed) :=
    htakes.malformed.trans (Nat.zero_add _)
  refine ⟨?_, ?_, haccepted, ?_, hmalformed, ?_, ?_⟩
  · rw [← haccepted, List.flatMap_append]
    exact hbalances.isPrefix.trans (List.prefix_append _ _)
  · exact htakes.yielded.trans (Nat.zero_add _)
  · exact htakes.datagrams.trans (Nat.zero_add _)
  · intro htame
    rw [hmalformed]
    refine List.countP_congr fun answer hanswer => ?_
    have haccepted : answer ∈ accepted := haccepted ▸ List.mem_append_left _ hanswer
    rw [Datagram.isMalformed_of_isTame (htame answer haccepted)]
  · intro later
    obtain ⟨more, hmore, -⟩ := hbalances.run (hstart.run steps) later
    exact ⟨hmore.yielded ▸ Nat.le_add_right _ _, hmore.datagrams ▸ Nat.le_add_right _ _,
      hmore.malformed ▸ Nat.le_add_right _ _⟩

end Session

end SqlResolution
