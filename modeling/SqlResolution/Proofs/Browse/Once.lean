import SqlResolution.Proofs.Browse.States
import SqlResolution.Proofs.Browse.Streaming

/-!
# A browse is iterated once

Cursors may be made at any time, before the browse is entered, after it is closed, or while
another one is on its way. Whether an iteration may begin is found out only when a cursor is
first moved. Then it begins if and only if the question was sent and nothing has happened since:
an iteration that began before, or the end of the browse, has left that state for good.

So the first step that gets to iterate is the last one that does, and with it goes the cursor to
which all answers go. Any other cursor is refused and leaves the browse as it was. In particular,
what was tried before the browse was entered cannot be told afterwards.
-/

namespace SqlResolution

def Browse.Step.isSleep : Browse.Step → Bool
  | .sleep _ => true
  | _ => false

namespace Timeline

variable {t u : Timeline} {P : Datagram → Prop} {failure : Failure}

/-- Where nothing flows out of the queue, what was taken stays what it was. -/
theorem Flows.taken_eq (h : Flows [] t u) : u.taken = t.taken := by
  obtain ⟨arrived, hqueue, haccepted⟩ := h
  have hcount : u.accepted.length - u.socket.datagrams.length =
      t.accepted.length - t.socket.datagrams.length := by
    rw [List.nil_append] at hqueue
    rw [hqueue, haccepted, List.length_append, List.length_append]
    omega
  rw [taken, taken, hcount, haccepted]
  exact List.take_append_of_le_length (Nat.sub_le _ _)

theorem IsSound.awaitNext_error (h : t.IsSound P) {limits : Limits} {endsAt : Option Instant}
    (hnext : t.awaitNext limits endsAt = (.error failure, u)) :
    (∃ fault, failure = .transport fault) ∨ failure = .blankSetting .inactivity := by
  cases hvalue : limits.inactivity with
  | value inactivity =>
    have hreceives := h.receives_awaitNext hvalue endsAt
    rw [hnext] at hreceives
    exact .inl hreceives
  | blank =>
    unfold awaitNext at hnext
    dsimp only at hnext
    rw [hvalue] at hnext
    split at hnext
    · cases hnext
    · cases hnext
      exact .inr rfl

end Timeline

namespace Browse

variable {browse after : Browse} {P : Datagram → Prop} {endsAt : Option Instant} {failure : Failure}

theorem state_enter_of_ok (hidle : browse.state = .idle) (h : browse.enter.1 = .ok ()) :
    browse.enter.2.state = .requestSent := by
  rw [enter, if_neg (not_not_intro hidle)] at h ⊢
  dsimp only at h ⊢
  split at h
  · cases h
  · rfl

/-! ## An iteration that has begun is not refused -/

/-- What an iteration that has begun may fail with. -/
inductive MayFail : Failure → Prop
  | transport (fault : TransportFault) : MayFail (.transport fault)
  | blankSetting (fault : BlankSetting) : MayFail (.blankSetting fault)
  | invalidValue (fault : InvalidValue) : MayFail (.invalidValue fault)

theorem mayFail_advance (hsound : browse.timeline.IsSound P)
    (h : browse.advance endsAt = (.error failure, after)) : MayFail failure := by
  rw [advance] at h
  dsimp only at h
  split at h
  · cases h
    exact .transport _
  next found hother hnext =>
    cases h
    rcases hsound.awaitNext_error (Prod.ext hnext rfl) with ⟨cause, rfl⟩ | rfl
    · exact .transport cause
    · exact .blankSetting _
  · cases h
  next answer hnext =>
    have hresult := congrArg Prod.fst h
    dsimp only at hresult
    cases hread : ({ browse with timeline :=
        (browse.timeline.awaitNext browse.limits endsAt).2 }.readAnswer answer).1 with
    | ok instances =>
      rw [hread] at hresult
      cases hresult
    | error found =>
      obtain ⟨invalid, rfl⟩ := readAnswer_error hread
      rw [hread] at hresult
      cases hresult
      exact .invalidValue invalid

theorem mayFail_fetch (hsound : browse.timeline.IsSound P)
    (h : (browse.fetch endsAt).1 = .error failure) : MayFail failure := by
  fun_induction fetch endsAt browse with
  | case1 browse found after hadvance =>
    cases h
    exact mayFail_advance hsound hadvance
  | case2 => cases h
  | case3 browse after hadvance hpending ih => exact ih (isSound_of_advance hsound hadvance) h
  | case4 => cases h

theorem mayFail_drain (hsound : browse.timeline.IsSound P)
    (h : (browse.drain endsAt).failure = some failure) : MayFail failure := by
  fun_induction drain endsAt browse with
  | case1 browse found after hadvance =>
    cases h
    exact mayFail_advance hsound hadvance
  | case2 => cases h
  | case3 browse instances after hadvance hpending rest ih =>
    have hafter : after.timeline.IsSound P := isSound_of_advance hsound hadvance
    exact ih hafter h

theorem IsReady.mayFail_next (h : browse.IsReady) (hsound : browse.IsSound P)
    (hfailure : (browse.next .fresh).1 = .error failure) : MayFail failure := by
  rw [next, h.begin_eq] at hfailure
  cases hend : browse.begun.timeline.endOf browse.limits.total with
  | error found =>
    obtain rfl := endOf_error hend
    rw [hend] at hfailure
    cases hfailure
    exact .blankSetting _
  | ok endsAt =>
    rw [hend] at hfailure
    exact mayFail_fetch (hsound.begun h).timeline hfailure

theorem IsReady.mayFail_iterate (h : browse.IsReady) (hsound : browse.IsSound P)
    (hfailure : browse.iterate.failure = some failure) : MayFail failure := by
  rw [iterate, h.begin_eq] at hfailure
  cases hend : browse.begun.timeline.endOf browse.limits.total with
  | error found =>
    obtain rfl := endOf_error hend
    rw [hend] at hfailure
    cases hfailure
    exact .blankSetting _
  | ok endsAt =>
    rw [hend] at hfailure
    exact mayFail_drain (hsound.begun h).timeline hfailure

theorem IsReady.next_ne_misuse (h : browse.IsReady) (hsound : browse.IsSound P) (fault : Misuse) :
    (browse.next .fresh).1 ≠ .error (.misuse fault) := by
  intro hmisuse
  cases h.mayFail_next hsound hmisuse

theorem IsReady.iterate_ne_misuse (h : browse.IsReady) (hsound : browse.IsSound P)
    (fault : Misuse) : browse.iterate.failure ≠ some (.misuse fault) := by
  intro hmisuse
  cases h.mayFail_iterate hsound hmisuse

end Browse

namespace Session

variable {session : Session} {P : Datagram → Prop} {steps : List Browse.Step}
  {owner : Browse.Step}

/-! ## Who takes answers -/

/-- The steps in which answers were taken from the socket. -/
def takers (session : Session) : List Browse.Step → List Browse.Step
  | [] => []
  | step :: later =>
    let after := (session.act step).2
    if after.browse.timeline.taken = session.browse.timeline.taken then after.takers later
    else step :: after.takers later

theorem takers_cons_cases (session : Session) (step : Browse.Step) (later : List Browse.Step) :
    session.takers (step :: later) = (session.act step).2.takers later ∨
      session.takers (step :: later) = step :: (session.act step).2.takers later := by
  rw [takers]
  split
  · exact .inl rfl
  · exact .inr rfl

theorem IsAside.takers_cons {step : Browse.Step} (h : session.IsAside step)
    (later : List Browse.Step) :
    session.takers (step :: later) = (session.act step).2.takers later := by
  rw [takers]
  exact if_pos h.takes.flows.taken_eq

/-- An iteration has begun in this step, and only with the cursor of the step can it go on. -/
structure IsTakenBy (owner : Browse.Step) (session : Session) : Prop where
  isIterated : session.browse.isIterated = true
  only : ∀ {i : Nat} {cursor : Cursor}, session.cursors[i]? = some cursor →
    cursor.isRunning = true → owner = .next i

theorem isTakenBy_move {i : Nat} {found : Cursor} (hfound : session.cursors[i]? = some found)
    (honly : ∀ {j : Nat} {other : Cursor}, session.cursors[j]? = some other →
      other.isRunning = true → i = j)
    (hiterated : (session.move i).2.browse.isIterated = true) :
    (session.move i).2.IsTakenBy (.next i) := by
  refine ⟨hiterated, ?_⟩
  rw [move_of_some hfound]
  intro j cursor hcursor hrunning
  by_cases hij : i = j
  · rw [hij]
  · rw [List.getElem?_set_ne hij] at hcursor
    exact absurd (honly hcursor hrunning) hij

theorem isTakenBy_collect (hsound : session.IsSound P) (hready : session.browse.IsReady) :
    (session.act .collect).2.IsTakenBy .collect := by
  have hiterated : session.browse.collect.2.isIterated = true := by
    rw [Browse.collect_eq]
    exact hready.ends_iterate.isIterated
  exact ⟨hiterated, fun hcursor hrunning =>
    absurd hrunning (hsound.not_isRunning hready.isIterated hcursor)⟩

/-- Who has begun goes on alone. -/
theorem IsTakenBy.act (h : session.IsTakenBy owner) {step : Browse.Step}
    (hplays : session.Plays step) : (session.act step).2.IsTakenBy owner := by
  have hiterated : (session.act step).2.browse.isIterated = true := by
    by_contra hnot
    have hbefore := (changes_act session step).isIterated (Bool.not_eq_true _ ▸ hnot)
    rw [h.isIterated] at hbefore
    cases hbefore
  cases hplays with
  | aside haside =>
    exact ⟨hiterated, fun hcursor hrunning => h.only (haside.cursors hcursor hrunning) hrunning⟩
  | @moves i endsAt instances hfound =>
    obtain rfl := h.only hfound rfl
    refine isTakenBy_move hfound ?_ hiterated
    exact fun hother hrunning => Browse.Step.next.inj (h.only hother hrunning)
  | begins hready hfound => exact absurd (hready.isIterated ▸ h.isIterated) Bool.false_ne_true
  | collects hready => exact absurd (hready.isIterated ▸ h.isIterated) Bool.false_ne_true

theorem IsTakenBy.mem_takers (h : session.IsTakenBy owner) (hsound : session.IsSound P)
    (hunopened : session.browse.state = .idle → session.browse.IsUnopened)
    (steps : List Browse.Step) :
    ∀ taker ∈ session.takers steps, taker = owner ∧ ∃ i, owner = .next i := by
  induction steps generalizing session with
  | nil => exact List.forall_mem_nil _
  | cons step later ih =>
    have hplays : session.Plays step := session.plays hunopened step
    have hlater := ih (h.act hplays) (hsound.act step) (hsound.isUnopened_act step hunopened)
    intro taker htaker
    cases hplays with
    | aside haside =>
      rw [haside.takers_cons] at htaker
      exact hlater taker htaker
    | @moves i endsAt instances hfound =>
      have howner := h.only hfound rfl
      rcases session.takers_cons_cases (.next i) later with hsame | hcons
      · rw [hsame] at htaker
        exact hlater taker htaker
      · rw [hcons] at htaker
        rcases List.mem_cons.1 htaker with rfl | hrest
        · exact ⟨howner.symm, i, howner⟩
        · exact hlater taker hrest
    | begins hready hfound => exact absurd (hready.isIterated ▸ h.isIterated) Bool.false_ne_true
    | collects hready => exact absurd (hready.isIterated ▸ h.isIterated) Bool.false_ne_true

/-- All answers go to one cursor, or to one collection. -/
theorem IsSound.takers_cases (hsound : session.IsSound P)
    (hunopened : session.browse.state = .idle → session.browse.IsUnopened)
    (hiterated : session.browse.isIterated = false) (steps : List Browse.Step) :
    session.takers steps = [.collect] ∨ ∃ i, ∀ taker ∈ session.takers steps, taker = .next i := by
  induction steps generalizing session with
  | nil => exact .inr ⟨0, List.forall_mem_nil _⟩
  | cons step later ih =>
    have hplays : session.Plays step := session.plays hunopened step
    have hafter := hsound.isUnopened_act step hunopened
    cases hplays with
    | aside haside =>
      rw [haside.takers_cons]
      exact ih (hsound.act step) hafter (haside.isIterated.trans hiterated)
    | moves hfound => exact absurd rfl (hsound.not_isRunning hiterated hfound)
    | @begins i hready hfound =>
      have htaken : (session.move i).2.IsTakenBy (.next i) := by
        refine isTakenBy_move hfound ?_ ?_
        · exact fun hother hrunning =>
            absurd hrunning (hsound.not_isRunning hready.isIterated hother)
        · rw [move_of_some hfound]
          exact hready.isIterated_next
      have hlater := htaken.mem_takers (hsound.act (.next i)) hafter later
      refine .inr ⟨i, ?_⟩
      rcases session.takers_cons_cases (.next i) later with hsame | hcons
      · rw [hsame]
        exact fun taker htaker => (hlater taker htaker).1
      · rw [hcons]
        exact List.forall_mem_cons.2 ⟨rfl, fun taker htaker => (hlater taker htaker).1⟩
    | collects hready =>
      have htaken := isTakenBy_collect hsound hready
      have hnone : (session.act .collect).2.takers later = [] := by
        refine List.eq_nil_iff_forall_not_mem.2 ?_
        intro taker htaker
        obtain ⟨-, i, hcollect⟩ := htaken.mem_takers (hsound.act .collect) hafter later taker htaker
        cases hcollect
      rcases session.takers_cons_cases .collect later with hsame | hcons
      · rw [hsame, hnone]
        exact .inr ⟨0, List.forall_mem_nil _⟩
      · rw [hcons, hnone]
        exact .inl rfl

theorem isIterated_run (hiterated : (session.run steps).browse.isIterated = false) :
    session.browse.isIterated = false := by
  induction steps generalizing session with
  | nil => exact hiterated
  | cons step later ih => exact (changes_act session step).isIterated (ih hiterated)

/-- Where no iteration has begun, nobody has taken an answer. -/
theorem IsSound.takers_eq_nil (hsound : session.IsSound P)
    (hunopened : session.browse.state = .idle → session.browse.IsUnopened)
    (hiterated : (session.run steps).browse.isIterated = false) : session.takers steps = [] := by
  induction steps generalizing session with
  | nil => rfl
  | cons step later ih =>
    have hplays : session.Plays step := session.plays hunopened step
    have hlater := ih (hsound.act step) (hsound.isUnopened_act step hunopened) hiterated
    have hafter : (session.act step).2.browse.isIterated = false := isIterated_run hiterated
    cases hplays with
    | aside haside => rw [haside.takers_cons, hlater]
    | moves hfound =>
      have hbefore := (changes_act session _).isIterated hafter
      exact absurd rfl (hsound.not_isRunning hbefore hfound)
    | @begins i hready hfound =>
      have hafter : (session.move i).2.browse.isIterated = false := hafter
      rw [move_of_some hfound] at hafter
      exact absurd (hafter ▸ hready.isIterated_next) Bool.false_ne_true
    | collects hready =>
      have hbegun := (isTakenBy_collect hsound hready).isIterated
      exact absurd (hafter ▸ hbegun) Bool.false_ne_true

/-! ## When an iteration may begin -/

theorem isTerminal_run (h : session.browse.state.isTerminal = true) (steps : List Browse.Step) :
    (session.run steps).browse.state.isTerminal = true := by
  induction steps generalizing session with
  | nil => exact h
  | cons step later ih => exact ih ((changes_act session step).isTerminal h)

theorem isTerminal_run_of_close (session : Session) (h : .close ∈ steps) :
    (session.run steps).browse.state.isTerminal = true := by
  induction steps generalizing session with
  | nil => cases h
  | cons step later ih =>
    rcases List.mem_cons.1 h with rfl | hlater
    · exact isTerminal_run (Browse.isTerminal_close session.browse) later
    · exact ih (session.act step).2 hlater

theorem state_run_of_not_enter (h : .enter ∉ steps)
    (hsent : (session.run steps).browse.state = .requestSent) :
    session.browse.state = .requestSent := by
  induction steps generalizing session with
  | nil => exact hsent
  | cons step later ih =>
    rw [List.mem_cons, not_or] at h
    obtain ⟨hstep, hlater⟩ := h
    exact (changes_act session step).state_of_requestSent (ih hlater hsent) (Ne.symm hstep)

/-- Up to the question a browse has seen nothing but idle and the question. -/
theorem not_mem_history_collecting (network : Network) (name : SocketName) (limits : Limits)
    (hsent : ((start network name limits).run steps).browse.state = .requestSent) :
    .collecting ∉ ((start network name limits).run steps).history := by
  have hsound : (start network name limits).IsSound fun _ => True :=
    isSound_start (fun _ _ _ _ _ => trivial) name limits
  obtain ⟨⟨states, hstates, hchain, hlast⟩, -⟩ := hsound.evolves_run steps
  have hhistory : ((start network name limits).run steps).history = .idle :: states := by
    rw [history, hstates]
    rfl
  have hbefore : ∀ ⦃state next : State⦄, Happens state next →
      next = .idle ∨ next = .requestSent → state = .idle ∨ state = .requestSent := by
    rintro state next (hfollows | ⟨-, rfl⟩) hnext
    · cases hfollows <;> simp at hnext ⊢
    · simp at hnext
  have hall := hchain.backwards_cons_induction (fun state => state = .idle ∨ state = .requestSent)
    states ?_ hbefore (.inr hsent)
  · rw [hhistory]
    intro hmem
    rcases hall _ hmem with hidle | hquestion
    · cases hidle
    · cases hquestion
  · rw [List.getLast?_eq_some_getLast (List.cons_ne_nil _ _)] at hlast
    exact Option.some.inj hlast

theorem run_concat (session : Session) (steps : List Browse.Step) (last : Browse.Step) :
    session.run (steps ++ [last]) = ((session.run steps).act last).2 :=
  List.foldl_append

/-- A browse that is idle has only been slept over, whatever else was tried. -/
theorem IsSound.browse_run_of_idle (hsound : session.IsSound P)
    (hidle : (session.run steps).browse.state = .idle) :
    (session.run steps).browse = (session.run (steps.filter (·.isSleep))).browse := by
  induction steps using List.reverseRecOn with
  | nil => rfl
  | append_singleton steps last ih =>
    rw [run_concat] at hidle ⊢
    have hbefore := ih ((changes_act (session.run steps) last).state_of_idle hidle)
    rw [List.filter_append]
    cases last with
    | sleep length =>
      show ((session.run steps).browse.sleep length) = (session.run (_ ++ [.sleep length])).browse
      rw [run_concat, hbefore]
      rfl
    | _ =>
      rcases (hsound.run steps).browse_act_of_idle hidle with hsame | ⟨length, hsleep⟩
      · rw [hsame, hbefore]
        show _ = (session.run (_ ++ [])).browse
        rw [List.append_nil]
      · cases hsleep

/-- A cursor that is neither moved nor stopped stays as it was made. -/
theorem fresh_act {step : Browse.Step} {i : Nat} (hnext : step ≠ .next i) (hstop : step ≠ .stop i)
    (h : i < session.cursors.length → session.cursors[i]? = some .fresh)
    (hi : i < (session.act step).2.cursors.length) :
    (session.act step).2.cursors[i]? = some .fresh := by
  cases step with
  | enter | close | sleep | collect => exact h hi
  | iterate =>
    have hi : i < (session.cursors ++ [Cursor.fresh]).length := hi
    show (session.cursors ++ [.fresh])[i]? = some .fresh
    rw [List.length_append, List.length_singleton] at hi
    rcases Nat.lt_succ_iff_lt_or_eq.1 hi with hless | heq
    · rw [List.getElem?_append_left hless]
      exact h hless
    · rw [heq, List.getElem?_concat_length]
  | next j =>
    have hij : j ≠ i := fun heq => hnext (congrArg Browse.Step.next heq)
    have hi : i < (session.move j).2.cursors.length := hi
    show (session.move j).2.cursors[i]? = some .fresh
    cases hfound : session.cursors[j]? with
    | none =>
      rw [move_of_none hfound] at hi ⊢
      exact h hi
    | some found =>
      rw [move_of_some hfound] at hi ⊢
      rw [List.getElem?_set_ne hij]
      exact h (List.length_set ▸ hi)
  | stop j =>
    have hij : j ≠ i := fun heq => hstop (congrArg Browse.Step.stop heq)
    have hi : i < (session.cursors.set j .done).length := hi
    show (session.cursors.set j .done)[i]? = some .fresh
    rw [List.getElem?_set_ne hij]
    exact h (List.length_set ▸ hi)

theorem fresh_run (network : Network) (name : SocketName) (limits : Limits) {i : Nat}
    (hnext : .next i ∉ steps) (hstop : .stop i ∉ steps)
    (hi : i < ((start network name limits).run steps).cursors.length) :
    ((start network name limits).run steps).cursors[i]? = some .fresh := by
  induction steps using List.reverseRecOn with
  | nil => cases hi
  | append_singleton steps last ih =>
    rw [List.mem_append, not_or] at hnext hstop
    rw [run_concat] at hi ⊢
    refine fresh_act ?_ ?_ (ih hnext.1 hstop.1) hi
    · exact fun heq => hnext.2 (List.mem_singleton.2 heq.symm)
    · exact fun heq => hstop.2 (List.mem_singleton.2 heq.symm)

/-- Every iteration is refused, and nothing comes of it but that its cursor is done. -/
structure Refuses (session : Session) : Prop where
  next : ∀ {i : Nat}, session.cursors[i]? = some .fresh → ∃ fault,
    session.act (.next i) =
      (.error (.misuse fault), { session with cursors := session.cursors.set i .done })
  collect : ∃ fault, session.act .collect = (.error (.misuse fault), session)

/-- No iteration is refused. -/
structure Admits (session : Session) : Prop where
  next : ∀ {i : Nat}, session.cursors[i]? = some .fresh → ∀ fault,
    (session.act (.next i)).1 ≠ .error (.misuse fault)
  collect : ∀ fault, (session.act .collect).1 ≠ .error (.misuse fault)

theorem refuses_of_not_isReady (h : ¬ session.browse.IsReady) : session.Refuses := by
  constructor
  · intro i hfresh
    obtain ⟨fault, hnext⟩ := Browse.next_fresh_of_not_isReady h
    refine ⟨fault, ?_⟩
    show session.move i = _
    rw [move_of_some hfresh, hnext]
    rfl
  · obtain ⟨fault, hcollect⟩ := Browse.collect_of_not_isReady h
    refine ⟨fault, ?_⟩
    rw [act, hcollect]

theorem IsSound.admits (hsound : session.IsSound P) (hready : session.browse.IsReady) :
    session.Admits := by
  constructor
  · intro i hfresh fault
    have hnext := hready.next_ne_misuse hsound.browse fault
    show (session.move i).1 ≠ _
    rw [move_of_some hfresh]
    cases hresult : (session.browse.next .fresh).1 with
    | ok found =>
      intro hmisuse
      cases hmisuse
    | error failure =>
      rw [hresult] at hnext
      intro hmisuse
      exact hnext (congrArg Except.error (Except.error.inj hmisuse))
  · intro fault
    have hiterate := hready.iterate_ne_misuse hsound.browse fault
    show session.browse.collect.1 ≠ _
    rw [Browse.collect_eq]
    cases hfailure : session.browse.iterate.failure with
    | none =>
      intro hmisuse
      cases hmisuse
    | some failure =>
      rw [hfailure] at hiterate
      intro hmisuse
      exact hiterate (congrArg some (Except.error.inj hmisuse))

/-- Whatever is done with a browse, all answers go to one cursor or to one collection. An iteration
is admitted in the state of the question, and refused without a trace in any other. That state is
gone once an iteration has begun or the browse was closed, and not there before the browse is
entered. To enter a browse that is not idle changes nothing. And one that is idle is as if nothing
had been tried with it: it can be entered, and then iterated. -/
theorem iterates_once (network : Network) (name : SocketName) (limits : Limits)
    (steps : List Browse.Step) :
    let origin := start network name limits
    let session := origin.run steps
    (origin.takers steps = [.collect] ∨ ∃ i, ∀ taker ∈ origin.takers steps, taker = .next i) ∧
      (∀ i < session.cursors.length, .next i ∉ steps → .stop i ∉ steps →
        session.cursors[i]? = some .fresh) ∧
      (origin.takers steps ≠ [] ∨ .collecting ∈ session.history ∨ .close ∈ steps ∨
        .enter ∉ steps → session.browse.state ≠ .requestSent) ∧
      (session.browse.state ≠ .requestSent → session.Refuses) ∧
      (session.browse.state = .requestSent → session.Admits) ∧
      (session.browse.state ≠ .idle → ∃ fault,
        session.act .enter = (.error (.misuse fault), session)) ∧
      (session.browse.state = .idle →
        session.browse = (origin.run (steps.filter (·.isSleep))).browse ∧
          ((session.act .enter).1 = .ok [] →
            (session.act .enter).2.browse.state = .requestSent)) := by
  intro origin session
  have hstart : origin.IsSound fun _ => True :=
    isSound_start (fun _ _ _ _ _ => trivial) name limits
  have hunopened := (balances_start network name limits).unopened
  have hsound := hstart.run steps
  refine ⟨hstart.takers_cases hunopened rfl steps, ?_, ?_, ?_, ?_, ?_, ?_⟩
  · exact fun i hi hnext hstop => fresh_run network name limits hnext hstop hi
  · intro hbarred hsent
    rcases hbarred with htaken | hcollecting | hclose | henter
    · have hready := hsound.browse.isReady hsent
      exact htaken (hstart.takers_eq_nil hunopened hready.isIterated)
    · exact not_mem_history_collecting network name limits hsent hcollecting
    · have hterminal := origin.isTerminal_run_of_close hclose
      rw [hsent] at hterminal
      cases hterminal
    · cases state_run_of_not_enter henter hsent
  · exact fun hstate => refuses_of_not_isReady fun hready => hstate hready.state
  · exact fun hsent => hsound.admits (hsound.browse.isReady hsent)
  · intro hstate
    refine ⟨.alreadyStarted session.browse.text, ?_⟩
    rw [act, Browse.enter_of_ne_idle hstate]
    rfl
  · intro hidle
    refine ⟨hstart.browse_run_of_idle hidle, ?_⟩
    intro hentered
    refine Browse.state_enter_of_ok hidle ?_
    have hentered : session.browse.enter.1.map (fun _ => []) = .ok [] := hentered
    cases hresult : session.browse.enter.1 with
    | ok => rfl
    | error failure =>
      rw [hresult] at hentered
      cases hentered

end Session

end SqlResolution
