import SqlResolution.Proofs.Browse.Sound

/-!
# Everything that can be done with one browse

A session is one browse, from its making, and whatever is then done with it in whatever
order: it may be entered, left, closed, slept over and collected as often as one likes, and
any number of cursors may be made, moved and stopped.

A browse that is sound stays so. And of all the cursors of a session at most one is on its
way: none before the iteration has begun, and none after the browse has failed.
-/

namespace SqlResolution

/-- Something that is done with a browse or with one of its cursors. To leave the browse is to close
it, and so is to close it and wait for that. -/
inductive Browse.Step where
  | enter
  | close
  | sleep (length : Span)
  | collect
  | iterate
  | next (cursor : Nat)
  | stop (cursor : Nat)
  deriving DecidableEq, Repr

/-- What becomes of a browse in a step. -/
inductive Browse.Changes (browse : Browse) : Step → Browse → Prop
  | entered : Changes browse .enter browse.enter.2
  | closed : Changes browse .close browse.close
  | rested {step : Step} {after : Browse} (h : Rests browse after) : Changes browse step after
  | ended {step : Step} {failure : Option Failure} {after : Browse}
    (h : Ends browse failure after) : Changes browse step after
  | begun {step : Step} {after : Browse} (hready : browse.IsReady) (h : Rests browse.begun after) :
    Changes browse step after
  | begunEnded {step : Step} {failure : Option Failure} {after : Browse} (hready : browse.IsReady)
    (h : Ends browse.begun failure after) : Changes browse step after

namespace Browse.Changes

variable {browse after : Browse} {step : Browse.Step}

/-- An iteration that has begun has begun for good. -/
theorem isIterated (h : browse.Changes step after) (hafter : after.isIterated = false) :
    browse.isIterated = false := by
  cases h with
  | entered => rwa [isIterated_enter] at hafter
  | closed => rwa [isIterated_close] at hafter
  | rested h => rwa [h.isIterated] at hafter
  | ended h => rwa [h.isIterated] at hafter
  | begun hready h =>
    rw [h.isIterated] at hafter
    cases hafter
  | begunEnded hready h =>
    rw [h.isIterated] at hafter
    cases hafter

/-- A step leaves the state as it is, or ends the browse, or the question is sent, or an iteration
begins. -/
theorem state_cases (h : browse.Changes step after) :
    after.state = browse.state ∨ after.state.isTerminal = true ∨
      step = .enter ∧ browse.state = .idle ∧ after.state = .requestSent ∨
      browse.state = .requestSent ∧ after.state = .collecting := by
  cases h with
  | entered =>
    by_cases hidle : browse.state = .idle
    · rcases state_enter_of_idle hidle with hsent | hterminal
      · exact .inr (.inr (.inl ⟨rfl, hidle, hsent⟩))
      · exact .inr (.inl hterminal)
    · rw [enter_of_ne_idle hidle]
      exact .inl rfl
  | closed => exact .inr (.inl (isTerminal_close browse))
  | rested h => exact .inl h.state
  | ended h => exact h.state_cases.imp_right .inl
  | begun hready h => exact .inr (.inr (.inr ⟨hready.state, h.state⟩))
  | begunEnded hready h =>
    rcases h.state_cases with hcollecting | hterminal
    · exact .inr (.inr (.inr ⟨hready.state, hcollecting⟩))
    · exact .inr (.inl hterminal)

/-- Nothing leads back to idle. -/
theorem state_of_idle (h : browse.Changes step after) (hidle : after.state = .idle) :
    browse.state = .idle := by
  have hcases := h.state_cases
  rw [hidle] at hcases
  rcases hcases with hsame | hterminal | ⟨-, -, hsent⟩ | ⟨-, hcollecting⟩
  · exact hsame.symm
  · cases hterminal
  · cases hsent
  · cases hcollecting

/-- Nothing but to enter a browse leads to the question. -/
theorem state_of_requestSent (h : browse.Changes step after)
    (hsent : after.state = .requestSent) (hstep : step ≠ .enter) : browse.state = .requestSent := by
  have hcases := h.state_cases
  rw [hsent] at hcases
  rcases hcases with hsame | hterminal | ⟨henter, -⟩ | ⟨-, hcollecting⟩
  · exact hsame.symm
  · cases hterminal
  · exact absurd henter hstep
  · cases hcollecting

/-- What has ended has ended for good. -/
theorem isTerminal (h : browse.Changes step after) (hterminal : browse.state.isTerminal = true) :
    after.state.isTerminal = true := by
  rcases h.state_cases with hsame | hafter | ⟨-, hidle, -⟩ | ⟨hsent, -⟩
  · exact hsame ▸ hterminal
  · exact hafter
  · rw [hidle] at hterminal
    cases hterminal
  · rw [hsent] at hterminal
    cases hterminal

theorem asked (h : browse.Changes step after) : after.asked = browse.asked := by
  cases h with
  | entered => exact asked_enter browse
  | closed => exact asked_close browse
  | rested h => exact h.asked
  | ended h => exact h.asked
  | begun hready h => exact h.asked
  | begunEnded hready h => exact h.asked

end Browse.Changes

/-- A browse with the cursors that were made of it. -/
structure Session where
  browse : Browse
  cursors : List Cursor

namespace Session

open Browse (Ends Rests Fetches)

variable {P : Datagram → Prop} {session : Session}

/-- A browse that nothing has been done with. -/
def start (network : Network) (name : SocketName) (limits : Limits) : Session :=
  ⟨.new (.new network) name limits, []⟩

def move (session : Session) (cursor : Nat) : Except Failure (List Instance) × Session :=
  match session.cursors[cursor]? with
  | none => (.ok [], session)
  | some found =>
    let (result, moved, browse) := session.browse.next found
    (result.map Option.toList, ⟨browse, session.cursors.set cursor moved⟩)

/-- Takes a step. The result is what it hands out. -/
def act (session : Session) : Browse.Step → Except Failure (List Instance) × Session
  | .enter =>
    let (result, browse) := session.browse.enter
    (result.map fun _ => [], { session with browse })
  | .close => (.ok [], { session with browse := session.browse.close })
  | .sleep length => (.ok [], { session with browse := session.browse.sleep length })
  | .collect =>
    let (result, browse) := session.browse.collect
    (result, { session with browse })
  | .iterate => (.ok [], { session with cursors := session.cursors ++ [.fresh] })
  | .next cursor => session.move cursor
  | .stop cursor => (.ok [], { session with cursors := session.cursors.set cursor .done })

def run (session : Session) (steps : List Browse.Step) : Session :=
  steps.foldl (fun session step => (session.act step).2) session

/-- How many cursors are on their way. -/
def running (session : Session) : Nat :=
  session.cursors.countP (·.isRunning)

/-- What is true of every session. -/
structure IsSound (P : Datagram → Prop) (session : Session) : Prop where
  browse : session.browse.IsSound P
  running : session.running ≤
    (session.browse.isIterated && session.browse.state ≠ .failed).toNat

theorem isSound_start {network : Network} (h : network.EachReply P) (name : SocketName)
    (limits : Limits) : (start network name limits).IsSound P :=
  ⟨Browse.isSound_new (Timeline.isSound_new h) rfl name limits, Nat.zero_le _⟩

/-- A network with one host, which sends all its answers at once. -/
def promptNetwork (answers : List Answer) : Network :=
  { Network.silent ⟨[], none, none⟩ with
    replies := [("10.0.0.1", answers.map fun answer => ⟨0, answer⟩)] }

/-- An answer that tells of one instance. -/
def oneInstance : Answer :=
  .datagram none ([0x05, 0x10, 0x00] ++ Text.Utf8.encode "InstanceName;A;;")

def startPrompt (answers : List Answer) : Session :=
  start (promptNetwork answers) ⟨"10.0.0.1", .value 1434⟩ .default

/-! ## Cursors -/

theorem countP_set_le {cursors : List Cursor} {i : Nat} {found : Cursor}
    (hfound : cursors[i]? = some found) (moved : Cursor) :
    (cursors.set i moved).countP (·.isRunning) ≤
      cursors.countP (·.isRunning) - found.isRunning.toNat + moved.isRunning.toNat := by
  obtain ⟨hi, rfl⟩ := List.getElem?_eq_some_iff.1 hfound
  rw [List.countP_set hi]
  cases cursors[i].isRunning <;> cases moved.isRunning <;> exact Nat.le_refl _

theorem isRunning_le_countP {cursors : List Cursor} {i : Nat} {found : Cursor}
    (hfound : cursors[i]? = some found) :
    found.isRunning.toNat ≤ cursors.countP (·.isRunning) := by
  cases hrunning : found.isRunning with
  | false => exact Nat.zero_le _
  | true => exact List.countP_pos_iff.2 ⟨found, List.mem_of_getElem? hfound, hrunning⟩

theorem countP_set_done_le (cursors : List Cursor) (i : Nat) :
    (cursors.set i .done).countP (·.isRunning) ≤ cursors.countP (·.isRunning) := by
  cases hfound : cursors[i]? with
  | none =>
    rw [List.set_eq_of_length_le (List.getElem?_eq_none_iff.1 hfound)]
  | some found => exact Nat.le_trans (countP_set_le hfound .done) (Nat.sub_le _ _)

/-! ## Steps -/

theorem IsSound.running_le_one (h : session.IsSound P) : session.running ≤ 1 :=
  Nat.le_trans h.running (Bool.toNat_le _)

theorem IsSound.running_eq_zero (h : session.IsSound P)
    (hiterated : session.browse.isIterated = false) : session.running = 0 := by
  have hrunning := h.running
  rw [hiterated, Bool.false_and] at hrunning
  exact Nat.le_zero.1 hrunning

/-- A step of the browse alone, which keeps it sound, begins no iteration, and fails the browse only
where none has begun. -/
theorem IsSound.with_browse (h : session.IsSound P) {browse : Browse} (hsound : browse.IsSound P)
    (hkeeps : session.browse.isIterated = true → session.browse.state ≠ .failed →
      browse.isIterated = true ∧ browse.state ≠ .failed) :
    { session with browse }.IsSound P := by
  refine ⟨hsound, ?_⟩
  have hrunning := h.running
  cases hiterated : session.browse.isIterated with
  | false =>
    rw [hiterated, Bool.false_and] at hrunning
    exact Nat.le_trans hrunning (Nat.zero_le _)
  | true =>
    by_cases hfailed : session.browse.state = .failed
    · rw [hfailed] at hrunning
      simp only [ne_eq, not_true_eq_false, decide_false, Bool.and_false, Bool.toNat_false]
        at hrunning
      exact Nat.le_trans hrunning (Nat.zero_le _)
    · obtain ⟨hiter, hstate⟩ := hkeeps hiterated hfailed
      show session.running ≤ _
      simpa [hiterated, hfailed, hiter, hstate] using hrunning

theorem IsSound.move (h : session.IsSound P) (i : Nat) : (session.move i).2.IsSound P := by
  rw [Session.move]
  split
  · exact h
  next found hfound =>
    have hmoved := Browse.moved_next session.browse found
    show (Session.mk (session.browse.next found).2.2
      (session.cursors.set i (session.browse.next found).2.1)).IsSound P
    generalize (session.browse.next found).2.2 = after at hmoved
    generalize (session.browse.next found).2.1 = moved at hmoved
    have hset := countP_set_le hfound moved
    have hin := isRunning_le_countP hfound
    have hone := h.running_le_one
    rw [Session.running] at hone
    cases hmoved with
    | rested _ _ hrests hrunning =>
      refine ⟨h.browse.rests hrests, ?_⟩
      rw [hrests.isIterated, hrests.state]
      refine Nat.le_trans ?_ h.running
      show (session.cursors.set i moved).countP (·.isRunning) ≤ session.cursors.countP _
      rw [hrunning] at hset
      omega
    | ended endsAt _ hends hcursor =>
      refine ⟨h.browse.ends hends, Nat.le_trans ?_ (Nat.zero_le _)⟩
      show (session.cursors.set i .done).countP (·.isRunning) ≤ 0
      rw [hcursor] at hset
      change _ ≤ _ - 1 + 0 at hset
      omega
    | begun _ _ hready hrests hfresh =>
      refine ⟨(h.browse.begun hready).rests hrests, ?_⟩
      -- Before an iteration begins no cursor is on its way: this one is the first.
      have hnone := h.running_eq_zero hready.isIterated
      rw [Session.running] at hnone
      rw [hrests.isIterated, hrests.state]
      show (session.cursors.set i moved).countP (·.isRunning) ≤ 1
      have hmoved := Bool.toNat_le moved.isRunning
      omega
    | begunEnded failure _ hready hends hfresh =>
      have hnone := h.running_eq_zero hready.isIterated
      rw [Session.running] at hnone
      refine ⟨(h.browse.begun hready).ends hends, Nat.le_trans ?_ (Nat.zero_le _)⟩
      show (session.cursors.set i .done).countP (·.isRunning) ≤ 0
      change _ ≤ _ - _ + 0 at hset
      omega

theorem IsSound.collect (h : session.IsSound P) :
    { session with browse := session.browse.collect.2 }.IsSound P := by
  rw [Browse.collect_eq]
  have hiterates := Browse.iterates session.browse
  dsimp only
  generalize session.browse.iterate.failure = outcome at hiterates
  generalize session.browse.iterate.browse = after at hiterates
  cases hiterates with
  | refused fault => exact h
  | ended failure _ hready hends =>
    have hnone := h.running_eq_zero hready.isIterated
    refine ⟨(h.browse.begun hready).ends hends, Nat.le_trans ?_ (Nat.zero_le _)⟩
    exact Nat.le_of_eq hnone

theorem IsSound.act (h : session.IsSound P) (step : Browse.Step) :
    (session.act step).2.IsSound P := by
  cases step with
  | enter =>
    have hkeeps : session.browse.isIterated = true → session.browse.state ≠ .failed →
        session.browse.enter.2.isIterated = true ∧ session.browse.enter.2.state ≠ .failed := by
      intro hiterated hfailed
      have hidle : session.browse.state ≠ .idle := by
        intro hidle
        have hfits := h.browse.fits
        rw [Browse.Fits, hidle] at hfits
        rw [hfits.2.1] at hiterated
        cases hiterated
      rw [Browse.enter_of_ne_idle hidle]
      exact ⟨hiterated, hfailed⟩
    exact h.with_browse h.browse.enter hkeeps
  | close =>
    refine h.with_browse h.browse.close ?_
    intro hiterated hfailed
    rw [Browse.isIterated_close, Browse.state_close]
    refine ⟨hiterated, ?_⟩
    split
    · exact hfailed
    · intro hcompleted
      cases hcompleted
  | sleep length =>
    have hrests : Rests session.browse (session.browse.sleep length) :=
      ⟨Timeline.moves_sleep _ _, rfl, rfl, rfl, rfl, rfl⟩
    exact h.with_browse (h.browse.rests hrests) fun hiterated hfailed => ⟨hiterated, hfailed⟩
  | collect => exact h.collect
  | iterate =>
    refine ⟨h.browse, ?_⟩
    show (session.cursors ++ [Cursor.fresh]).countP (·.isRunning) ≤ _
    rw [List.countP_append]
    exact h.running
  | next i => exact h.move i
  | stop i => exact ⟨h.browse, Nat.le_trans (countP_set_done_le _ _) h.running⟩

/-- What a step comes to for the browse alone. -/
theorem changes_act (session : Session) (step : Browse.Step) :
    session.browse.Changes step (session.act step).2.browse := by
  cases step with
  | enter => exact .entered
  | close => exact .closed
  | sleep length => exact .rested ⟨Timeline.moves_sleep _ _, rfl, rfl, rfl, rfl, rfl⟩
  | collect =>
    have hiterates := Browse.iterates session.browse
    show session.browse.Changes .collect session.browse.collect.2
    rw [Browse.collect_eq]
    dsimp only
    generalize session.browse.iterate.failure = outcome at hiterates
    generalize session.browse.iterate.browse = after at hiterates
    cases hiterates with
    | refused fault => exact .rested (.refl _)
    | ended failure _ hready hends => exact .begunEnded hready hends
  | iterate => exact .rested (.refl _)
  | next i =>
    show session.browse.Changes (.next i) (session.move i).2.browse
    rw [Session.move]
    split
    · exact .rested (.refl _)
    next found hfound =>
      have hmoved := Browse.moved_next session.browse found
      show session.browse.Changes (.next i) (session.browse.next found).2.2
      generalize (session.browse.next found).2.2 = after at hmoved
      generalize (session.browse.next found).2.1 = moved at hmoved
      cases hmoved with
      | rested _ _ hrests hrunning => exact .rested hrests
      | ended endsAt _ hends hcursor => exact .ended hends
      | begun _ _ hready hrests hfresh => exact .begun hready hrests
      | begunEnded failure _ hready hends hfresh => exact .begunEnded hready hends
  | stop i => exact .rested (.refl _)

/-- Before an iteration has begun no cursor is on its way. -/
theorem IsSound.not_isRunning (h : session.IsSound P)
    (hiterated : session.browse.isIterated = false) {i : Nat} {found : Cursor}
    (hfound : session.cursors[i]? = some found) : ¬ found.isRunning = true := by
  intro hrunning
  have hle := isRunning_le_countP hfound
  have hnone : session.cursors.countP (·.isRunning) = 0 := h.running_eq_zero hiterated
  rw [hnone, hrunning] at hle
  cases hle

theorem IsSound.isIterated_of_idle (h : session.IsSound P) (hidle : session.browse.state = .idle) :
    session.browse.isIterated = false := by
  have hfits := h.browse.fits
  rw [Browse.Fits, hidle] at hfits
  exact hfits.2.1

/-- A browse that is still idle after a step is as it was, if the step was not to sleep. -/
theorem IsSound.browse_act_of_idle (h : session.IsSound P) {step : Browse.Step}
    (hidle : (session.act step).2.browse.state = .idle) :
    (session.act step).2.browse = session.browse ∨ ∃ length, step = .sleep length := by
  have hbefore : session.browse.state = .idle := (changes_act session step).state_of_idle hidle
  have hnotReady : ¬ session.browse.IsReady := by
    intro hready
    rw [hready.state] at hbefore
    cases hbefore
  cases step with
  | enter =>
    have hcases := Browse.state_enter_of_idle hbefore
    have hidle : session.browse.enter.2.state = .idle := hidle
    rw [hidle] at hcases
    rcases hcases with hsent | hterminal
    · cases hsent
    · cases hterminal
  | close =>
    have hterminal := Browse.isTerminal_close session.browse
    have hidle : session.browse.close.state = .idle := hidle
    rw [hidle] at hterminal
    cases hterminal
  | sleep length => exact .inr ⟨length, rfl⟩
  | collect =>
    obtain ⟨fault, hcollect⟩ := Browse.collect_of_not_isReady hnotReady
    exact .inl (congrArg Prod.snd hcollect)
  | iterate => exact .inl rfl
  | next i =>
    left
    show (session.move i).2.browse = session.browse
    rw [Session.move]
    split
    · rfl
    next found hfound =>
      have hrunning := h.not_isRunning (h.isIterated_of_idle hbefore) hfound
      cases found with
      | fresh =>
        obtain ⟨fault, hnext⟩ := Browse.next_fresh_of_not_isReady hnotReady
        rw [hnext]
      | running endsAt instances => exact absurd rfl hrunning
      | done => rfl
  | stop i => exact .inl rfl

/-- No step changes what was asked for. -/
theorem asked_act (session : Session) (step : Browse.Step) :
    (session.act step).2.browse.asked = session.browse.asked :=
  (changes_act session step).asked

theorem asked_run (session : Session) (steps : List Browse.Step) :
    (session.run steps).browse.asked = session.browse.asked := by
  induction steps generalizing session with
  | nil => rfl
  | cons step later ih => exact (ih (session.act step).2).trans (asked_act session step)

/-- Whatever is done with a browse, it stays sound. -/
theorem IsSound.run (h : session.IsSound P) (steps : List Browse.Step) :
    (session.run steps).IsSound P := by
  induction steps generalizing session with
  | nil => exact h
  | cons step later ih => exact ih (h.act step)

end Session

end SqlResolution
