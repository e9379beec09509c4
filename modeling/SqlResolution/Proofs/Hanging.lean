import SqlResolution.Proofs.Browse.Iterating
import SqlResolution.Proofs.Browse.Session
import SqlResolution.Proofs.Collection.Bounded
import SqlResolution.Proofs.Lookup

/-!
# Waits that never end

Who waits without a limit waits for ever if nothing comes. Then there is no outcome, and what a
timeline shows of it is only how things stand once nothing comes any more. Here it is said of each
operation when it hangs like that. It does not hang if its waits have limits; and so it is just the
timeouts that decide whether a program can hang at all.

A timeout that is no number is a limit nevertheless. It has no place among the times at which
something is to come, and so it is behind them all; but once nothing is to come, the wait is over.
-/

namespace SqlResolution

namespace Timeline

variable {t after : Timeline} {limit : Option Instant} {time : Instant}

/-! ## One wait -/

/-- When a wait is over or cancelled, whichever is sooner, if it is ever. -/
def giveUpTime? (t : Timeline) (limit : Option Instant) : Option Instant :=
  match t.cancelAt, limit with
  | some cancel, some time => some (min cancel time)
  | some cancel, none => some cancel
  | none, limit => limit

theorem giveUp_eq {t : Timeline} (h : t.giveUpTime? limit = some time) (agenda : List Delivery) :
    t.giveUp limit agenda =
      if t.cancelAt.any (·.isDue (t.instantOf time)) then
        (.cancelled, (t.cancelled (t.instantOf time)).resume agenda)
      else (.timeUp, (t.networkAt (t.instantOf time)).resume agenda) := by
  have hreached : time.isDue (t.instantOf time) = true := by
    rw [Timeline.instantOf]
    split
    next hdue => exact hdue
    next => exact Instant.isDue_of_le (le_refl _)
  unfold giveUp
  unfold giveUpTime? at h
  split at h
  next cancel bound hcancel =>
    cases h
    rw [hcancel]
    rfl
  next cancel hcancel =>
    cases h
    rw [hcancel, Option.any_some, if_pos hreached]
  next hcancel =>
    subst h
    rw [hcancel]
    rfl

theorem giveUp_of_none {t : Timeline} (h : t.giveUpTime? limit = none) (agenda : List Delivery) :
    (t.giveUp limit agenda).1 = .timeUp := by
  unfold giveUpTime? at h
  split at h
  next => cases h
  next => cases h
  next hcancel =>
    subst h
    unfold giveUp
    rw [hcancel]

theorem giveUp_ne_ready (t : Timeline) (limit : Option Instant) (agenda : List Delivery) :
    (t.giveUp limit agenda).1 ≠ .ready := by
  cases htime : t.giveUpTime? limit with
  | none =>
    rw [giveUp_of_none htime]
    nofun
  | some time =>
    rw [giveUp_eq htime]
    split <;> nofun

/-- Nothing ends a wait, neither a limit nor a cancellation nor anything that comes. -/
def hangs (t : Timeline) (limit : Option Instant) : Bool :=
  (t.giveUpTime? limit).isNone && (t.wait limit).1 ≠ .ready

theorem hangs_eq_false_iff {t : Timeline} : t.hangs limit = false ↔
    (t.giveUpTime? limit).isSome = true ∨ (t.wait limit).1 = .ready := by
  rw [hangs, Bool.and_eq_false_iff, Option.isNone_eq_false_iff, decide_eq_false_iff_not, not_not]

theorem hangs_some (t : Timeline) (time : Instant) : t.hangs (some time) = false := by
  refine hangs_eq_false_iff.2 (.inl ?_)
  unfold giveUpTime?
  split <;> rfl

theorem hangs_of_ready (h : t.isReady = true) (limit : Option Instant) : t.hangs limit = false := by
  rw [hangs_eq_false_iff, wait, waitFrom_of_ready limit t.agenda h]
  exact .inr rfl

/-- To await a datagram hangs. -/
def awaitHangs (t : Timeline) (length : Option Span) : Bool :=
  !isOver length && t.deliverCalled.hangs (length.map t.deliverCalled.now.after)

/-- To receive a datagram hangs. -/
def receiveHangs (t : Timeline) (length : Setting (Option Span)) : Bool :=
  match t.take with
  | (some _, _) => false
  | (none, t) =>
    match length with
    | .value length => t.awaitHangs length
    | .blank => false

theorem receiveHangs_of_isSome (h : t.socket.take.1.isSome = true)
    (length : Setting (Option Span)) : t.receiveHangs length = false := by
  obtain ⟨result, hresult⟩ := Option.isSome_iff_exists.1 h
  rw [receiveHangs]
  split
  · rfl
  next htake =>
    have hnone : t.socket.take.1 = none := congrArg Prod.fst htake
    rw [hresult] at hnone
    cases hnone

theorem receiveHangs_eq_false {length : Setting (Option Span)} (h : length ≠ .value none) :
    t.receiveHangs length = false := by
  rw [receiveHangs]
  split
  · rfl
  · split
    next length =>
      obtain ⟨span, rfl⟩ := Option.ne_none_iff_exists'.1 fun hnone => h (hnone ▸ rfl)
      rw [awaitHangs, Option.map_some, hangs_some, Bool.and_false]
    · rfl

/-- To receive a datagram hangs, for a length of time that a timeout sets. -/
def timedHangs (t : Timeline) (timeout : Timeout) (length : Option Span) : Bool :=
  timeout.IsNumber && t.receiveHangs (.value length)

theorem timedHangs_of_isNumber {timeout : Timeout} (h : timeout.IsNumber) (t : Timeline)
    (length : Option Span) : t.timedHangs timeout length = t.receiveHangs (.value length) := by
  rw [timedHangs, decide_eq_true h, Bool.true_and]

theorem timedHangs_eq_false {timeout : Timeout} {length : Option Span}
    (h : timeout.IsNumber → length ≠ none) (t : Timeline) :
    t.timedHangs timeout length = false := by
  by_cases hnumber : timeout.IsNumber
  · rw [timedHangs_of_isNumber hnumber]
    exact receiveHangs_eq_false fun hnone => h hnumber (Setting.value.inj hnone)
  · rw [timedHangs, decide_eq_false hnumber, Bool.false_and]

end Timeline

/-! ## Many waits -/

namespace Timeline

variable {t after : Timeline} {limits : Limits} {endsAt : Option Instant}

/-- To await the next of many answers hangs. -/
def nextHangs (t : Timeline) (limits : Limits) (endsAt : Option Instant) : Bool :=
  let remaining := endsAt.map (·.since t.now)
  if isOver remaining then false
  else
    match limits.inactivity with
    | .value timeout => t.timedHangs timeout (timeout.within remaining)
    | .blank => false

/-- To await many answers hangs, at once or after some of them. -/
def manyHangs (limits : Limits) (endsAt : Option Instant) (t : Timeline) : Bool :=
  t.nextHangs limits endsAt ||
    match h : t.awaitNext limits endsAt with
    | (.ok (some _), after) =>
      have : after.pending < t.pending := pending_awaitNext_of_some h
      manyHangs limits endsAt after
    | _ => false
termination_by t.pending

theorem manyHangs_of_nextHangs (h : t.nextHangs limits endsAt = true) :
    t.manyHangs limits endsAt = true := by
  rw [manyHangs, h, Bool.true_or]

theorem manyHangs_of_error {failure : Failure}
    (h : t.awaitNext limits endsAt = (.error failure, after)) :
    t.manyHangs limits endsAt = t.nextHangs limits endsAt := by
  rw [manyHangs]
  split <;> simp_all

theorem manyHangs_of_none (h : t.awaitNext limits endsAt = (.ok none, after)) :
    t.manyHangs limits endsAt = t.nextHangs limits endsAt := by
  rw [manyHangs]
  split <;> simp_all

theorem manyHangs_of_some {datagram : Datagram}
    (h : t.awaitNext limits endsAt = (.ok (some datagram), after)) :
    t.manyHangs limits endsAt = (t.nextHangs limits endsAt || after.manyHangs limits endsAt) := by
  rw [manyHangs]
  split <;> simp_all

/-- To await one answer hangs. -/
def oneHangs (t : Timeline) (response : Setting Timeout) : Bool :=
  match response with
  | .value timeout => t.timedHangs timeout timeout.length
  | .blank => false

/-- To take the answers of an exchange hangs. -/
def gatherHangs (t : Timeline) (mode : Mode) (limits : Limits) : Bool :=
  match mode with
  | .one => t.oneHangs limits.response
  | .many =>
    match t.endOf limits.total with
    | .ok endsAt => t.manyHangs limits endsAt
    | .error _ => false

def askHangs (t : Timeline) (data : List UInt8) (mode : Mode) (limits : Limits) : Bool :=
  match t.send data with
  | (.error _, _) => false
  | (.ok (), t) => t.gatherHangs mode limits

/-- A whole exchange hangs. -/
def collectHangs (t : Timeline) (data : List UInt8) (mode : Mode) (limits : Limits) : Bool :=
  match t.openSocket with
  | (.error _, _) => false
  | (.ok (), t) => t.askHangs data mode limits

/-- What a socket is told to do hangs. -/
def obeyHangs (t : Timeline) : Socket.Command → Bool
  | .step (.receive length) => t.receiveHangs length
  | .gather mode limits => t.gatherHangs mode limits
  | .next limits endsAt => t.nextHangs limits endsAt
  | _ => false

end Timeline

namespace Browse

variable {browse after : Browse} {endsAt : Option Instant}

/-- To take one answer hangs. -/
def advanceHangs (browse : Browse) (endsAt : Option Instant) : Bool :=
  browse.timeline.nextHangs browse.limits endsAt

def fetchHangs (endsAt : Option Instant) (browse : Browse) : Bool :=
  browse.advanceHangs endsAt ||
    match h : browse.advance endsAt with
    | (.ok (some []), after) =>
      have : after.timeline.pending < browse.timeline.pending := pending_advance_of_some h
      fetchHangs endsAt after
    | _ => false
termination_by browse.timeline.pending

/-- To move a cursor hangs. -/
def nextHangs (browse : Browse) : Cursor → Bool
  | .running endsAt [] => browse.fetchHangs endsAt
  | .fresh =>
    match browse.begin with
    | (.error _, _) => false
    | (.ok endsAt, browse) => browse.fetchHangs endsAt
  | _ => false

def drainHangs (endsAt : Option Instant) (browse : Browse) : Bool :=
  browse.advanceHangs endsAt ||
    match h : browse.advance endsAt with
    | (.ok (some instances), after) =>
      have : after.timeline.pending < browse.timeline.pending := pending_advance_of_some h
      drainHangs endsAt (after.handOut instances.length)
    | _ => false
termination_by browse.timeline.pending

/-- To iterate the browse from the beginning to the end hangs. -/
def iterateHangs (browse : Browse) : Bool :=
  match browse.begin with
  | (.error _, _) => false
  | (.ok endsAt, browse) => browse.drainHangs endsAt

theorem fetchHangs_of_advanceHangs (h : browse.advanceHangs endsAt = true) :
    browse.fetchHangs endsAt = true := by
  rw [fetchHangs, h, Bool.true_or]

theorem fetchHangs_of_last (h : (browse.advance endsAt).1 ≠ .ok (some [])) :
    browse.fetchHangs endsAt = browse.advanceHangs endsAt := by
  rw [fetchHangs]
  split
  next hadvance => exact absurd (congrArg Prod.fst hadvance) h
  next => exact Bool.or_false _

theorem fetchHangs_of_nil (h : browse.advance endsAt = (.ok (some []), after)) :
    browse.fetchHangs endsAt = (browse.advanceHangs endsAt || after.fetchHangs endsAt) := by
  rw [fetchHangs]
  split <;> simp_all

theorem drainHangs_of_advanceHangs (h : browse.advanceHangs endsAt = true) :
    browse.drainHangs endsAt = true := by
  rw [drainHangs, h, Bool.true_or]

theorem drainHangs_of_last (h : ∀ instances, (browse.advance endsAt).1 ≠ .ok (some instances)) :
    browse.drainHangs endsAt = browse.advanceHangs endsAt := by
  rw [drainHangs]
  split
  next hadvance => exact absurd (congrArg Prod.fst hadvance) (h _)
  next => exact Bool.or_false _

theorem drainHangs_of_some {instances : List Instance}
    (h : browse.advance endsAt = (.ok (some instances), after)) :
    browse.drainHangs endsAt =
      (browse.advanceHangs endsAt || (after.handOut instances.length).drainHangs endsAt) := by
  rw [drainHangs]
  split <;> simp_all

end Browse

/-- A step hangs. -/
def Session.hangs (session : Session) : Browse.Step → Bool
  | .collect => session.browse.iterateHangs
  | .next cursor => (session.cursors[cursor]?).any session.browse.nextHangs
  | _ => false

namespace Lookup

def awaitHangs (lookup : Lookup) : Bool :=
  lookup.awaiting.timeline.oneHangs lookup.response

def askHangs (lookup : Lookup) (data : List UInt8) : Bool :=
  match lookup.timeline.send data with
  | (.error _, _) => false
  | (.ok (), timeline) => { lookup with timeline }.awaitHangs

def exchangeHangs (lookup : Lookup) (data : List UInt8) : Bool :=
  match lookup.opening.openSocket with
  | (.error _, _) => false
  | (.ok (), timeline) => Lookup.askHangs { lookup with timeline } data

def answerHangs (lookup : Lookup) : Bool :=
  match lookup.request.encode with
  | .error _ => false
  | .ok data => lookup.exchangeHangs data

/-- To run the lookup hangs. -/
def runHangs (lookup : Lookup) : Bool :=
  lookup.state = .idle && lookup.answerHangs

theorem runHangs_of_idle {lookup : Lookup} (hidle : lookup.state = .idle) :
    lookup.runHangs = lookup.answerHangs := by
  rw [runHangs, decide_eq_true hidle, Bool.true_and]

end Lookup

/-! ## What has limits does not hang -/

/-- What is awaited for such a time is not awaited without end. -/
def Setting.WaitEnds (setting : Setting Timeout) : Prop :=
  ∀ timeout, setting = .value timeout → timeout.IsNumber → timeout.length ≠ none

/-- The next of many answers is not awaited without end. -/
def Limits.EachWaitEnds (limits : Limits) (endsAt : Option Instant) : Prop :=
  ∀ inactivity, limits.inactivity = .value inactivity → inactivity.IsNumber →
    inactivity.length ≠ none ∨ endsAt ≠ none

/-- Neither one answer is awaited without end nor many. -/
def Limits.WaitsEnd (limits : Limits) : Mode → Prop
  | .one => limits.response.WaitEnds
  | .many => ∀ total start, limits.total = .value total → limits.EachWaitEnds (total.deadline start)

/-- If a socket is told to wait, the wait has an end. -/
def Socket.Command.WaitsEnd : Socket.Command → Prop
  | step (.receive length) => length ≠ .value none
  | gather mode limits => limits.WaitsEnd mode
  | next limits endsAt => limits.EachWaitEnds endsAt
  | _ => True

theorem Timeout.within_ne_none {timeout : Timeout} {remaining : Option Span}
    (hnumber : timeout.IsNumber) (h : timeout.length ≠ none ∨ remaining ≠ none) :
    timeout.within remaining ≠ none := by
  rcases h with hlength | hremaining
  · obtain ⟨length, hlength⟩ := Option.ne_none_iff_exists'.1 hlength
    obtain ⟨shorter, hwithin, -⟩ := within_le_length hlength remaining
    rw [hwithin]
    nofun
  · obtain ⟨left, rfl⟩ := Option.ne_none_iff_exists'.1 hremaining
    obtain ⟨shorter, hwithin, -⟩ := within_le_remaining hnumber left
    rw [hwithin]
    nofun

namespace Timeline

variable {t : Timeline} {limits : Limits} {endsAt : Option Instant} {mode : Mode}

theorem nextHangs_eq_false (h : limits.EachWaitEnds endsAt) (t : Timeline) :
    t.nextHangs limits endsAt = false := by
  rw [nextHangs]
  split
  · rfl
  · split
    next inactivity hinactivity =>
      refine timedHangs_eq_false (fun hnumber => Timeout.within_ne_none hnumber ?_) t
      exact (h inactivity hinactivity hnumber).imp_right Option.map_eq_none_iff.not.2
    · rfl

theorem manyHangs_eq_false (h : limits.EachWaitEnds endsAt) (t : Timeline) :
    t.manyHangs limits endsAt = false := by
  fun_induction manyHangs limits endsAt t with
  | case1 t ih =>
    rw [nextHangs_eq_false h, Bool.false_or]
    split
    next datagram after hnext => exact ih datagram after hnext
    next => rfl

theorem oneHangs_eq_false {response : Setting Timeout} (h : response.WaitEnds)
    (t : Timeline) : t.oneHangs response = false := by
  cases response with
  | blank => rfl
  | value timeout => exact timedHangs_eq_false (h timeout rfl) t

theorem gatherHangs_eq_false (h : limits.WaitsEnd mode) (t : Timeline) :
    t.gatherHangs mode limits = false := by
  cases mode with
  | one => exact oneHangs_eq_false h t
  | many =>
    rw [gatherHangs]
    split
    next endsAt hends =>
      cases htotal : limits.total with
      | value total =>
        rw [htotal] at hends
        cases hends
        exact manyHangs_eq_false (h total _ htotal) t
      | blank =>
        rw [htotal] at hends
        cases hends
    · rfl

theorem obeyHangs_eq_false {command : Socket.Command} (h : command.WaitsEnd) (t : Timeline) :
    t.obeyHangs command = false := by
  cases command with
  | start | send => rfl
  | gather => exact gatherHangs_eq_false h t
  | next => exact nextHangs_eq_false h t
  | step step =>
    cases step with
    | event | close | sleep => rfl
    | receive => exact receiveHangs_eq_false h

theorem collectHangs_eq_false (h : limits.WaitsEnd mode) (t : Timeline) (data : List UInt8) :
    t.collectHangs data mode limits = false := by
  rw [collectHangs]
  split
  · rfl
  · rw [askHangs]
    split
    · rfl
    · exact gatherHangs_eq_false h _

end Timeline

namespace Browse

variable {endsAt : Option Instant}

theorem limits_of_begin {browse begun : Browse} {result : Except Failure (Option Instant)}
    (h : browse.begin = (result, begun)) : begun.limits = browse.limits := by
  rw [begin] at h
  split at h
  · cases h
    rfl
  · split at h
    · cases h
      rfl
    · cases h
      rfl

theorem limits_of_advance {browse after : Browse} {instances : List Instance}
    (h : browse.advance endsAt = (.ok (some instances), after)) :
    after.limits = browse.limits := by
  have hrests := advances browse endsAt
  rw [h] at hrests
  exact Rests.limits hrests

/-- What begins has an end that the limits set. -/
theorem eachWaitEnds_of_begin {browse begun : Browse} (hlimits : browse.limits.WaitsEnd .many)
    (h : browse.begin = (.ok endsAt, begun)) : browse.limits.EachWaitEnds endsAt := by
  rw [begin] at h
  split at h
  · cases h
  · split at h
    · cases h
    · dsimp only at h
      obtain ⟨hends, -⟩ := Prod.mk.inj h
      change Timeline.endOf _ browse.limits.total = _ at hends
      cases htotal : browse.limits.total with
      | value total =>
        rw [htotal] at hends
        cases hends
        exact hlimits total _ htotal
      | blank =>
        rw [htotal] at hends
        cases hends

/-- A cursor on its way does not wait without end. -/
def WaitsEnd (browse : Browse) (cursor : Cursor) : Prop :=
  ∀ endsAt instances, cursor = .running endsAt instances → browse.limits.EachWaitEnds endsAt

/-- A cursor keeps the end of its time as long as it is on its way. -/
theorem fetch_cursor (browse : Browse) (endsAt : Option Instant) :
    (browse.fetch endsAt).2.1 = .done ∨
      ∃ instances, (browse.fetch endsAt).2.1 = .running endsAt instances := by
  fun_induction fetch endsAt browse with
  | case1 => exact .inl rfl
  | case2 => exact .inl rfl
  | case3 browse after hadvance hpending ih => exact ih
  | case4 browse found later after hadvance => exact .inr ⟨later, rfl⟩

theorem eachWaitEnds_next {browse : Browse} (hlimits : browse.limits.WaitsEnd .many)
    {cursor : Cursor} (hcursor : browse.WaitsEnd cursor) {instances : List Instance}
    (h : (browse.next cursor).2.1 = .running endsAt instances) :
    browse.limits.EachWaitEnds endsAt := by
  have hfetch : ∀ {browse : Browse} {other : Option Instant},
      (browse.fetch other).2.1 = .running endsAt instances → other = endsAt := by
    intro browse other hmoved
    rcases fetch_cursor browse other with hdone | ⟨rest, hrunning⟩
    · rw [hdone] at hmoved
      cases hmoved
    · rw [hrunning] at hmoved
      cases hmoved
      rfl
  cases cursor with
  | done => cases h
  | running other later =>
    cases later with
    | nil => exact hfetch h ▸ hcursor _ _ rfl
    | cons found rest =>
      cases h
      exact hcursor _ _ rfl
  | fresh =>
    rcases hbegin : browse.begin with ⟨failure | other, begun⟩
    · rw [next, hbegin] at h
      cases h
    · rw [next, hbegin] at h
      exact hfetch h ▸ eachWaitEnds_of_begin hlimits hbegin

theorem fetchHangs_eq_false {browse : Browse} (h : browse.limits.EachWaitEnds endsAt) :
    browse.fetchHangs endsAt = false := by
  fun_induction fetchHangs endsAt browse with
  | case1 browse ih =>
    rw [advanceHangs, Timeline.nextHangs_eq_false h, Bool.false_or]
    split
    next after hadvance => exact ih after hadvance (limits_of_advance hadvance ▸ h)
    next => rfl

theorem drainHangs_eq_false {browse : Browse} (h : browse.limits.EachWaitEnds endsAt) :
    browse.drainHangs endsAt = false := by
  fun_induction drainHangs endsAt browse with
  | case1 browse ih =>
    rw [advanceHangs, Timeline.nextHangs_eq_false h, Bool.false_or]
    split
    next instances after hadvance =>
      exact ih instances after hadvance (limits_of_advance hadvance ▸ h)
    next => rfl

theorem nextHangs_eq_false {browse : Browse} (hlimits : browse.limits.WaitsEnd .many)
    {cursor : Cursor} (hcursor : browse.WaitsEnd cursor) : browse.nextHangs cursor = false := by
  cases cursor with
  | done => rfl
  | running endsAt instances =>
    cases instances with
    | nil => exact fetchHangs_eq_false (hcursor _ _ rfl)
    | cons => rfl
  | fresh =>
    rw [nextHangs]
    split
    · rfl
    next hbegin =>
      have heach := eachWaitEnds_of_begin hlimits hbegin
      exact fetchHangs_eq_false (limits_of_begin hbegin ▸ heach)

theorem iterateHangs_eq_false {browse : Browse} (hlimits : browse.limits.WaitsEnd .many) :
    browse.iterateHangs = false := by
  rw [iterateHangs]
  split
  · rfl
  next hbegin =>
    have heach := eachWaitEnds_of_begin hlimits hbegin
    exact drainHangs_eq_false (limits_of_begin hbegin ▸ heach)

end Browse

namespace Lookup

theorem runHangs_eq_false {lookup : Lookup} (h : lookup.response.WaitEnds) :
    lookup.runHangs = false := by
  have hask (other : Lookup) (hother : other.response.WaitEnds) (data : List UInt8) :
      other.askHangs data = false := by
    rw [askHangs]
    split
    · rfl
    · exact Timeline.oneHangs_eq_false hother _
  have hexchange (data : List UInt8) : lookup.exchangeHangs data = false := by
    rw [exchangeHangs]
    split
    · rfl
    next t hopen => exact hask { lookup with timeline := t } h data
  have hanswer : lookup.answerHangs = false := by
    rw [answerHangs]
    split
    · rfl
    · exact hexchange _
  rw [runHangs, hanswer, Bool.and_false]

end Lookup

namespace Session

/-- No cursor waits without end, neither one that is on its way nor one that begins. -/
structure WaitsEnd (session : Session) : Prop where
  limits : session.browse.limits.WaitsEnd .many
  cursors : ∀ cursor ∈ session.cursors, session.browse.WaitsEnd cursor

theorem limits_act (session : Session) (step : Browse.Step) :
    (session.act step).2.browse.limits = session.browse.limits :=
  congrArg Prod.snd (asked_act session step)

theorem WaitsEnd.act {session : Session} (h : session.WaitsEnd) (step : Browse.Step) :
    (session.act step).2.WaitsEnd := by
  have hlimits := limits_act session step
  refine ⟨hlimits ▸ h.limits, ?_⟩
  unfold Browse.WaitsEnd
  rw [hlimits]
  cases step with
  | enter | close | sleep | collect => exact h.cursors
  | iterate =>
    intro cursor hmem
    rcases List.mem_append.1 hmem with hold | hfresh
    · exact h.cursors cursor hold
    · obtain rfl := List.mem_singleton.1 hfresh
      exact fun _ _ => nofun
  | stop i =>
    intro cursor hmem
    rcases List.mem_or_eq_of_mem_set hmem with hold | rfl
    · exact h.cursors cursor hold
    · exact fun _ _ => nofun
  | next i =>
    intro cursor hmem
    change cursor ∈ (session.move i).2.cursors at hmem
    rw [move] at hmem
    split at hmem
    · exact h.cursors cursor hmem
    next found hfound =>
      rcases List.mem_or_eq_of_mem_set hmem with hold | rfl
      · exact h.cursors cursor hold
      · intro endsAt instances hrunning
        exact Browse.eachWaitEnds_next h.limits (h.cursors found (List.mem_of_getElem? hfound))
          hrunning

theorem hangs_eq_false {session : Session} (h : session.WaitsEnd) (step : Browse.Step) :
    session.hangs step = false := by
  cases step with
  | enter | close | sleep | iterate | stop => rfl
  | collect => exact Browse.iterateHangs_eq_false h.limits
  | next cursor =>
    rw [hangs, Option.any_eq_false]
    intro found hfound
    rw [Browse.nextHangs_eq_false h.limits (h.cursors found (List.mem_of_getElem? hfound))]

end Session

end SqlResolution
