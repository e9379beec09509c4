import Mathlib.Tactic.Linarith
import SqlResolution.Proofs.Socket.Program

/-!
# How long a collection can last

The end of a collection counts from the last datagram that was sent, or else from its first
request, and it is fixed with the first request. Each request then waits for the time of
inactivity or for what is left until the end, whichever is shorter. So no request lasts longer
than either, whatever comes in meanwhile and however long the program took before it asked. Once
the end has come nothing is taken, and before that what is queued is taken without a wait.

What is left until the end is rounded, and so is the instant that it leads to. Between them they
may miss the end by a unit in the last place, and this is all by which a request can outlast it.
-/

namespace SqlResolution

open SqlResolution.Number

namespace Timeout

variable {timeout : Timeout} {length : Span}

/-- A wait is not longer than its timeout. -/
theorem within_le_length (hlength : timeout.length = some length) (remaining : Option Span) :
    ∃ shorter, timeout.within remaining = some shorter ∧ shorter ≤ length := by
  refine ⟨_, within_of_length remaining hlength, ?_⟩
  cases remaining with
  | none => exact le_refl _
  | some left => exact min_le_left _ _

/-- A wait is not longer than what remains of another. -/
theorem within_le_remaining (hnumber : timeout.IsNumber) (left : Span) :
    ∃ shorter, timeout.within (some left) = some shorter ∧ shorter ≤ left := by
  unfold within
  split
  next hnone => exact absurd hnone hnumber
  next hleft _ =>
    cases hleft
    exact ⟨_, rfl, min_le_right _ _⟩
  next hleft _ => cases hleft
  next => exact ⟨_, rfl, le_refl _⟩

end Timeout

namespace Timeline

variable {t u : Timeline} {time : Instant} {limits : Limits} {endsAt : Option Instant}
  {inactivity total : Timeout}

/-! ## How far a wait moves the clock -/

theorem now_giveUp_le (agenda : List Delivery) :
    (t.giveUp (some time) agenda).2.now ≤ max t.now time := by
  have hinstant : ∀ {other : Instant}, other ≤ time →
      max t.now (t.instantOf other) ≤ max t.now time := by
    intro other hother
    refine max_le (le_max_left _ _) ?_
    exact instantOf_le (le_max_left _ _) (le_trans hother (le_max_right _ _))
  unfold giveUp
  split
  next cancel limit _ heq =>
    obtain rfl : limit = time := (Option.some.inj heq).symm
    dsimp only
    split
    · rw [now_resume, now_cancelled]
      exact hinstant (min_le_right _ _)
    · rw [now_resume, now_networkAt]
      exact hinstant (min_le_right _ _)
  next heq => cases heq
  next limit _ heq =>
    obtain rfl : limit = time := (Option.some.inj heq).symm
    rw [now_resume, now_networkAt]
    exact hinstant (le_refl _)
  next heq => cases heq

/-- A wait does not move the clock beyond its limit. -/
theorem now_waitFrom_le (agenda : List Delivery) :
    (t.waitFrom (some time) agenda).2.now ≤ max t.now time := by
  induction agenda generalizing t with
  | nil =>
    rw [waitFrom]
    split
    · rw [now_resume]
      exact le_max_left _ _
    · exact now_giveUp_le []
  | cons delivery rest ih =>
    unfold waitFrom
    split
    · rw [now_resume]
      exact le_max_left _ _
    · dsimp only
      split
      next hintime =>
        have hle : delivery.time ≤ time := by
          rw [isInTime, Bool.and_eq_true] at hintime
          exact of_decide_eq_true hintime.1
        refine le_trans ih (max_le ?_ (le_max_right _ _))
        rw [now_deliver]
        exact now_instantOf_le (le_max_left _ _) (le_trans hle (le_max_right _ _))
      · exact now_giveUp_le _

/-- What is called is due, and so it takes no time. -/
theorem CalledAreDue.now_deliverCalled (h : t.CalledAreDue) : t.deliverCalled.now = t.now :=
  now_foldl_deliver_of_due (t := { t with called := [] }) t.called h

theorem now_takeReady (t : Timeline) : t.takeReady.2.now = t.now := by
  rw [takeReady_eq]
  rfl

/-- Who waits for a length of time does not wait longer. -/
theorem CalledAreDue.now_await_le (h : t.CalledAreDue) (length : Span) :
    (t.await (some length)).2.now ≤ max t.now (t.now.after length) ∧
      (length ≤ 0 → (t.await (some length)).2.now = t.now) := by
  have hcalled := h.now_deliverCalled
  rw [await]
  split
  · exact ⟨le_max_left _ _, fun _ => rfl⟩
  next hleft =>
    have hpos : ¬length ≤ 0 := fun hover => hleft (decide_eq_true hover)
    refine ⟨?_, fun hover => absurd hover hpos⟩
    dsimp only
    split
    · show (t.deliverCalled.takeReady.2.resume _).now ≤ _
      rw [now_resume, now_takeReady, hcalled]
      exact le_max_left _ _
    · rw [← hcalled]
      have hwait : (t.deliverCalled.wait ((some length).map t.deliverCalled.now.after)).2.now ≤
          max t.deliverCalled.now (t.deliverCalled.now.after length) := now_waitFrom_le _
      split
      next wait_eq =>
        rw [now_takeReady]
        rwa [wait_eq] at hwait
      next wait_eq => rwa [wait_eq] at hwait
      next wait_eq => rwa [wait_eq] at hwait

theorem CalledAreDue.now_receive_le (h : t.CalledAreDue) (length : Span) :
    (t.receive (.value (some length))).2.now ≤ max t.now (t.now.after length) ∧
      (length ≤ 0 → (t.receive (.value (some length))).2.now = t.now) := by
  by_cases hfound : t.socket.take.1.isSome = true
  · rw [receive_of_isSome hfound, now_takeReady]
    exact ⟨le_max_left _ _, fun _ => rfl⟩
  · rw [receive, take_of_not_isSome hfound]
    exact h.now_await_le length

/-! ## What is left of the whole time -/

theorem nearestUnits_le_zero_iff {n : Int} : Binary64.nearestUnits n ≤ 0 ↔ n ≤ 0 := by
  constructor
  · intro hrounded
    by_contra hpos
    have hone : Binary64.nearestUnits 1 ≤ Binary64.nearestUnits n :=
      Binary64.nearestUnits_mono (not_le.1 hpos)
    have hexact : Binary64.nearestUnits 1 = 1 := by decide
    linarith
  · exact Binary64.nearestUnits_mono

/-- However little is left is not rounded away: a time is over just when its end has come. -/
theorem isLeft_iff : t.IsLeft endsAt ↔ ∀ time, endsAt = some time → t.now < time := by
  cases endsAt with
  | none => exact iff_of_true rfl nofun
  | some time =>
    have hover : isOver (some (time.since t.now)) = true ↔ time ≤ t.now := by
      rw [isOver, Option.any_some, decide_eq_true_iff]
      exact nearestUnits_le_zero_iff.trans sub_nonpos
    rw [IsLeft, Option.map_some, ← Bool.not_eq_true, hover, not_le]
    simp

theorem not_isLeft_iff : ¬t.IsLeft endsAt ↔ ∃ time, endsAt = some time ∧ time ≤ t.now := by
  simp only [isLeft_iff, not_forall, not_lt, exists_prop]

theorem awaitNext_of_over (h : ¬t.IsLeft endsAt) :
    t.awaitNext limits endsAt =
      (.ok none, t.note [.waitExhausted t.socket.name (limits.total.textBy Timeout.text)]) := by
  rw [awaitNext, if_pos (Bool.eq_true_of_not_eq_false h)]

/-- The next of many answers is not awaited for longer than the time of a wait. -/
theorem CalledAreDue.now_awaitNext_le (h : t.CalledAreDue)
    (hinactivity : limits.inactivity = .value inactivity) {length shorter : Span}
    (hwithin : inactivity.within (endsAt.map (·.since t.now)) = some shorter)
    (hshorter : shorter ≤ length) :
    (t.awaitNext limits endsAt).2.now ≤ max t.now (t.now.after length) ∧
      (length ≤ 0 → (t.awaitNext limits endsAt).2.now = t.now) := by
  by_cases hleft : t.IsLeft endsAt
  · obtain ⟨hle, hstill⟩ := h.now_receive_le shorter
    rw [hleft.awaitNext hinactivity, hwithin]
    refine ⟨hle.trans (max_le_max_left _ ?_), fun hover => hstill (hshorter.trans hover)⟩
    exact Instant.after_mono (le_refl _) hshorter
  · rw [awaitNext_of_over hleft]
    exact ⟨le_max_left _ _, fun _ => rfl⟩

/-- What is left is rounded, and what is then added to the clock is rounded again. -/
theorem rounded_le {now time : Instant} (hlt : now < time) :
    2 ^ 51 * (now.after (time.since now) - time) ≤ |now| + |time| := by
  have hleft : 2 ^ 53 * |time.since now - (time - now)| ≤ |time - now| :=
    Binary64.nearestUnits_error (time - now)
  have hsum : 2 ^ 53 * |now.after (time.since now) - (now + time.since now)| ≤
      |now + time.since now| := Binary64.nearestUnits_error _
  rw [abs_of_pos (sub_pos.2 hlt)] at hleft
  generalize time.since now = left at hleft hsum ⊢
  generalize now.after left = reached at hsum ⊢
  have hsize : |now + left| ≤ |time| + |left - (time - now)| := by
    rw [show now + left = time + (left - (time - now)) by ring]
    exact abs_add_le _ _
  have hlate := le_abs_self (reached - (now + left))
  have hlong := le_abs_self (left - (time - now))
  have hnow := neg_abs_le now
  have htime := le_abs_self time
  linarith [abs_nonneg now, abs_nonneg time]

/-- What holds of a request for the next of many answers, of which none are taken after a time. -/
structure IsBounded (asking : Timeline) (inactivity : Timeout) (endsAt : Option Instant)
    (outcome : Outcome (Option Datagram)) : Prop where
  ended : ∀ time, endsAt = some time → time ≤ asking.now →
    outcome.1 = .ok none ∧ outcome.2.now = asking.now ∧ outcome.2.socket = asking.socket
  queued : (∀ time, endsAt = some time → asking.now < time) →
    ∀ datagram rest, asking.socket.queue = some datagram :: rest →
      outcome = (.ok (some datagram), asking.use { asking.socket with queue := rest })
  inactive : ∀ length, inactivity.length = some length →
    outcome.2.now ≤ max asking.now (asking.now.after length) ∧
      (length ≤ 0 → outcome.2.now = asking.now)
  total : inactivity.IsNumber → ∀ time, endsAt = some time →
    outcome.2.now ≤ max asking.now (asking.now.after (time.since asking.now))
  rounded : inactivity.IsNumber → ∀ time, endsAt = some time →
    2 ^ 51 * (outcome.2.now - max asking.now time) ≤ |asking.now| + |time|

/-- By how much a wait that is rounded can outlast an end that had not come before. -/
theorem outlasts_le {now time reached : Instant} (hstill : time ≤ now → reached = now)
    (hreached : reached ≤ max now (now.after (time.since now))) :
    2 ^ 51 * (reached - max now time) ≤ |now| + |time| := by
  have hsize : 0 ≤ |now| + |time| := add_nonneg (abs_nonneg now) (abs_nonneg time)
  rcases le_or_gt time now with hover | hleft
  · rw [hstill hover, max_eq_left hover, sub_self, mul_zero]
    exact hsize
  · rw [max_eq_right hleft.le]
    rcases le_max_iff.1 hreached with hnow | hrounded
    · linarith
    · linarith [rounded_le hleft]

theorem CalledAreDue.isBounded (h : t.CalledAreDue)
    (hinactivity : limits.inactivity = .value inactivity) (endsAt : Option Instant) :
    t.IsBounded inactivity endsAt (t.awaitNext limits endsAt) := by
  have hover : ∀ time, endsAt = some time → time ≤ t.now → t.awaitNext limits endsAt = _ :=
    fun time hends hover => awaitNext_of_over (not_isLeft_iff.2 ⟨time, hends, hover⟩)
  have htotal : inactivity.IsNumber → ∀ time, endsAt = some time →
      (t.awaitNext limits endsAt).2.now ≤ max t.now (t.now.after (time.since t.now)) := by
    rintro hnumber time rfl
    obtain ⟨shorter, hwithin, hshorter⟩ := Timeout.within_le_remaining hnumber (time.since t.now)
    have hleft : inactivity.within ((some time).map (·.since t.now)) = some shorter := hwithin
    exact (h.now_awaitNext_le hinactivity hleft hshorter).1
  constructor
  case ended =>
    intro time hends hnow
    rw [hover time hends hnow]
    exact ⟨rfl, rfl, rfl⟩
  case queued =>
    intro hleft datagram rest hqueue
    have htake : t.socket.take = (some (.ok (some datagram)), { t.socket with queue := rest }) := by
      rw [Socket.take, hqueue]
    rw [(isLeft_iff.2 hleft).awaitNext hinactivity, receive_of_isSome (by rw [htake]; rfl),
      takeReady, take, htake]
  case inactive =>
    intro length hlength
    obtain ⟨shorter, hwithin, hshorter⟩ := Timeout.within_le_length hlength _
    exact h.now_awaitNext_le hinactivity hwithin hshorter
  case total => exact htotal
  case rounded =>
    intro hnumber time hends
    refine outlasts_le (fun hnow => ?_) (htotal hnumber time hends)
    rw [hover time hends hnow]
    rfl

/-! ## A whole collection -/

/-- Without anything between its requests a collection outlasts its end by no more than one of
them can. -/
theorem CalledAreDue.now_awaitMany_le (h : t.CalledAreDue)
    (hinactivity : limits.inactivity = .value inactivity)
    (hnumber : inactivity.IsNumber) {start : Instant} (hstart : start ≤ t.now)
    (hends : endsAt = some time)
    (hnow : 2 ^ 50 * (t.now - max start time) ≤ |start| + |time|) :
    2 ^ 50 * ((awaitMany limits endsAt t).timeline.now - max start time) ≤ |start| + |time| := by
  -- A request takes no time once the end has come, and so just one of them can outlast it.
  have hlast : ∀ t : Timeline, t.CalledAreDue → start ≤ t.now →
      2 ^ 50 * (t.now - max start time) ≤ |start| + |time| →
      2 ^ 50 * ((t.awaitNext limits endsAt).2.now - max start time) ≤ |start| + |time| := by
    intro t h hstart hnow
    have hbounded := h.isBounded hinactivity endsAt
    rcases le_or_gt time t.now with hover | hleft
    · rw [(hbounded.ended time hends hover).2.1]
      exact hnow
    · have hrounded := hbounded.rounded hnumber time hends
      rw [max_eq_right hleft.le] at hrounded
      rw [max_eq_right (hstart.trans hleft.le)]
      have hsize : |t.now| ≤ |start| + |time| := by
        rw [abs_le]
        constructor
        · linarith [neg_abs_le start, abs_nonneg time]
        · linarith [le_abs_self time, abs_nonneg start]
      linarith [abs_nonneg start, abs_nonneg time]
  fun_induction awaitMany limits endsAt t with
  | case1 t failure after hnext =>
    have := hlast t h hstart hnow
    rwa [hnext] at this
  | case2 t after hnext =>
    have := hlast t h hstart hnow
    rwa [hnext] at this
  | case3 t datagram after hnext hpending rest ih =>
    have hafter := hlast t h hstart hnow
    have hmoves := moves_awaitNext t limits endsAt
    rw [hnext] at hafter hmoves
    exact ih (h.moves hmoves) (hstart.trans hmoves.later.now) hafter

/-- What a program does before a collection, and what it does between the requests of it, is of no
account. Only a time of inactivity that is no number cannot be held against what is left. -/
theorem collection_is_bounded (network : Network) (name : SocketName) (broadcast : Option Bool)
    (capacity : Int) (before between : List Socket.Command) (limits : Limits)
    (htotal : limits.total = .value total) (hinactivity : limits.inactivity = .value inactivity) :
    let start := (new network).use (.new name broadcast capacity)
    let first := start.obeyAll before
    let endsAt := total.deadline ((first.sent.getLast?.map (·.time)).getD first.now)
    let asking := first.obeyAll between
    first.endOf limits.total = .ok endsAt ∧
      asking.IsBounded inactivity endsAt (asking.awaitNext limits endsAt) ∧
      (inactivity.IsNumber → ∀ time, endsAt = some time →
        2 ^ 50 * ((first.gather .many limits).timeline.now - max first.now time) ≤
          |first.now| + |time|) := by
  intro start first endsAt asking
  have hfirst : first.IsRegular :=
    (isRegular_new network name broadcast capacity).obeyAll before
  have hends : first.endOf limits.total = .ok endsAt := by
    rw [htotal, show endsAt = total.deadline (first.socket.sentAt.getD first.now) by
      rw [hfirst.sentAt]]
    rfl
  refine ⟨hends, (hfirst.obeyAll between).due.isBounded hinactivity endsAt, ?_⟩
  intro hnumber time htime
  rw [gather_many hends]
  refine hfirst.due.now_awaitMany_le hinactivity hnumber (le_refl _) htime ?_
  linarith [le_max_left first.now time, abs_nonneg first.now, abs_nonneg time]

/-- A network on which an answer takes its time. -/
def slow : Network :=
  { Network.silent ⟨[], none, none⟩ with
    replies := [("10.0.0.2", [⟨Span.ofMillis 800, .datagram none [5]⟩])] }

/-- A program that sleeps for longer than others wait. -/
theorem collection_is_bounded_slow :
    Limits.default.total = .value .defaultTotal ∧
    Limits.default.inactivity = .value .defaultInactivity ∧
    Timeout.defaultInactivity.IsNumber ∧
    let first := (starting slow).obeyAll [.start, .send [2]]
    let endsAt := some (Span.ofMillis 5000)
    let asking := first.obeyAll [.step (.sleep (Span.ofMillis 6000))]
    first.endOf Limits.default.total = .ok endsAt ∧
      asking.socket.queue = [some ⟨⟨"10.0.0.2", .value 1434⟩, [5]⟩] ∧
      asking.IsBounded .defaultInactivity endsAt (asking.awaitNext .default endsAt) := by
  have hends : Timeout.defaultTotal.deadline
      (((((new slow).use (.new ⟨"10.0.0.2", .value 1434⟩ none 1000)).obeyAll
        [.start, .send [2]]).sent.getLast?.map (·.time)).getD
        (((new slow).use (.new ⟨"10.0.0.2", .value 1434⟩ none 1000)).obeyAll
          [.start, .send [2]]).now) = some (Span.ofMillis 5000) := by
    decide +kernel
  obtain ⟨hend, hbounded, -⟩ := collection_is_bounded slow ⟨"10.0.0.2", .value 1434⟩ none 1000
    [.start, .send [2]] [.step (.sleep (Span.ofMillis 6000))] .default rfl rfl
  rw [hends] at hend hbounded
  exact ⟨rfl, rfl, by decide +kernel, hend, by decide +kernel, hbounded⟩

/-- A network on which an answer comes after 8 ms. -/
def quick : Network :=
  { Network.silent ⟨[], none, none⟩ with
    replies := [("10.0.0.2", [⟨Span.ofMillis 8, .datagram none [5]⟩])] }

/-- What is left of 76.5 ms after the first 8 is, when rounded, too much by a unit. So the request
that follows an answer after 8 ms ends too late, and so does a whole collection. -/
theorem awaitNext_outlasts :
    let first := (starting quick).obeyAll [.start, .send [2]]
    let total : Timeout := ⟨.ofRatio false 765 10000⟩
    let limits : Limits := ⟨.blank, .value .defaultInactivity, .value total⟩
    let time := total.length.getD 0
    let asking := first.obeyAll [.next limits (some time)]
    first.endOf limits.total = .ok (some time) ∧
      asking.now = Span.ofMillis 8 ∧
      max asking.now time < (asking.awaitNext limits (some time)).2.now ∧
      max first.now time < (first.gather .many limits).timeline.now := by
  decide +kernel

end Timeline

end SqlResolution
