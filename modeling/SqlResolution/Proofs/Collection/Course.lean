import SqlResolution.Collection
import SqlResolution.Proofs.Time.Millis
import SqlResolution.Proofs.Timeline.Burst

/-!
# The course of a collection

What a collection of many answers takes, and when it is over, follows from what is to come and
from two numbers of milliseconds: how long it waits for the next datagram, and how long it lasts
at most. It goes from one instant at which something happens to the next, as long as that is
in time. Of what happens at an instant it takes the datagrams that find room in the queue; they
begin a new wait. The end of the stream is its own end, with an error or without.

This is said in whole milliseconds. The clock shows rounded numbers, and follows the course as
long as it is fine enough: it tells the instants apart, and a wait ends on the right side of
each of them. For some five hundred years it is fine enough, if nothing happens at the very
instant at which a wait ends.
-/

namespace SqlResolution

open Timeline

/-- The instant so many milliseconds later, as the clock shows it. -/
def Instant.afterMillis (start : Instant) (ms : Nat) : Instant :=
  start.after (Span.ofMillis ms)

/-- How a collection ends: nothing came in time after it had begun to wait; or the stream ended. -/
inductive Course.Ending where
  | silence (last : Nat)
  | ended (instant : Nat) (error : Option OsError)
  deriving DecidableEq

/-- What a collection takes, the instants at which it begins to wait, and how it ends. -/
structure Course where
  datagrams : List Datagram
  waits : List Nat
  ending : Course.Ending
  deriving DecidableEq

namespace Course

variable (inactivity total : Int) (events : List (Nat × Event))

/-- As many datagrams as wait in a queue at most. -/
def room : Nat :=
  Protocol.maxQueueSize.toNat

/-- What happens at an instant, in its order. -/
def burst (instant : Nat) : List Event :=
  (Schedule.during Prod.fst events instant).map Prod.snd

/-- The course over these instants, if the last wait has begun before them. -/
def walk (last : Nat) : List Nat → Course
  | [] => ⟨[], [], .silence last⟩
  | instant :: later =>
    if last + inactivity ≤ instant ∨ total ≤ instant then ⟨[], [], .silence last⟩
    else
      let heard := Event.heard (burst events instant)
      let waits := if heard = [] then [] else [instant]
      match Event.ended? (burst events instant) with
      | some error => ⟨heard.take room, waits, .ended instant error⟩
      | none =>
        let rest := walk (waits.headD last) later
        ⟨heard.take room ++ rest.datagrams, waits ++ rest.waits, rest.ending⟩

/-- The whole course, with the wait that begins at once. -/
def whole : Course :=
  let course := walk inactivity total events 0 (Schedule.instants Prod.fst events)
  { course with waits := 0 :: course.waits }

/-- The error that ended the stream. -/
def error? (course : Course) : Option OsError :=
  match course.ending with
  | .ended _ error => error
  | .silence _ => none

/-- The result of a collection: of an error that ended it only the failure remains. -/
def result (name : SocketName) (course : Course) : Except Failure (List Datagram) :=
  match course.error? with
  | some error => .error (.transport (.receiveFailed name error))
  | none => .ok course.datagrams

/-- The end of a course, in milliseconds. -/
def time (course : Course) : Int :=
  match course.ending with
  | .ended instant _ => instant
  | .silence last => max last (min (last + inactivity) total)

/-! ## The clock -/

variable (start : Instant)

/-- What remains of the whole time at an instant. -/
def remaining (instant : Nat) : Option Span :=
  ((Timeout.ofMillis total).deadline start).map (·.since (start.afterMillis instant))

/-- How long a wait lasts that begins at an instant. -/
def wait (instant : Nat) : Option Span :=
  (Timeout.ofMillis inactivity).within (remaining total start instant)

/-- The instant that the clock shows at the end of a course. -/
def clock (course : Course) : Instant :=
  match course.ending with
  | .ended instant _ => start.afterMillis instant
  | .silence last =>
    if 0 < inactivity ∧ last < total then
      (start.afterMillis last).after ((wait inactivity total start last).getD 0)
    else start.afterMillis last

/-- A wait of some length, begun at an instant, ends on the right side of another one, and if that
is in time the clock can tell the two apart. -/
structure Divides (last : Nat) (length : Span) (instant : Nat) : Prop where
  early : instant < min (last + inactivity) total →
    start.afterMillis instant ≤ (start.afterMillis last).after length ∧
      ((start.afterMillis last).after length).isDue (start.afterMillis instant) = false
  late : min (last + inactivity) total ≤ instant →
    (start.afterMillis last).after length < start.afterMillis instant

/-- The clock is fine enough for a collection. -/
structure IsFine : Prop where
  due : ∀ earlier ∈ 0 :: events.map Prod.fst, ∀ instant ∈ 0 :: events.map Prod.fst,
    (start.afterMillis instant).isDue (start.afterMillis earlier) = true ↔ instant ≤ earlier
  left : ∀ instant ∈ 0 :: events.map Prod.fst, instant < total →
    isOver (remaining total start instant) = false
  wait : ∀ last ∈ (whole inactivity total events).waits, 0 < inactivity → last < total →
    ∃ length, wait inactivity total start last = some length ∧ 0 < length ∧
      ∀ instant ∈ 0 :: events.map Prod.fst,
        Divides inactivity total start last length instant

/-- Nothing happens at the very instant at which a wait ends. -/
def HasNoTies : Prop :=
  ∀ last ∈ (whole inactivity total events).waits, 0 < inactivity → last < total →
    ∀ instant ∈ events.map Prod.fst, instant ≠ min (last + inactivity) total

/-- It is not long until all is over: some five hundred years at most. -/
structure IsShort : Prop where
  inactivity : inactivity < 2 ^ 44
  total : total < 2 ^ 44
  events : ∀ instant ∈ events.map Prod.fst, instant < 2 ^ 44

variable {inactivity total events start}

section Steps

variable {last instant : Nat} (later : List Nat)

theorem walk_late (h : last + inactivity ≤ instant ∨ total ≤ instant) :
    walk inactivity total events last (instant :: later) = ⟨[], [], .silence last⟩ := by
  rw [walk, if_pos h]

/-- Refusals leave a course as it is. -/
theorem walk_pass (hearly : ¬(last + inactivity ≤ instant ∨ total ≤ instant))
    (hheard : Event.heard (burst events instant) = [])
    (hended : Event.ended? (burst events instant) = none) :
    walk inactivity total events last (instant :: later) =
      walk inactivity total events last later := by
  rw [walk, if_neg hearly, hheard, hended]
  rfl

theorem walk_take (hearly : ¬(last + inactivity ≤ instant ∨ total ≤ instant))
    (hheard : Event.heard (burst events instant) ≠ [])
    (hended : Event.ended? (burst events instant) = none) :
    walk inactivity total events last (instant :: later) =
      ⟨(Event.heard (burst events instant)).take room ++
          (walk inactivity total events instant later).datagrams,
        instant :: (walk inactivity total events instant later).waits,
        (walk inactivity total events instant later).ending⟩ := by
  rw [walk, if_neg hearly]
  dsimp only
  rw [hended, if_neg hheard]
  rfl

theorem walk_ended {error : Option OsError}
    (hearly : ¬(last + inactivity ≤ instant ∨ total ≤ instant))
    (hended : Event.ended? (burst events instant) = some error) :
    ∃ waits, walk inactivity total events last (instant :: later) =
      ⟨(Event.heard (burst events instant)).take room, waits, .ended instant error⟩ := by
  rw [walk, if_neg hearly, hended]
  exact ⟨_, rfl⟩

end Steps

theorem mem_waits_walk {last : Nat} {instants : List Nat} {wait : Nat}
    (h : wait ∈ (walk inactivity total events last instants).waits) : wait ∈ instants := by
  induction instants generalizing last with
  | nil => cases h
  | cons instant later ih =>
    have hfirst : ∀ wait ∈ (if Event.heard (burst events instant) = [] then [] else [instant]),
        wait ∈ instant :: later := by
      intro wait hmem
      split at hmem
      · cases hmem
      · rw [List.mem_singleton.1 hmem]
        exact List.mem_cons_self
    rw [walk] at h
    split at h
    · cases h
    · dsimp only at h
      split at h
      · exact hfirst wait h
      · rcases List.mem_append.1 h with hnow | hrest
        · exact hfirst wait hnow
        · exact List.mem_cons_of_mem _ (ih hrest)

/-- The instant at which the stream ended, or at which the last wait began. -/
def Ending.instant : Ending → Nat
  | silence last => last
  | ended instant _ => instant

theorem instant_ending_walk (last : Nat) (instants : List Nat) :
    (walk inactivity total events last instants).ending.instant ∈ last :: instants := by
  induction instants generalizing last with
  | nil => exact List.mem_cons_self
  | cons instant later ih =>
    rw [walk]
    split
    · exact List.mem_cons_self
    · dsimp only
      split
      · exact List.mem_cons_of_mem _ List.mem_cons_self
      · rcases List.mem_cons.1 (ih _) with hlast | hrest
        · dsimp only
          rw [hlast]
          split
          · exact List.mem_cons_self
          · exact List.mem_cons_of_mem _ List.mem_cons_self
        · exact List.mem_cons_of_mem _ (List.mem_cons_of_mem _ hrest)

theorem mem_of_mem_instants {instant : Nat} (h : instant ∈ Schedule.instants Prod.fst events) :
    instant ∈ 0 :: events.map Prod.fst := by
  obtain ⟨event, hevent, rfl⟩ := Schedule.mem_instants.1 h
  exact List.mem_cons_of_mem _ (List.mem_map_of_mem hevent)

theorem mem_waits {wait : Nat} (h : wait ∈ (whole inactivity total events).waits) :
    wait ∈ 0 :: events.map Prod.fst := by
  rcases List.mem_cons.1 h with rfl | hmem
  · exact List.mem_cons_self
  · exact mem_of_mem_instants (mem_waits_walk hmem)

theorem instant_ending (inactivity total : Int) (events : List (Nat × Event)) :
    (whole inactivity total events).ending.instant ∈ 0 :: events.map Prod.fst := by
  rcases List.mem_cons.1 (instant_ending_walk 0 (Schedule.instants Prod.fst events))
    with hlast | hmem
  · exact List.mem_cons.2 (.inl hlast)
  · exact mem_of_mem_instants hmem

/-! ## How fine the clock is -/

open Instant

variable {instant earlier last : Nat}

theorem isAbout_afterMillis (hstart : start.IsModerate) (hinstant : (instant : Int) < 2 ^ 44) :
    IsAbout start 2 instant (start.afterMillis instant) := by
  have hsmall : |(instant : Int)| < 2 ^ 45 := abs_lt.2 ⟨by omega, by omega⟩
  have hafter := (isAbout_origin start).after (isAbout_ofMillis hsmall) hstart (by omega)
    (by rwa [Int.zero_add])
  rw [Int.zero_add, Int.zero_add] at hafter
  exact hafter

theorem isDue_afterMillis_iff (hstart : start.IsModerate) (hinstant : (instant : Int) < 2 ^ 44)
    (hearlier : (earlier : Int) < 2 ^ 44) :
    (start.afterMillis instant).isDue (start.afterMillis earlier) = true ↔ instant ≤ earlier := by
  have hthen := isAbout_afterMillis hstart hinstant
  have hnow := isAbout_afterMillis hstart hearlier
  constructor
  · intro hdue
    by_contra hlt
    rw [hnow.isDue_eq_false hthen hstart (by omega) (by omega) (by omega)
      (abs_lt.2 ⟨by omega, by omega⟩)] at hdue
    cases hdue
  · intro hle
    rcases Nat.lt_or_eq_of_le hle with hlt | rfl
    · exact isDue_of_le (le_of_lt (hthen.lt hnow (by omega) (by omega)))
    · exact isDue_of_le (le_refl _)

theorem remaining_eq (hstart : start.IsModerate) (hpos : 0 < total) (htotal : total < 2 ^ 44)
    (hinstant : (instant : Int) < 2 ^ 44) :
    ∃ length, remaining total start instant = some length ∧
      IsAbout 0 5 (total - instant) length := by
  have hsmall : |total| < 2 ^ 45 := by
    rw [abs_of_pos hpos]
    omega
  have hend := (isAbout_origin start).after (isAbout_ofMillis hsmall) hstart (by omega)
    (by rwa [Int.zero_add])
  rw [Int.zero_add, Int.zero_add] at hend
  refine ⟨_, ?_, hend.since (isAbout_afterMillis hstart hinstant) (by omega)
    (abs_lt.2 ⟨by omega, by omega⟩)⟩
  rw [remaining, Timeout.deadline, Timeout.length_ofMillis hsmall, Option.map_some,
    Option.map_some]

theorem wait_eq (hstart : start.IsModerate) (hinactive : 0 < inactivity)
    (hinactivity : inactivity < 2 ^ 44) (hpos : 0 < total) (htotal : total < 2 ^ 44)
    (hlast : (last : Int) < 2 ^ 44) :
    ∃ length, Course.wait inactivity total start last = some length ∧
      IsAbout 0 5 (min inactivity (total - last)) length := by
  have hsmall : |inactivity| < 2 ^ 45 := by
    rw [abs_of_pos hinactive]
    omega
  obtain ⟨left, hleft, habout⟩ := remaining_eq hstart hpos htotal hlast
  refine ⟨_, ?_, ((isAbout_ofMillis hsmall).mono (by omega)).min habout⟩
  rw [Course.wait, hleft]
  exact Timeout.within_of_length (some left)
    (Timeout.length_ofMillis hsmall)

/-- The end of a wait, as the clock counts it. -/
theorem isAbout_wait_end {length : Span} (hstart : start.IsModerate) (hinactive : 0 < inactivity)
    (hlast : (last : Int) < total) (htotal : total < 2 ^ 44)
    (hlength : IsAbout 0 5 (min inactivity (total - last)) length) :
    IsAbout start 8 (min (last + inactivity) total) ((start.afterMillis last).after length) := by
  have hsmall : (last : Int) < 2 ^ 44 := lt_trans hlast htotal
  have hend := (isAbout_afterMillis hstart hsmall).after hlength hstart (by omega)
    (abs_lt.2 ⟨by omega, by omega⟩)
  rwa [show (last : Int) + min inactivity (total - last) = min (last + inactivity) total by omega]
    at hend

theorem divides {length : Span} (hstart : start.IsModerate)
    (hend : IsAbout start 8 (min (last + inactivity) total)
      ((start.afterMillis last).after length))
    (hinstant : (instant : Int) < 2 ^ 44) (hne : instant ≠ min (last + inactivity) total) :
    Divides inactivity total start last length instant := by
  have hnow := isAbout_afterMillis hstart hinstant
  constructor
  · intro hlt
    exact ⟨le_of_lt (hnow.lt hend hlt (by omega)), hnow.isDue_eq_false hend hstart hlt (by omega)
      (by omega) (abs_lt.2 ⟨by omega, by omega⟩)⟩
  · intro hle
    exact hend.lt hnow (lt_of_le_of_ne hle (Ne.symm hne)) (by omega)

theorem IsShort.instant_lt (h : IsShort inactivity total events) :
    ∀ instant ∈ 0 :: events.map Prod.fst, ((instant : Nat) : Int) < 2 ^ 44 := by
  intro instant hmem
  rcases List.mem_cons.1 hmem with rfl | hmem
  · decide
  · exact_mod_cast h.events instant hmem

/-- For a short time without ties the clock is fine enough. -/
theorem isFine (hstart : start.IsModerate) (hshort : IsShort inactivity total events)
    (hties : HasNoTies inactivity total events) : IsFine inactivity total events start := by
  have hsmall := hshort.instant_lt
  constructor
  · intro earlier hearlier instant hinstant
    exact isDue_afterMillis_iff hstart (hsmall instant hinstant) (hsmall earlier hearlier)
  · intro instant hmem hlt
    obtain ⟨length, hlength, habout⟩ :=
      remaining_eq hstart (by omega) hshort.total (hsmall instant hmem)
    have hpos : 0 < length := (isAbout_origin 0).lt habout (by omega) (by omega)
    rw [hlength, isOver, Option.any_some, decide_eq_false_iff_not]
    exact Int.not_le.2 hpos
  · intro last hmem hinactive hlt
    have hlast := hsmall last (mem_waits hmem)
    obtain ⟨length, hlength, habout⟩ :=
      wait_eq hstart hinactive hshort.inactivity (by omega) hshort.total hlast
    have hend := isAbout_wait_end hstart hinactive hlt hshort.total habout
    have htotal := hshort.total
    refine ⟨length, hlength, (isAbout_origin 0).lt habout (by omega) (by omega), ?_⟩
    intro instant hinstant
    refine divides hstart hend (hsmall instant hinstant) ?_
    rcases List.mem_cons.1 hinstant with rfl | hevent
    · omega
    · exact hties last hmem hinactive hlt instant hevent

/-- For a short time the clock shows the end of a course up to a sixteenth of a millisecond. -/
theorem isAbout_clock (hstart : start.IsModerate) (hshort : IsShort inactivity total events) :
    IsAbout start 8 ((whole inactivity total events).time inactivity total)
      ((whole inactivity total events).clock inactivity total start) := by
  have hsmall := hshort.instant_lt
  have hinstant := hsmall _ (instant_ending inactivity total events)
  unfold time clock
  cases hending : (whole inactivity total events).ending with
  | silence last =>
    rw [hending] at hinstant
    change (last : Int) < 2 ^ 44 at hinstant
    dsimp only
    split
    next hwait =>
      obtain ⟨length, hlength, habout⟩ := wait_eq hstart hwait.1 hshort.inactivity
        (by omega : 0 < total) hshort.total hinstant
      rw [hlength, max_eq_right (by omega)]
      exact isAbout_wait_end hstart hwait.1 hwait.2 hshort.total habout
    next hnowait =>
      rw [max_eq_left (by omega)]
      exact (isAbout_afterMillis hstart hinstant).mono (by omega)
  | ended instant error =>
    rw [hending] at hinstant
    exact (isAbout_afterMillis hstart hinstant).mono (by omega)

end Course

end SqlResolution
