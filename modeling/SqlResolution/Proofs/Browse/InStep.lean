import SqlResolution.Proofs.Browse.Flattening
import SqlResolution.Proofs.Collection.InStep

/-!
# Two browses in step

A browse reads the clock and the network through its timeline alone. So two browses that are the
same but for their timelines do the same as long as these are in step, and so do all cursors that
are moved over them.
-/

namespace SqlResolution

open Timeline (Agree EndsAt HangAlike)

namespace Timeline

variable {P : Instant → Prop} {S : List Sent} {full sparse : Timeline} {data : List UInt8}

theorem InStep.question (h : InStep P S full sparse)
    (hsent : (sparse.question data).2.sent ⊆ S) :
    Agree P S (full.question data) (sparse.question data) := by
  have hagree := h.openSocket
  rcases hopen : sparse.openSocket with ⟨failure | _, opened⟩
  · obtain ⟨other, hother, hafter⟩ := hagree.of_eq hopen
    rw [Timeline.question, Timeline.question, hother, hopen]
    exact ⟨rfl, hafter⟩
  · obtain ⟨other, hother, hafter⟩ := hagree.of_eq hopen
    have hsparse : sparse.question data = opened.send data := by
      rw [Timeline.question, hopen]
    rw [hsparse] at hsent ⊢
    rw [Timeline.question, hother]
    exact hafter.send hsent

end Timeline

namespace Browse

variable {P : Instant → Prop} {S : List Sent} {full sparse : Browse} {t : Timeline}
  {endsAt : Option Instant} {α : Type}

/-- The browse as it is, over another timeline. -/
def onTimeline (browse : Browse) (timeline : Timeline) : Browse :=
  { browse with timeline }

/-- Two browses are the same but for their timelines, and these are in step. -/
inductive InStep (P : Instant → Prop) (S : List Sent) : Browse → Browse → Prop
  | onTimeline {t : Timeline} (browse : Browse) (h : t.InStep P S browse.timeline) :
    InStep P S (browse.onTimeline t) browse

/-- The same came of two browses. -/
structure Agree (P : Instant → Prop) (S : List Sent) (full sparse : α × Browse) : Prop where
  result : full.1 = sparse.1
  inStep : InStep P S full.2 sparse.2

theorem InStep.timeline (h : InStep P S full sparse) :
    full.timeline.InStep P S sparse.timeline := by
  obtain ⟨_, h⟩ := h
  exact h

theorem InStep.eq_onTimeline (h : InStep P S full sparse) :
    full = sparse.onTimeline full.timeline := by
  obtain ⟨_, -⟩ := h
  rfl

/-! ## Ending -/

theorem InStep.note (h : InStep P S full sparse) (notices : List Notice) :
    InStep P S (full.note notices) (sparse.note notices) := by
  obtain ⟨_, h⟩ := h
  exact .onTimeline (sparse.note notices) (h.note notices)

theorem InStep.setState (h : InStep P S full sparse) (state : State) :
    InStep P S (full.setState state) (sparse.setState state) := by
  obtain ⟨_, h⟩ := h
  exact .onTimeline (sparse.setState state) (h.note _)

theorem InStep.releaseSocket (h : InStep P S full sparse) :
    InStep P S full.releaseSocket sparse.releaseSocket := by
  obtain ⟨_, h⟩ := h
  rw [Browse.releaseSocket, Browse.releaseSocket]
  show InStep P S (if sparse.holdsSocket then _ else _) _
  split
  · have hclosed := h.close
    exact .onTimeline
      { sparse with holdsSocket := false, timeline := sparse.timeline.close } hclosed
  · exact .onTimeline sparse h

theorem InStep.state (h : InStep P S full sparse) : full.state = sparse.state := by
  obtain ⟨_, h⟩ := h
  rfl

theorem InStep.close (h : InStep P S full sparse) : InStep P S full.close sparse.close := by
  have hreleased := h.releaseSocket
  rw [Browse.close, Browse.close, hreleased.state]
  split
  · exact hreleased
  · exact hreleased.setState _

theorem InStep.abandon (h : InStep P S full sparse) : InStep P S full.abandon sparse.abandon :=
  (h.setState .failed).close

theorem InStep.conclude (h : InStep P S full sparse) :
    InStep P S full.conclude sparse.conclude := by
  obtain ⟨_, h⟩ := h
  exact InStep.close (.onTimeline (sparse.note _) (h.note _))

theorem now_close (browse : Browse) : browse.close.timeline.now = browse.timeline.now := by
  have hreleased : browse.releaseSocket.timeline.now = browse.timeline.now := by
    rw [releaseSocket]
    split
    · exact Timeline.now_close _
    · rfl
  rw [close]
  split
  · exact hreleased
  · exact hreleased

theorem sent_close (browse : Browse) : browse.close.timeline.sent = browse.timeline.sent := by
  have hreleased : browse.releaseSocket.timeline.sent = browse.timeline.sent := by
    rw [releaseSocket]
    split
    · exact Timeline.sent_close _
    · rfl
  rw [close]
  split
  · exact hreleased
  · exact hreleased

theorem now_abandon (browse : Browse) : browse.abandon.timeline.now = browse.timeline.now :=
  now_close _

theorem sent_abandon (browse : Browse) : browse.abandon.timeline.sent = browse.timeline.sent :=
  sent_close _

theorem now_conclude (browse : Browse) : browse.conclude.timeline.now = browse.timeline.now :=
  now_close _

/-! ## Entering -/

theorem InStep.enter (h : InStep P S full sparse) (hsent : sparse.enter.2.timeline.sent ⊆ S) :
    Agree P S full.enter sparse.enter := by
  by_cases hidle : sparse.state = .idle
  · obtain @⟨t, _, h⟩ := h
    have hused := h.use (.new sparse.name none Protocol.maxQueueSize)
    rcases hasked : (sparse.timeline.use (.new sparse.name none Protocol.maxQueueSize)).question
      [Protocol.enumerateOpcode] with ⟨failure | _, asked⟩
    · have hheld := fun other (hafter : Timeline.InStep P S other asked) =>
        InStep.onTimeline { sparse with holdsSocket := true, timeline := asked } hafter
      rw [enter_of_error hidle hasked] at hsent ⊢
      have hagree := hused.question (by rw [hasked]; rwa [sent_abandon] at hsent)
      obtain ⟨other, hother, hafter⟩ := hagree.of_eq hasked
      rw [show (sparse.onTimeline t).enter = _ from enter_of_error hidle hother]
      exact ⟨rfl, (hheld other hafter).abandon⟩
    · rw [enter_of_ok hidle hasked] at hsent ⊢
      have hagree := hused.question (by rw [hasked]; exact hsent)
      obtain ⟨other, hother, hafter⟩ := hagree.of_eq hasked
      rw [show (sparse.onTimeline t).enter = _ from enter_of_ok hidle hother]
      have hheld := InStep.onTimeline { sparse with holdsSocket := true, timeline := asked } hafter
      exact ⟨rfl, hheld.setState .requestSent⟩
  · rw [enter_of_ne_idle hidle, enter_of_ne_idle (h.state ▸ hidle)]
    obtain ⟨_, h⟩ := h
    exact ⟨rfl, .onTimeline sparse h⟩

/-! ## Taking answers -/

theorem InStep.readAnswer (h : InStep P S full sparse) (answer : Datagram) :
    Agree P S (full.readAnswer answer) (sparse.readAnswer answer) := by
  obtain @⟨t, _, h⟩ := h
  rw [Browse.readAnswer, Browse.readAnswer]
  dsimp only
  have hcounted := InStep.onTimeline { sparse with datagrams := sparse.datagrams + 1 } h
  have hskipped := InStep.onTimeline { sparse with
    datagrams := sparse.datagrams + 1
    malformed := sparse.malformed + 1 } h
  split
  · exact ⟨rfl, hcounted.note _⟩
  · exact ⟨rfl, hskipped.note _⟩
  · exact ⟨rfl, hcounted.note _⟩

/-- Where the clock stops matters unless an answer was read. -/
def EndsAt (P : Instant → Prop) (taken : Except Failure (Option (List Instance)) × Browse) : Prop :=
  (∀ instances, taken.1 ≠ .ok (some instances)) → P taken.2.timeline.now

theorem advance_of_other {browse : Browse} {failure : Failure} {taken : Timeline}
    (h : browse.timeline.awaitNext browse.limits endsAt = (.error failure, taken))
    (hother : ∀ fault, failure ≠ .transport fault) :
    browse.advance endsAt = (.error failure, { browse with timeline := taken }) := by
  rw [advance, h]
  cases failure with
  | transport fault => exact absurd rfl (hother fault)
  | _ => rfl

theorem InStep.advance (h : InStep P S full sparse) (hnumbers : sparse.limits.AreNumbers .many)
    (endsAt : Option Instant)
    (hend : sparse.advanceHangs endsAt = false → EndsAt P (sparse.advance endsAt)) :
    HangAlike (full.advanceHangs endsAt) (sparse.advanceHangs endsAt)
      (Agree P S (full.advance endsAt) (sparse.advance endsAt)) := by
  obtain @⟨t, _, h⟩ := h
  have hstep := h.awaitNext hnumbers endsAt
  rcases hnext : sparse.timeline.awaitNext sparse.limits endsAt with ⟨failure | _ | answer, after⟩
  · by_cases htransport : ∃ fault, failure = .transport fault
    · obtain ⟨fault, rfl⟩ := htransport
      rw [advance_of_transport hnext] at hend ⊢
      have hnow (hends : sparse.advanceHangs endsAt = false) : P after.now := by
        simpa [now_abandon] using hend hends fun _ => nofun
      obtain ⟨hhangs, hcommon⟩ := hstep fun hends => by
        rw [hnext]
        exact fun _ => hnow hends
      refine ⟨hhangs, fun hends => ?_⟩
      obtain ⟨other, hother, hafter⟩ := (hcommon hends).of_eq hnext
      rw [show (sparse.onTimeline t).advance endsAt = _ from advance_of_transport hother]
      exact ⟨rfl, (InStep.onTimeline { sparse with timeline := after } hafter).abandon⟩
    · have hfailure := not_exists.1 htransport
      rw [advance_of_other hnext hfailure] at hend ⊢
      obtain ⟨hhangs, hcommon⟩ := hstep fun hends => by
        rw [hnext]
        exact fun _ => hend hends fun _ => nofun
      refine ⟨hhangs, fun hends => ?_⟩
      obtain ⟨other, hother, hafter⟩ := (hcommon hends).of_eq hnext
      rw [show (sparse.onTimeline t).advance endsAt = _ from advance_of_other hother hfailure]
      exact ⟨rfl, InStep.onTimeline { sparse with timeline := after } hafter⟩
  · rw [advance_of_none hnext] at hend ⊢
    have hnow (hends : sparse.advanceHangs endsAt = false) : P after.now := by
      simpa [now_conclude] using hend hends fun _ => nofun
    obtain ⟨hhangs, hcommon⟩ := hstep fun hends => by
      rw [hnext]
      exact fun _ => hnow hends
    refine ⟨hhangs, fun hends => ?_⟩
    obtain ⟨other, hother, hafter⟩ := (hcommon hends).of_eq hnext
    rw [show (sparse.onTimeline t).advance endsAt = _ from advance_of_none hother]
    exact ⟨rfl, (InStep.onTimeline { sparse with timeline := after } hafter).conclude⟩
  · obtain ⟨hhangs, hcommon⟩ := hstep fun _ => by
      rw [hnext]
      exact fun hnone => absurd rfl (hnone answer)
    refine ⟨hhangs, fun hends => ?_⟩
    obtain ⟨other, hother, hafter⟩ := (hcommon hends).of_eq hnext
    have hread := (InStep.onTimeline { sparse with timeline := after } hafter).readAnswer answer
    rw [advance_of_some hnext,
      show (sparse.onTimeline t).advance endsAt = _ from advance_of_some hother]
    exact ⟨congrArg (Except.map some) hread.result, hread.inStep⟩

theorem InStep.handOut (h : InStep P S full sparse) (count : Nat) :
    InStep P S (full.handOut count) (sparse.handOut count) := by
  obtain ⟨_, h⟩ := h
  exact .onTimeline (sparse.handOut count) h

theorem Agree.of_eq {full sparse : α × Browse} {result : α} {after : Browse}
    (h : Agree P S full sparse) (hsparse : sparse = (result, after)) :
    ∃ other, full = (result, other) ∧ InStep P S other after := by
  subst hsparse
  exact ⟨full.2, Prod.ext h.result rfl, h.inStep⟩

/-- Two cursors are moved alike. -/
structure MoveAlike (P : Instant → Prop) (S : List Sent)
    (full sparse : Except Failure (Option Instance) × Cursor × Browse) : Prop where
  result : full.1 = sparse.1
  cursor : full.2.1 = sparse.2.1
  inStep : InStep P S full.2.2 sparse.2.2

/-- A cursor fetches the same. -/
theorem InStep.fetch (h : InStep P S full sparse) (hnumbers : sparse.limits.AreNumbers .many)
    (endsAt : Option Instant)
    (hend : sparse.fetchHangs endsAt = false → P (sparse.fetch endsAt).2.2.timeline.now) :
    HangAlike (full.fetchHangs endsAt) (sparse.fetchHangs endsAt)
      (MoveAlike P S (full.fetch endsAt) (sparse.fetch endsAt)) := by
  fun_induction Browse.fetch endsAt sparse generalizing full with
  | case1 sparse failure after hadvance =>
    have hlast : sparse.fetchHangs endsAt = _ := fetchHangs_of_last (by simp [hadvance])
    have hstep := h.advance hnumbers endsAt fun hends => by
      rw [hadvance]
      exact fun _ => hend (hlast.trans hends)
    refine hstep.and_then fetchHangs_of_advanceHangs fetchHangs_of_advanceHangs fun _ hagree => ?_
    obtain ⟨other, hother, hafter⟩ := hagree.of_eq hadvance
    rw [fetch_of_error hother, fetchHangs_of_last (by simp [hother]), hlast]
    exact ⟨hstep.hangs, fun _ => ⟨rfl, rfl, hafter⟩⟩
  | case2 sparse after hadvance =>
    have hlast : sparse.fetchHangs endsAt = _ := fetchHangs_of_last (by simp [hadvance])
    have hstep := h.advance hnumbers endsAt fun hends => by
      rw [hadvance]
      exact fun _ => hend (hlast.trans hends)
    refine hstep.and_then fetchHangs_of_advanceHangs fetchHangs_of_advanceHangs fun _ hagree => ?_
    obtain ⟨other, hother, hafter⟩ := hagree.of_eq hadvance
    rw [fetch_of_none hother, fetchHangs_of_last (by simp [hother]), hlast]
    exact ⟨hstep.hangs, fun _ => ⟨rfl, rfl, hafter⟩⟩
  | case3 sparse after hadvance hpending =>
    rename_i ih
    have hstep := h.advance hnumbers endsAt fun _ => by
      rw [hadvance]
      exact fun hnone => absurd rfl (hnone [])
    refine hstep.and_then fetchHangs_of_advanceHangs fetchHangs_of_advanceHangs
      fun hends hagree => ?_
    have hlater := fetchHangs_of_nil hadvance
    obtain ⟨other, hother, hafter⟩ := hagree.of_eq hadvance
    rw [hends, Bool.false_or] at hlater
    rw [hlater] at hend ⊢
    rw [fetch_of_nil hother, fetchHangs_of_nil hother, hstep.hangs, hends, Bool.false_or]
    exact ih hafter (limits_of_advance hadvance ▸ hnumbers) hend
  | case4 sparse found later after hadvance =>
    have hlast : sparse.fetchHangs endsAt = _ := fetchHangs_of_last (by simp [hadvance])
    have hstep := h.advance hnumbers endsAt fun _ => by
      rw [hadvance]
      exact fun hnone => absurd rfl (hnone _)
    refine hstep.and_then fetchHangs_of_advanceHangs fetchHangs_of_advanceHangs fun _ hagree => ?_
    obtain ⟨other, hother, hafter⟩ := hagree.of_eq hadvance
    rw [fetch_of_cons hother, fetchHangs_of_last (by simp [hother]), hlast]
    exact ⟨hstep.hangs, fun _ => ⟨rfl, rfl, hafter.handOut 1⟩⟩

/-- Two iterations hand out the same, and end alike. -/
structure IterateAlike (P : Instant → Prop) (S : List Sent) (full sparse : Browsed) : Prop where
  instances : full.instances = sparse.instances
  failure : full.failure = sparse.failure
  inStep : InStep P S full.browse sparse.browse

theorem InStep.drain (h : InStep P S full sparse) (hnumbers : sparse.limits.AreNumbers .many)
    (endsAt : Option Instant)
    (hend : sparse.drainHangs endsAt = false → P (sparse.drain endsAt).browse.timeline.now) :
    HangAlike (full.drainHangs endsAt) (sparse.drainHangs endsAt)
      (IterateAlike P S (full.drain endsAt) (sparse.drain endsAt)) := by
  fun_induction Browse.drain endsAt sparse generalizing full with
  | case1 sparse failure after hadvance =>
    have hlast : sparse.drainHangs endsAt = _ := drainHangs_of_last (by simp [hadvance])
    have hstep := h.advance hnumbers endsAt fun hends => by
      rw [hadvance]
      exact fun _ => hend (hlast.trans hends)
    refine hstep.and_then drainHangs_of_advanceHangs drainHangs_of_advanceHangs fun _ hagree => ?_
    obtain ⟨other, hother, hafter⟩ := hagree.of_eq hadvance
    rw [drain_of_error hother, drainHangs_of_last (by simp [hother]), hlast]
    exact ⟨hstep.hangs, fun _ => ⟨rfl, rfl, hafter⟩⟩
  | case2 sparse after hadvance =>
    have hlast : sparse.drainHangs endsAt = _ := drainHangs_of_last (by simp [hadvance])
    have hstep := h.advance hnumbers endsAt fun hends => by
      rw [hadvance]
      exact fun _ => hend (hlast.trans hends)
    refine hstep.and_then drainHangs_of_advanceHangs drainHangs_of_advanceHangs fun _ hagree => ?_
    obtain ⟨other, hother, hafter⟩ := hagree.of_eq hadvance
    rw [drain_of_none hother, drainHangs_of_last (by simp [hother]), hlast]
    exact ⟨hstep.hangs, fun _ => ⟨rfl, rfl, hafter⟩⟩
  | case3 sparse instances after hadvance hpending rest =>
    rename_i ih
    have hstep := h.advance hnumbers endsAt fun _ => by
      rw [hadvance]
      exact fun hnone => absurd rfl (hnone _)
    refine hstep.and_then drainHangs_of_advanceHangs drainHangs_of_advanceHangs
      fun hends hagree => ?_
    have hlater := drainHangs_of_some hadvance
    obtain ⟨other, hother, hafter⟩ := hagree.of_eq hadvance
    rw [hends, Bool.false_or] at hlater
    rw [hlater] at hend ⊢
    rw [drain_of_some hother, drainHangs_of_some hother, hstep.hangs, hends, Bool.false_or]
    obtain ⟨hhangs, halike⟩ := ih (hafter.handOut _) (limits_of_advance hadvance ▸ hnumbers) hend
    refine ⟨hhangs, fun hgoes => ?_⟩
    obtain ⟨hinstances, hfailure, hlast⟩ := halike hgoes
    exact ⟨congrArg (instances ++ ·) hinstances, hfailure, hlast⟩

/-! ## Iterating -/

theorem InStep.begin (h : InStep P S full sparse) : Agree P S full.begin sparse.begin := by
  obtain @⟨t, _, h⟩ := h
  rw [Browse.begin, Browse.begin]
  show Agree P S (if sparse.isIterated then _
    else if !sparse.holdsSocket || sparse.state ≠ .requestSent then _ else _) _
  split
  · exact ⟨rfl, .onTimeline sparse h⟩
  · split
    · exact ⟨rfl, .onTimeline sparse h⟩
    · have hbegun := (InStep.onTimeline { sparse with isIterated := true } h).setState .collecting
      exact ⟨hbegun.timeline.endOf _, hbegun⟩

theorem InStep.next (h : InStep P S full sparse) (hnumbers : sparse.limits.AreNumbers .many)
    (cursor : Cursor)
    (hend : sparse.nextHangs cursor = false → P (sparse.next cursor).2.2.timeline.now) :
    HangAlike (full.nextHangs cursor) (sparse.nextHangs cursor)
      (MoveAlike P S (full.next cursor) (sparse.next cursor)) := by
  cases cursor with
  | done => exact .never rfl rfl ⟨rfl, rfl, h⟩
  | running endsAt instances =>
    cases instances with
    | nil => exact h.fetch hnumbers endsAt hend
    | cons found rest => exact .never rfl rfl ⟨rfl, rfl, h.handOut 1⟩
  | fresh =>
    have hagree := h.begin
    rw [Browse.next, nextHangs] at hend
    rw [Browse.next, Browse.next, nextHangs, nextHangs]
    rcases hbegin : sparse.begin with ⟨failure | endsAt, begun⟩
    · obtain ⟨other, hother, hafter⟩ := hagree.of_eq hbegin
      rw [hother]
      exact .never rfl rfl ⟨rfl, rfl, hafter⟩
    · obtain ⟨other, hother, hafter⟩ := hagree.of_eq hbegin
      rw [hbegin] at hend
      rw [hother]
      exact hafter.fetch (limits_of_begin hbegin ▸ hnumbers) endsAt hend

theorem InStep.iterate (h : InStep P S full sparse) (hnumbers : sparse.limits.AreNumbers .many)
    (hend : sparse.iterateHangs = false → P sparse.iterate.browse.timeline.now) :
    HangAlike full.iterateHangs sparse.iterateHangs
      (IterateAlike P S full.iterate sparse.iterate) := by
  have hagree := h.begin
  rw [Browse.iterate, iterateHangs] at hend
  rw [Browse.iterate, Browse.iterate, iterateHangs, iterateHangs]
  rcases hbegin : sparse.begin with ⟨failure | endsAt, begun⟩
  · obtain ⟨other, hother, hafter⟩ := hagree.of_eq hbegin
    rw [hother]
    exact .never rfl rfl ⟨rfl, rfl, hafter⟩
  · obtain ⟨other, hother, hafter⟩ := hagree.of_eq hbegin
    rw [hbegin] at hend
    rw [hother]
    exact hafter.drain (limits_of_begin hbegin ▸ hnumbers) endsAt hend

theorem InStep.collect (h : InStep P S full sparse) (hnumbers : sparse.limits.AreNumbers .many)
    (hend : sparse.iterateHangs = false → P sparse.collect.2.timeline.now) :
    HangAlike full.iterateHangs sparse.iterateHangs (Agree P S full.collect sparse.collect) := by
  have hsnd : sparse.collect.2 = sparse.iterate.browse := by
    rw [Browse.collect]
    split <;> rfl
  rw [hsnd] at hend
  have hiterated := h.iterate hnumbers hend
  refine ⟨hiterated.hangs, fun hends => ?_⟩
  have halike := hiterated.common hends
  rw [Browse.collect, Browse.collect, halike.failure, halike.instances]
  split <;> exact ⟨rfl, halike.inStep⟩

theorem InStep.sleep (h : InStep P S full sparse) {length : Span}
    (hend : P (sparse.sleep length).timeline.now) :
    InStep P S (full.sleep length) (sparse.sleep length) := by
  obtain ⟨_, h⟩ := h
  exact .onTimeline (sparse.sleep length) (h.sleep hend)

end Browse

namespace Session

open Browse (IterateAlike MoveAlike)

variable {P : Instant → Prop} {S : List Sent} {full sparse : Session}

/-- Two sessions have the same cursors over browses in step. -/
structure InStep (P : Instant → Prop) (S : List Sent) (full sparse : Session) : Prop where
  browse : full.browse.InStep P S sparse.browse
  cursors : full.cursors = sparse.cursors

/-- After a step two sessions are still in step, and the step hands out the same. -/
theorem InStep.act (h : InStep P S full sparse)
    (hnumbers : sparse.browse.limits.AreNumbers .many) (step : Browse.Step)
    (hsent : (sparse.act step).2.browse.timeline.sent ⊆ S)
    (hend : sparse.hangs step = false → P (sparse.act step).2.browse.timeline.now) :
    HangAlike (full.hangs step) (sparse.hangs step) ((full.act step).1 = (sparse.act step).1 ∧
      InStep P S (full.act step).2 (sparse.act step).2) := by
  obtain ⟨hbrowse, hcursors⟩ := h
  cases step with
  | enter =>
    have hagree := hbrowse.enter hsent
    exact .never rfl rfl
      ⟨congrArg (Except.map fun _ => []) hagree.result, hagree.inStep, hcursors⟩
  | close => exact .never rfl rfl ⟨rfl, hbrowse.close, hcursors⟩
  | sleep length => exact .never rfl rfl ⟨rfl, hbrowse.sleep (hend rfl), hcursors⟩
  | collect =>
    have hcollected := hbrowse.collect hnumbers hend
    exact ⟨hcollected.hangs, fun hends =>
      ⟨(hcollected.common hends).result, (hcollected.common hends).inStep, hcursors⟩⟩
  | iterate => exact .never rfl rfl ⟨rfl, hbrowse, congrArg (· ++ [Cursor.fresh]) hcursors⟩
  | next i =>
    rw [Session.act, move, hangs] at hend
    rw [Session.act, Session.act, move, move, hangs, hangs, hcursors]
    cases hfound : sparse.cursors[i]? with
    | none => exact .never rfl rfl ⟨rfl, hbrowse, hcursors⟩
    | some found =>
      rw [hfound] at hend
      have hmoved := hbrowse.next hnumbers found hend
      refine ⟨hmoved.hangs, fun hends => ?_⟩
      have halike := hmoved.common hends
      exact ⟨congrArg (Except.map Option.toList) halike.result, halike.inStep,
        congrArg (sparse.cursors.set i) halike.cursor⟩
  | stop i => exact .never rfl rfl ⟨rfl, hbrowse, congrArg (·.set i .done) hcursors⟩

end Session

end SqlResolution
