import SqlResolution.Proofs.Hanging
import SqlResolution.Proofs.Socket.End
import SqlResolution.Proofs.Timeline.Burst
import SqlResolution.Proofs.Timeline.Schedule

/-!
# Two runs in step

A refusal is told of in the log and changes nothing else but the clock. So two runs that differ
only in refusals stay in step, as long as their clocks do. Who waits may see the clock stop at a
refusal on its way to whatever ends the wait, and so during a wait one clock can be ahead of the
other. It comes to the same instant in the end, unless what comes next is already due at the
refusal: then it is let in early by as much as the clock cannot tell apart. This does not happen if
no instant that matters follows the refusal that closely.
-/

namespace SqlResolution

open Schedule (IsOrdered)

/-- One list is another of which some elements are left out, all of one kind. -/
inductive LeavesOut {α : Type} (p : α → Prop) : List α → List α → Prop
  | nil : LeavesOut p [] []
  | keep {full sparse : List α} (a : α) (h : LeavesOut p full sparse) :
    LeavesOut p (a :: full) (a :: sparse)
  | drop {full sparse : List α} {a : α} (ha : p a) (h : LeavesOut p full sparse) :
    LeavesOut p (a :: full) sparse

namespace LeavesOut

variable {α β : Type} {p : α → Prop} {q : β → Prop} {full sparse more fewer : List α}
  {key : α → Int}

theorem refl (l : List α) : LeavesOut p l l := by
  induction l with
  | nil => exact .nil
  | cons a rest ih => exact .keep a ih

theorem mono {q : α → Prop} (h : LeavesOut p full sparse) (hpq : ∀ a, p a → q a) :
    LeavesOut q full sparse := by
  induction h with
  | nil => exact .nil
  | keep a h ih => exact .keep a ih
  | drop ha h ih => exact .drop (hpq _ ha) ih

theorem append (h : LeavesOut p full sparse) (h' : LeavesOut p more fewer) :
    LeavesOut p (full ++ more) (sparse ++ fewer) := by
  induction h with
  | nil => exact h'
  | keep a h ih => exact .keep a ih
  | drop ha h ih => exact .drop ha ih

theorem mem (h : LeavesOut p full sparse) {a : α} (ha : a ∈ sparse) : a ∈ full := by
  induction h with
  | nil => exact ha
  | keep b h ih =>
    rcases List.mem_cons.1 ha with rfl | hmem
    · exact List.mem_cons_self
    · exact List.mem_cons_of_mem _ (ih hmem)
  | drop hb h ih => exact List.mem_cons_of_mem _ (ih ha)

theorem map (h : LeavesOut p full sparse) (f : α → β) (hf : ∀ a, p a → q (f a)) :
    LeavesOut q (full.map f) (sparse.map f) := by
  induction h with
  | nil => exact .nil
  | keep a h ih => exact .keep (f a) ih
  | drop ha h ih => exact .drop (hf _ ha) ih

/-- Of two lists in order, what comes up to a point is left out of one another, and so is the rest.
 -/
theorem takeWhile_dropWhile (h : LeavesOut p full sparse) (hordered : IsOrdered key full)
    (early : Int → Bool) (hearly : ∀ {a b}, a ≤ b → early b = true → early a = true) :
    LeavesOut p (full.takeWhile fun a => early (key a)) (sparse.takeWhile fun a => early (key a)) ∧
      LeavesOut p (full.dropWhile fun a => early (key a))
        (sparse.dropWhile fun a => early (key a)) := by
  induction h with
  | nil => exact ⟨.nil, .nil⟩
  | keep a h ih =>
    have hcons := List.pairwise_cons.1 hordered
    rw [List.takeWhile_cons, List.takeWhile_cons, List.dropWhile_cons, List.dropWhile_cons]
    split
    · exact ⟨.keep a (ih hcons.2).1, (ih hcons.2).2⟩
    · exact ⟨.nil, .keep a h⟩
  | @drop full sparse a ha h ih =>
    have hcons := List.pairwise_cons.1 hordered
    rw [List.takeWhile_cons, List.dropWhile_cons]
    split
    · exact ⟨.drop ha (ih hcons.2).1, (ih hcons.2).2⟩
    next hlate =>
      cases sparse with
      | nil => exact ⟨.nil, .drop ha h⟩
      | cons b sparse =>
        have hb : ¬early (key b) = true := fun hb =>
          hlate (hearly (hcons.1 b (h.mem List.mem_cons_self)) hb)
        rw [List.takeWhile_cons, List.dropWhile_cons, if_neg hb, if_neg hb]
        exact ⟨.nil, .drop ha h⟩

end LeavesOut

namespace Instant

theorem isDue_of_isDue {earlier time now : Instant} (h : time.isDue now = true)
    (hle : earlier ≤ time) : earlier.isDue now = true := by
  rcases isDue_iff.1 h with hcome | hsoon
  · exact isDue_of_le (hle.trans hcome)
  · exact isDue_iff.2 (.inr (hle.trans_lt hsoon))

/-- No instant that matters comes so soon after this one that it is due then already. -/
def IsApart (time : Instant) (P : Instant → Prop) : Prop :=
  ∀ other, P other → other.isDue time = true → other ≤ time

end Instant

/-- The host says that nobody listens. -/
def Answer.isRefusal : Answer → Bool
  | failure error => error.isRefused
  | _ => false

theorem Answer.isRefusal_event (answer : Answer) (asked : Peer) :
    (answer.event asked).isRefusal = answer.isRefusal := by
  cases answer <;> rfl

/-- A refusal that can be left out. -/
structure Delivery.IsSpare (P : Instant → Prop) (delivery : Delivery) : Prop where
  isRefusal : delivery.event.isRefusal = true
  isApart : delivery.time.IsApart P

def Notice.IsRefused (notice : Notice) : Prop :=
  ∃ socket error, notice = .refused socket error

/-- Of the replies that this network gives to what is sent the other one leaves out refusals. The
others come at instants that matter. -/
structure Network.Thins (P : Instant → Prop) (sent : List Sent) (full sparse : Network) : Prop where
  same : full = { sparse with replies := full.replies }
  replies : ∀ host, LeavesOut
    (fun reply => reply.answer.isRefusal = true ∧
      ∀ question ∈ sent, question.host = host → (question.time.after reply.after).IsApart P)
    (full.repliesOf host) (sparse.repliesOf host)
  matter : ∀ question ∈ sent, ∀ reply ∈ sparse.repliesOf question.host,
    P (question.time.after reply.after)

namespace Timeline

variable {P Q : Instant → Prop} {S : List Sent} {full sparse : Timeline} {delivery : Delivery}
  {agenda fewer : List Delivery} {limit : Option Instant} {time : Instant}

/-- An agenda that is still to come, and what is left of it without the refusals. -/
structure Coming (P : Instant → Prop) (agenda fewer : List Delivery) : Prop where
  leavesOut : LeavesOut (Delivery.IsSpare P) agenda fewer
  ordered : IsOrdered Delivery.time agenda
  matter : ∀ delivery ∈ fewer, P delivery.time

/-- Two runs differ in nothing but refusals, what these leave in the log, and the clock. -/
structure Beside (P : Instant → Prop) (S : List Sent) (full sparse : Timeline) : Prop where
  network : full.network.Thins P S sparse.network
  socket : full.socket = sparse.socket
  links : full.links = sparse.links
  sent : full.sent = sparse.sent
  cancelAt : full.cancelAt = sparse.cancelAt
  called : LeavesOut (Delivery.IsSpare P) full.called sparse.called
  coming : Coming P full.agenda sparse.agenda
  notices : LeavesOut Notice.IsRefused full.notices sparse.notices
  due : full.CalledAreDue

/-- And the clocks show the same. -/
structure InStep (P : Instant → Prop) (S : List Sent) (full sparse : Timeline) : Prop
    extends Beside P S full sparse where
  now : full.now = sparse.now

theorem notices_note (t : Timeline) (notices : List Notice) :
    (t.note notices).notices = t.notices ++ notices := by
  simp [Timeline.notices, note, Function.comp_def]

/-! ## What both do -/

theorem Beside.note (h : Beside P S full sparse) (notices : List Notice) :
    Beside P S (full.note notices) (sparse.note notices) where
  network := h.network
  socket := h.socket
  links := h.links
  sent := h.sent
  cancelAt := h.cancelAt
  called := h.called
  coming := h.coming
  notices := by
    rw [notices_note, notices_note]
    exact h.notices.append (.refl notices)
  due := h.due

theorem Beside.use (h : Beside P S full sparse) (socket : Socket) :
    Beside P S (full.use socket) (sparse.use socket) :=
  { h with socket := rfl }

theorem Beside.withLinks (h : Beside P S full sparse) (links : List Link) :
    Beside P S { full with links } { sparse with links } :=
  { h with links := rfl }

theorem Beside.disconnect (h : Beside P S full sparse) (link : Nat) :
    Beside P S (full.disconnect link) (sparse.disconnect link) := by
  rw [Timeline.disconnect, h.links]
  exact h.withLinks _

theorem Beside.release (h : Beside P S full sparse) (link : Nat) :
    Beside P S (full.release link) (sparse.release link) := by
  rw [Timeline.release, h.links]
  exact h.withLinks _

theorem Beside.isConnected (h : Beside P S full sparse) (link : Nat) :
    full.isConnected link = sparse.isConnected link := by
  rw [Timeline.isConnected, h.links]
  rfl

theorem Beside.isReady (h : Beside P S full sparse) : full.isReady = sparse.isReady := by
  rw [Timeline.isReady, h.socket]
  rfl

theorem Beside.isInTime (h : Beside P S full sparse) (limit : Option Instant) :
    full.isInTime limit = sparse.isInTime limit := by
  funext time
  rw [Timeline.isInTime, h.cancelAt]
  rfl

theorem Beside.handle (h : Beside P S full sparse) (event : Event) :
    Beside P S (full.handle event) (sparse.handle event) := by
  have hfull : full.handle event =
      (full.note (sparse.socket.handle event).1).use (sparse.socket.handle event).2 := by
    rw [← h.socket]
    rfl
  rw [hfull]
  exact (h.note _).use _

theorem Beside.arrive (h : Beside P S full sparse) (delivery : Delivery) :
    Beside P S (full.arrive delivery) (sparse.arrive delivery) := by
  rw [Timeline.arrive, Timeline.arrive, h.isConnected]
  split
  · split
    · exact (h.disconnect _).handle _
    · exact h.handle _
  · exact h

/-! ## The clock -/

theorem Beside.clock (h : Beside P S full sparse) {now : Instant} (hnow : full.now ≤ now)
    (turn : Nat) (now' : Instant) (turn' : Nat) :
    Beside P S { full with now, turn } { sparse with now := now', turn := turn' } :=
  { h with due := fun delivery hmem => Instant.isDue_mono (h.due delivery hmem) hnow }

theorem Beside.networkAt (h : Beside P S full sparse) (time other : Instant) :
    Beside P S (full.networkAt time) (sparse.networkAt other) := by
  rw [networkAt_eq, networkAt_eq]
  exact h.clock (le_clock _ _) _ _ _

theorem Beside.networkAt_left (h : Beside P S full sparse) (time : Instant) :
    Beside P S (full.networkAt time) sparse := by
  rw [networkAt_eq]
  exact h.clock (le_clock _ _) _ sparse.now sparse.turn

theorem Beside.cancelled (h : Beside P S full sparse) (time other : Instant) :
    Beside P S (full.cancelled time) (sparse.cancelled other) := by
  have huncancelled : Beside P S { full with cancelAt := none } { sparse with cancelAt := none } :=
    { h with cancelAt := rfl }
  rw [cancelled_eq, cancelled_eq]
  exact huncancelled.clock (le_clock _ _) _ _ _

theorem InStep.programTurn (h : InStep P S full sparse) :
    InStep P S full.programTurn sparse.programTurn :=
  { h.toBeside.clock (le_refl _) _ _ _ with now := h.now }

theorem InStep.instantOf (h : InStep P S full sparse) (time : Instant) :
    full.instantOf time = sparse.instantOf time := by
  rw [Timeline.instantOf, h.now]
  rfl

/-! ## Deliveries -/

/-- A refusal leaves nothing but a notice. -/
theorem Beside.arrive_left (h : Beside P S full sparse)
    (hrefusal : delivery.event.isRefusal = true) :
    Beside P S (full.arrive delivery) sparse := by
  rw [Timeline.arrive]
  split
  · split
    next hloss =>
      rw [hloss] at hrefusal
      cases hrefusal
    next =>
      cases hevent : delivery.event with
      | datagram | loss =>
        rw [hevent] at hrefusal
        cases hrefusal
      | failure error =>
        rw [hevent] at hrefusal
        have hfail : full.socket.handle (.failure error) =
            ([.refused full.socket.name error], full.socket) := if_pos hrefusal
        have hhandle : full.handle (.failure error) =
            full.note [.refused full.socket.name error] := by
          rw [Timeline.handle, hfail]
          rfl
        rw [hhandle]
        refine { h with notices := ?_ }
        rw [notices_note, ← List.append_nil sparse.notices]
        exact h.notices.append (.drop ⟨_, _, rfl⟩ .nil)
  · exact h

theorem Beside.deliver_left (h : Beside P S full sparse)
    (hrefusal : delivery.event.isRefusal = true) : Beside P S (full.deliver delivery) sparse :=
  (h.networkAt_left _).arrive_left hrefusal

/-- Who is told of the same at the same instant goes on in step. -/
theorem Beside.deliver (h : Beside P S full sparse)
    (hnow : (full.networkAt (full.instantOf delivery.time)).now =
      (sparse.networkAt (sparse.instantOf delivery.time)).now) :
    InStep P S (full.deliver delivery) (sparse.deliver delivery) :=
  { (h.networkAt _ _).arrive delivery with now := by rw [now_deliver, now_deliver, hnow] }

theorem InStep.deliver (h : InStep P S full sparse) (delivery : Delivery) :
    InStep P S (full.deliver delivery) (sparse.deliver delivery) := by
  refine h.toBeside.deliver ?_
  rw [h.instantOf, now_networkAt, now_networkAt, h.now]

theorem InStep.deliver_left (h : InStep P S full sparse)
    (hrefusal : delivery.event.isRefusal = true)
    (hdue : delivery.time.isDue full.now = true) : InStep P S (full.deliver delivery) sparse :=
  { h.toBeside.deliver_left hrefusal with now := (now_deliver_of_due hdue).trans h.now }

theorem InStep.foldl_deliver (h : InStep P S full sparse)
    (hagenda : LeavesOut (Delivery.IsSpare P) agenda fewer)
    (hdue : ∀ delivery ∈ agenda, delivery.time.isDue full.now = true) :
    InStep P S (agenda.foldl Timeline.deliver full) (fewer.foldl Timeline.deliver sparse) := by
  induction hagenda generalizing full sparse with
  | nil => exact h
  | keep delivery hrest ih =>
    refine ih (h.deliver delivery) ?_
    rw [now_deliver_of_due (hdue delivery List.mem_cons_self)]
    exact fun other hmem => hdue other (List.mem_cons_of_mem _ hmem)
  | @drop rest fewer delivery hspare hrest ih =>
    have hfirst := hdue delivery List.mem_cons_self
    refine ih (h.deliver_left hspare.isRefusal hfirst) ?_
    rw [now_deliver_of_due hfirst]
    exact fun other hmem => hdue other (List.mem_cons_of_mem _ hmem)

theorem InStep.deliverCalled (h : InStep P S full sparse) :
    InStep P S full.deliverCalled sparse.deliverCalled := by
  have hemptied : InStep P S { full with called := [] } { sparse with called := [] } :=
    { h with
      called := .nil
      due := fun _ hmem => absurd hmem List.not_mem_nil }
  exact (hemptied.foldl_deliver h.called h.due).programTurn

theorem InStep.callDue (h : InStep P S full sparse) : InStep P S full.callDue sparse.callDue := by
  obtain ⟨hcalled, hagenda⟩ := h.coming.leavesOut.takeWhile_dropWhile h.coming.ordered
    (fun time => Instant.isDue time full.now) fun hle hdue => Instant.isDue_of_isDue hdue hle
  have hsparse : sparse.callDue = { sparse with
      called := sparse.agenda.takeWhile (·.time.isDue full.now)
      agenda := sparse.agenda.dropWhile (·.time.isDue full.now) } := by
    rw [h.now]
    rfl
  rw [hsparse]
  exact { h with
    called := hcalled
    coming :=
      { leavesOut := hagenda
        ordered := h.coming.ordered.sublist (List.dropWhile_sublist _)
        matter := fun delivery hmem =>
          h.coming.matter delivery ((List.dropWhile_sublist _).subset hmem) }
    due := List.all_eq_true.1 List.all_takeWhile }

/-- As long as the clocks show the same, refusals that are due make no difference. -/
theorem InStep.deliverDue (h : InStep P S full sparse) (hcoming : Coming P agenda fewer) :
    InStep P S (full.deliverDue agenda) (sparse.deliverDue fewer) := by
  obtain ⟨hagenda, hordered, hmatter⟩ := hcoming
  induction hagenda generalizing full sparse with
  | nil => exact { h with coming := ⟨.nil, hordered, hmatter⟩ }
  | keep delivery hrest ih =>
    have hcons := List.pairwise_cons.1 hordered
    have hsame : delivery.time.isDue sparse.now = delivery.time.isDue full.now := by rw [h.now]
    rw [Timeline.deliverDue, Timeline.deliverDue, hsame]
    split
    · refine ih (h.deliver delivery) hcons.2 ?_
      exact fun other hmem => hmatter other (List.mem_cons_of_mem _ hmem)
    · exact { h with coming := ⟨.keep delivery hrest, hordered, hmatter⟩ }
  | @drop rest fewer delivery hspare hrest ih =>
    have hcons := List.pairwise_cons.1 hordered
    rw [Timeline.deliverDue]
    split
    next hdue => exact ih (h.deliver_left hspare.isRefusal hdue) hcons.2 hmatter
    next hlate =>
      have hsparse : sparse.deliverDue fewer = { sparse with agenda := fewer } := by
        cases fewer with
        | nil => rfl
        | cons other fewer =>
          refine if_neg fun hdue => hlate ?_
          rw [h.now]
          exact Instant.isDue_of_isDue hdue (hcons.1 other (hrest.mem List.mem_cons_self))
      rw [hsparse]
      exact { h with coming := ⟨.drop hspare hrest, hordered, hmatter⟩ }

theorem InStep.resume (h : InStep P S full sparse) (hcoming : Coming P agenda fewer) :
    InStep P S (full.resume agenda) (sparse.resume fewer) :=
  (h.deliverDue hcoming).programTurn

/-! ## One clock ahead of the other -/

/-- One clock shows the same as the other, or it has stopped at a refusal that is not due by the
other. Nothing of the agenda comes before that. -/
def IsAhead (P Q : Instant → Prop) (agenda : List Delivery) (now start : Instant) : Prop :=
  now = start ∨ now.IsApart P ∧ now.isDue start = false ∧ Q now ∧
    ∀ delivery ∈ agenda, now ≤ delivery.time

theorem IsAhead.of_not_isDue {now start : Instant} (h : IsAhead P Q agenda now start)
    (hlate : now.isDue start = false) : Q now ∧ ∀ delivery ∈ agenda, now ≤ delivery.time := by
  rcases h with hsame | ⟨-, -, hahead⟩
  · rw [hsame, Instant.isDue_of_le (le_refl _)] at hlate
    cases hlate
  · exact hahead

/-- It stops at the next refusal unless it has come so near that this is due. -/
theorem IsAhead.drop (h : IsAhead P Q (delivery :: agenda) full.now sparse.now)
    (hspare : delivery.IsSpare P) (hordered : IsOrdered Delivery.time (delivery :: agenda))
    (htime : Q delivery.time) : IsAhead P Q agenda (full.deliver delivery).now sparse.now := by
  have hcons := List.pairwise_cons.1 hordered
  by_cases hdue : delivery.time.isDue full.now = true
  · rw [now_deliver_of_due hdue]
    refine h.imp_right fun ⟨hapart, hlate, hnow, hle⟩ => ⟨hapart, hlate, hnow, ?_⟩
    exact fun other hmem => hle other (List.mem_cons_of_mem _ hmem)
  · have hlt : full.now < delivery.time := by
      by_contra hle
      exact hdue (Instant.isDue_of_le (not_lt.1 hle))
    have hnow : (full.deliver delivery).now = delivery.time := by
      rw [now_deliver, now_networkAt, Timeline.instantOf, if_neg hdue, max_eq_right hlt.le]
    have hlate : delivery.time.isDue sparse.now = false := by
      refine Bool.eq_false_iff.2 fun hcome => ?_
      rcases h with hsame | ⟨-, hlate, -, -⟩
      · exact hdue (hsame ▸ hcome)
      · rw [Instant.isDue_of_isDue hcome hlt.le] at hlate
        cases hlate
    rw [hnow]
    exact .inr ⟨hspare.isApart, hlate, htime, hcons.1⟩

/-- At an instant that matters the clocks show the same again. -/
theorem IsAhead.meet (h : IsAhead P Q agenda full.now sparse.now) (time : Instant)
    (htime : full.now.isDue sparse.now = false → P time ∧ full.now ≤ time) :
    full.instantOf time = sparse.instantOf time ∧
      (full.networkAt (full.instantOf time)).now =
        (sparse.networkAt (sparse.instantOf time)).now := by
  rcases h with hsame | ⟨hapart, hlate, -, -⟩
  · have hinstant : full.instantOf time = sparse.instantOf time := by
      rw [Timeline.instantOf, Timeline.instantOf, hsame]
    rw [now_networkAt, now_networkAt, hinstant, hsame]
    exact ⟨rfl, rfl⟩
  · obtain ⟨hmatters, hle⟩ := htime hlate
    have hsparse : ¬time.isDue sparse.now = true := by
      intro hdue
      rw [Instant.isDue_of_isDue hdue hle] at hlate
      cases hlate
    have hfull : full.instantOf time = time := by
      rw [Timeline.instantOf]
      split
      next hdue => exact le_antisymm hle (hapart time hmatters hdue)
      next => rfl
    have hstart : sparse.now ≤ time := by
      by_contra hlt
      exact hsparse (Instant.isDue_of_le (not_le.1 hlt).le)
    rw [now_networkAt, now_networkAt, hfull, Timeline.instantOf, if_neg hsparse,
      max_eq_right hle, max_eq_right hstart]
    exact ⟨rfl, rfl⟩

/-- Who waits for an instant comes to it alike if it matters where that ends. -/
theorem IsAhead.meet_at_end (h : IsAhead P Q agenda full.now sparse.now)
    (hbefore : ∀ now, Q now → now ≤ time)
    (hend : P (sparse.networkAt (sparse.instantOf time)).now) :
    full.instantOf time = sparse.instantOf time ∧
      (full.networkAt (full.instantOf time)).now =
        (sparse.networkAt (sparse.instantOf time)).now := by
  refine h.meet time fun hlate => ?_
  have hle := hbefore _ (h.of_not_isDue hlate).1
  have hnotdue : ¬time.isDue sparse.now = true := by
    intro hdue
    rw [Instant.isDue_of_isDue hdue hle] at hlate
    cases hlate
  have hlt : sparse.now ≤ time := by
    by_contra hover
    exact hnotdue (Instant.isDue_of_le (not_le.1 hover).le)
  rw [now_networkAt, Timeline.instantOf, if_neg hnotdue, max_eq_right hlt] at hend
  exact ⟨hend, hle⟩

/-! ## Giving up -/

theorem now_giveUp {t : Timeline} (h : t.giveUpTime? limit = some time) (agenda : List Delivery) :
    (t.giveUp limit agenda).2.now = (t.networkAt (t.instantOf time)).now := by
  rw [giveUp_eq h, now_networkAt]
  split
  · rw [now_resume, now_cancelled]
  · rw [now_resume, now_networkAt]

theorem Beside.giveUpTime (h : Beside P S full sparse) (limit : Option Instant) :
    full.giveUpTime? limit = sparse.giveUpTime? limit := by
  unfold giveUpTime?
  rw [h.cancelAt]

/-- What is given up ends at the same instant, if that matters. -/
theorem Beside.giveUp (h : Beside P S full sparse)
    (hahead : IsAhead P Q agenda full.now sparse.now) (hbefore : ∀ now, Q now → now ≤ time)
    (hcoming : Coming P agenda fewer) (htime : sparse.giveUpTime? limit = some time)
    (hend : P (sparse.giveUp limit fewer).2.now) :
    (full.giveUp limit agenda).1 = (sparse.giveUp limit fewer).1 ∧
      InStep P S (full.giveUp limit agenda).2 (sparse.giveUp limit fewer).2 := by
  have hfull : full.giveUpTime? limit = some time := (h.giveUpTime limit).trans htime
  rw [now_giveUp htime] at hend
  obtain ⟨hinstant, hnow⟩ := hahead.meet_at_end hbefore hend
  rw [giveUp_eq hfull, giveUp_eq htime, h.cancelAt, hinstant]
  rw [hinstant] at hnow
  split
  · refine ⟨rfl, InStep.resume ⟨h.cancelled _ _, ?_⟩ hcoming⟩
    rw [now_cancelled, now_cancelled, ← now_networkAt, ← now_networkAt]
    exact hnow
  · exact ⟨rfl, InStep.resume ⟨h.networkAt _ _, hnow⟩ hcoming⟩

/-! ## Waiting -/

/-- What arrives in time does so before the wait is given up. -/
theorem le_giveUpTime {t : Timeline} {now : Instant} (htime : t.giveUpTime? limit = some time)
    (h : t.isInTime limit now = true) : now ≤ time := by
  rw [isInTime, Bool.and_eq_true] at h
  unfold giveUpTime? at htime
  split at htime
  next cancel bound hcancel =>
    cases htime
    rw [hcancel] at h
    exact le_min (le_of_lt (of_decide_eq_true h.2)) (of_decide_eq_true h.1)
  next cancel hcancel =>
    cases htime
    rw [hcancel] at h
    exact le_of_lt (of_decide_eq_true h.2)
  next =>
    subst htime
    exact of_decide_eq_true h.1

/-- One clock can be ahead of the other while nothing is there and all that has come was in time. -/
abbrev IsAheadInWait (P : Instant → Prop) (limit : Option Instant) (agenda : List Delivery)
    (full sparse : Timeline) : Prop :=
  IsAhead P (fun now => sparse.isReady = false ∧ sparse.isInTime limit now = true) agenda full.now
    sparse.now

/-- What two waits have in common: how they end, and if they end at all, the runs are in step. -/
def WaitAlike (P : Instant → Prop) (S : List Sent) (limit : Option Instant) (full sparse : Timeline)
    (agenda fewer : List Delivery) : Prop :=
  (full.waitFrom limit agenda).1 = (sparse.waitFrom limit fewer).1 ∧
    ((sparse.giveUpTime? limit).isSome = true ∨ (sparse.waitFrom limit fewer).1 = .ready →
      InStep P S (full.waitFrom limit agenda).2 (sparse.waitFrom limit fewer).2)

theorem Beside.waitFrom_of_ready (h : Beside P S full sparse)
    (hahead : IsAheadInWait P limit agenda full sparse) (hcoming : Coming P agenda fewer)
    (hready : sparse.isReady = true) : WaitAlike P S limit full sparse agenda fewer := by
  have hnow : full.now = sparse.now := by
    rcases hahead with hsame | ⟨-, -, ⟨hempty, -⟩, -⟩
    · exact hsame
    · rw [hready] at hempty
      cases hempty
  rw [WaitAlike, Timeline.waitFrom_of_ready limit agenda (h.isReady.trans hready),
    Timeline.waitFrom_of_ready limit fewer hready]
  exact ⟨rfl, fun _ => InStep.resume ⟨h, hnow⟩ hcoming⟩

theorem Beside.waitFrom_of_late (h : Beside P S full sparse)
    (hahead : IsAheadInWait P limit agenda full sparse) (hcoming : Coming P agenda fewer)
    (hready : sparse.isReady = false)
    (hlate : ∀ delivery ∈ agenda.head?, sparse.isInTime limit delivery.time = false)
    (hend : (sparse.giveUpTime? limit).isSome = true → (sparse.waitFrom limit fewer).1 ≠ .ready →
      P (sparse.waitFrom limit fewer).2.now) :
    WaitAlike P S limit full sparse agenda fewer := by
  have hlater : ∀ delivery ∈ agenda, sparse.isInTime limit delivery.time = false := by
    cases agenda with
    | nil => exact fun _ hmem => absurd hmem List.not_mem_nil
    | cons first rest =>
      intro delivery hmem
      have hfirst := hlate first rfl
      have hle : first.time ≤ delivery.time := by
        rcases List.mem_cons.1 hmem with rfl | hrest
        · exact le_refl _
        · exact (List.pairwise_cons.1 hcoming.ordered).1 delivery hrest
      refine Bool.eq_false_iff.2 fun hintime => ?_
      rw [isInTime_of_le hle hintime] at hfirst
      cases hfirst
  have hfull : full.waitFrom limit agenda = full.giveUp limit agenda :=
    Timeline.waitFrom_of_late (h.isReady.trans hready) (by rwa [h.isInTime])
  have hsparse : sparse.waitFrom limit fewer = sparse.giveUp limit fewer :=
    Timeline.waitFrom_of_late hready fun delivery hmem =>
      hlater delivery (hcoming.leavesOut.mem (List.mem_of_mem_head? hmem))
  rw [hsparse] at hend
  rw [WaitAlike, hfull, hsparse]
  cases htime : sparse.giveUpTime? limit with
  | some time =>
    rw [htime] at hend
    have hgiven := h.giveUp hahead (fun now hnow => le_giveUpTime htime hnow.2) hcoming htime
      (hend rfl (giveUp_ne_ready _ _ _))
    exact ⟨hgiven.1, fun _ => hgiven.2⟩
  | none =>
    rw [giveUp_of_none htime, giveUp_of_none (h.giveUpTime limit ▸ htime)]
    exact ⟨rfl, fun hends => absurd hends (by decide)⟩

/-- Who waits is not told of refusals. Where the clock stops then matters only if no event ends the
wait. -/
theorem Beside.waitFrom (h : Beside P S full sparse)
    (hahead : IsAheadInWait P limit agenda full sparse) (hcoming : Coming P agenda fewer)
    (hend : (sparse.giveUpTime? limit).isSome = true → (sparse.waitFrom limit fewer).1 ≠ .ready →
      P (sparse.waitFrom limit fewer).2.now) :
    WaitAlike P S limit full sparse agenda fewer := by
  obtain ⟨hagenda, hordered, hmatter⟩ := hcoming
  -- A refusal that is left out moves one clock only, and the next event that is kept, or the end of
  -- the wait, brings the clocks together again.
  induction hagenda generalizing full sparse with
  | nil =>
    have hcoming : Coming P [] [] := ⟨.nil, hordered, hmatter⟩
    cases hready : sparse.isReady with
    | true => exact h.waitFrom_of_ready hahead hcoming hready
    | false => exact h.waitFrom_of_late hahead hcoming hready (fun _ hnone => nomatch hnone) hend
  | @keep rest fewer delivery hrest ih =>
    have hcoming := Coming.mk (.keep delivery hrest) hordered hmatter
    cases hready : sparse.isReady with
    | true => exact h.waitFrom_of_ready hahead hcoming hready
    | false =>
      cases hintime : sparse.isInTime limit delivery.time with
      | true =>
        have hfull := waitFrom_cons_of_isInTime rest (h.isReady.trans hready)
          ((congrFun (h.isInTime limit) _).trans hintime)
        have hsparse := waitFrom_cons_of_isInTime fewer hready hintime
        have hmeet := hahead.meet delivery.time fun hlate =>
          ⟨hmatter delivery List.mem_cons_self,
            (hahead.of_not_isDue hlate).2 delivery List.mem_cons_self⟩
        have hstep := h.deliver hmeet.2
        have hsame : (sparse.deliver delivery).giveUpTime? limit = sparse.giveUpTime? limit := by
          unfold giveUpTime?
          rw [cancelAt_deliver]
        rw [hsparse, ← hsame] at hend
        have hlater := ih hstep.toBeside (.inl hstep.now) hend (List.pairwise_cons.1 hordered).2
          fun other hmem => hmatter other (List.mem_cons_of_mem _ hmem)
        rw [WaitAlike, hsame] at hlater
        rw [WaitAlike, hfull, hsparse]
        exact hlater
      | false =>
        refine h.waitFrom_of_late hahead hcoming hready ?_ hend
        intro other hother
        cases hother
        exact hintime
  | @drop rest fewer delivery hspare hrest ih =>
    have hcoming := Coming.mk (.drop hspare hrest) hordered hmatter
    cases hready : sparse.isReady with
    | true => exact h.waitFrom_of_ready hahead hcoming hready
    | false =>
      cases hintime : sparse.isInTime limit delivery.time with
      | true =>
        have hfull := waitFrom_cons_of_isInTime rest (h.isReady.trans hready)
          ((congrFun (h.isInTime limit) _).trans hintime)
        rw [WaitAlike, hfull]
        exact ih (h.deliver_left hspare.isRefusal)
          (hahead.drop hspare hordered ⟨hready, hintime⟩) hend (List.pairwise_cons.1 hordered).2
          hmatter
      | false =>
        refine h.waitFrom_of_late hahead hcoming hready ?_ hend
        intro other hother
        cases hother
        exact hintime

/-- One run goes on just if the other does, and then they have this in common. -/
structure HangAlike (full sparse : Bool) (common : Prop) : Prop where
  hangs : full = sparse
  common : sparse = false → common

namespace HangAlike

variable {first firstSparse whole wholeSparse : Bool} {p q : Prop}

theorem never (hfull : first = false) (hsparse : firstSparse = false) (h : p) :
    HangAlike first firstSparse p :=
  ⟨hfull.trans hsparse.symm, fun _ => h⟩

/-- What begins with something that hangs alike, and goes on alike. -/
theorem and_then (h : HangAlike first firstSparse p) (hfull : first = true → whole = true)
    (hsparse : firstSparse = true → wholeSparse = true)
    (hrest : firstSparse = false → p → HangAlike whole wholeSparse q) :
    HangAlike whole wholeSparse q := by
  cases hhangs : firstSparse with
  | false => exact hrest hhangs (h.common hhangs)
  | true =>
    have hsame := (hfull (h.hangs.trans hhangs)).trans (hsparse hhangs).symm
    exact ⟨hsame, fun hgoes => absurd hgoes (ne_false_of_eq_true (hsparse hhangs))⟩

end HangAlike

theorem InStep.wait (h : InStep P S full sparse)
    (hend : sparse.hangs limit = false → (sparse.wait limit).1 ≠ .ready →
      P (sparse.wait limit).2.now) :
    HangAlike (full.hangs limit) (sparse.hangs limit) ((full.wait limit).1 = (sparse.wait limit).1 ∧
      InStep P S (full.wait limit).2 (sparse.wait limit).2) := by
  have halike := h.toBeside.waitFrom (.inl h.now) h.coming fun hsome =>
    hend (hangs_eq_false_iff.2 (.inl hsome))
  refine ⟨?_, fun hends => ⟨halike.1, halike.2 (hangs_eq_false_iff.1 hends)⟩⟩
  rw [Timeline.hangs, Timeline.hangs, h.giveUpTime, Timeline.wait, halike.1]
  rfl

/-! ## Sleeping -/

theorem Beside.wake (h : Beside P S full sparse)
    (hahead : IsAhead P (· < time) agenda full.now sparse.now) (hcoming : Coming P agenda fewer)
    (hend : P ((sparse.networkAt (sparse.instantOf time)).resume fewer).now) :
    InStep P S ((full.networkAt (full.instantOf time)).resume agenda)
      ((sparse.networkAt (sparse.instantOf time)).resume fewer) := by
  rw [now_resume] at hend
  have hnow := (hahead.meet_at_end (fun now hlt => le_of_lt hlt) hend).2
  exact InStep.resume ⟨h.networkAt _ _, hnow⟩ hcoming

theorem Beside.sleepFrom (h : Beside P S full sparse)
    (hahead : IsAhead P (· < time) agenda full.now sparse.now) (hcoming : Coming P agenda fewer)
    (hend : P (sparse.sleepFrom time fewer).now) :
    InStep P S (full.sleepFrom time agenda) (sparse.sleepFrom time fewer) := by
  obtain ⟨hagenda, hordered, hmatter⟩ := hcoming
  induction hagenda generalizing full sparse with
  | nil => exact h.wake hahead ⟨.nil, hordered, hmatter⟩ hend
  | @keep rest fewer delivery hrest ih =>
    rw [Timeline.sleepFrom] at hend ⊢
    rw [Timeline.sleepFrom]
    split at hend
    next hearly =>
      have hmeet := hahead.meet delivery.time fun hlate =>
        ⟨hmatter delivery List.mem_cons_self,
          (hahead.of_not_isDue hlate).2 delivery List.mem_cons_self⟩
      have hstep := h.deliver hmeet.2
      rw [if_pos hearly, if_pos hearly]
      exact ih hstep.toBeside (.inl hstep.now) hend (List.pairwise_cons.1 hordered).2
        fun other hmem => hmatter other (List.mem_cons_of_mem _ hmem)
    next hlate =>
      rw [if_neg hlate, if_neg hlate]
      exact h.wake hahead ⟨.keep delivery hrest, hordered, hmatter⟩ hend
  | @drop rest fewer delivery hspare hrest ih =>
    have hcons := List.pairwise_cons.1 hordered
    rw [Timeline.sleepFrom]
    split
    next hearly =>
      exact ih (h.deliver_left hspare.isRefusal) (hahead.drop hspare hordered hearly) hend hcons.2
        hmatter
    next hlate =>
      -- The refusal comes too late, and so does all that is behind it.
      have hsparse : sparse.sleepFrom time fewer =
          (sparse.networkAt (sparse.instantOf time)).resume fewer := by
        cases fewer with
        | nil => rfl
        | cons other fewer =>
          exact if_neg fun hearly =>
            hlate ((hcons.1 other (hrest.mem List.mem_cons_self)).trans_lt hearly)
      rw [hsparse] at hend ⊢
      exact h.wake hahead ⟨.drop hspare hrest, hordered, hmatter⟩ hend

theorem InStep.sleep (h : InStep P S full sparse) {length : Span}
    (hend : P (sparse.sleep length).now) :
    InStep P S (full.sleep length) (sparse.sleep length) := by
  have hcalled := h.deliverCalled
  rw [Timeline.sleep] at hend ⊢
  rw [Timeline.sleep]
  split at hend
  next hlong =>
    rw [if_pos hlong, if_pos hlong, hcalled.now]
    exact hcalled.toBeside.sleepFrom (.inl hcalled.now) hcalled.coming hend
  next hshort =>
    rw [if_neg hshort, if_neg hshort]
    exact hcalled.callDue

/-! ## What is put on the agenda -/

theorem Coming.insert (h : Coming P agenda fewer) (hmatters : P delivery.time) :
    Coming P (delivery.insert agenda) (delivery.insert fewer) := by
  obtain ⟨hagenda, hordered, hmatter⟩ := h
  refine ⟨?_, Schedule.isOrdered_insert hordered delivery, ?_⟩
  · induction hagenda with
    | nil => exact .keep delivery .nil
    | @keep rest fewer other hrest ih =>
      rw [Delivery.insert, Delivery.insert]
      split
      · exact .keep other (ih (List.pairwise_cons.1 hordered).2
          fun later hmem => hmatter later (List.mem_cons_of_mem _ hmem))
      · exact .keep delivery (.keep other hrest)
    | @drop rest fewer other hspare hrest ih =>
      have hcons := List.pairwise_cons.1 hordered
      rw [Delivery.insert]
      split
      · exact .drop hspare (ih hcons.2 hmatter)
      next hearlier =>
        -- What is left of the later ones is later too.
        have hfewer : delivery.insert fewer = delivery :: fewer := by
          cases fewer with
          | nil => rfl
          | cons first fewer =>
            exact if_neg fun hle =>
              hearlier ((hcons.1 first (hrest.mem List.mem_cons_self)).trans hle)
        rw [hfewer]
        exact .keep delivery (.drop hspare hrest)
  · intro other hmem
    rcases Schedule.mem_insert_iff.1 hmem with rfl | hold
    · exact hmatters
    · exact hmatter other hold

theorem Coming.insert_left (h : Coming P agenda fewer) (hspare : delivery.IsSpare P) :
    Coming P (delivery.insert agenda) fewer := by
  obtain ⟨hagenda, hordered, hmatter⟩ := h
  refine ⟨?_, Schedule.isOrdered_insert hordered delivery, hmatter⟩
  clear hordered hmatter
  induction hagenda with
  | nil => exact .drop hspare .nil
  | keep other hrest ih =>
    rw [Delivery.insert]
    split
    · exact .keep other ih
    · exact .drop hspare (.keep other hrest)
  | drop hother hrest ih =>
    rw [Delivery.insert]
    split
    · exact .drop hother ih
    · exact .drop hspare (.drop hother hrest)

theorem Coming.foldl_insert {more fewerMore : List Delivery}
    (hmore : LeavesOut (Delivery.IsSpare P) more fewerMore)
    (hmatter : ∀ delivery ∈ fewerMore, P delivery.time) (h : Coming P agenda fewer) :
    Coming P (more.foldl (fun agenda d => d.insert agenda) agenda)
      (fewerMore.foldl (fun agenda d => d.insert agenda) fewer) := by
  induction hmore generalizing agenda fewer with
  | nil => exact h
  | keep delivery hrest ih =>
    exact ih (fun other hmem => hmatter other (List.mem_cons_of_mem _ hmem))
      (h.insert (hmatter delivery List.mem_cons_self))
  | drop hspare hrest ih => exact ih hmatter (h.insert_left hspare)

end Timeline

end SqlResolution
