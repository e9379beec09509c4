import SqlResolution.Proofs.Browse.InStep
import SqlResolution.Proofs.Lookup.InStep

/-!
# Refusals are not seen

A host that answers that nobody listens is as good as a host that does not answer. Whatever a
program does on a network, after each of its steps it reads what it would read on the network that
leaves such answers out: what came of the step, the states and counters, the sockets, what was sent,
and the time. A step that never ends does not end on the other network either. Only the log tells of
refusals.

The clock may stop at a refusal, though, and then all comes in that is due by what the clock can
tell apart. So what is left out must not come within a nanosecond before another answer, or before
the end of a step. Nor is it said what comes of a wait whose timeout is no number.
-/

namespace SqlResolution

open Timeline (HangAlike)

/-! ## What is read -/

/-- What came of a step, and how things stand after it. -/
inductive Reading where
  | collected (result : Except Failure (List Datagram)) (timeline : Timeline)
  | browsed (result : Except Failure (List Instance)) (session : Session)
  | lookedUp (result : Except Failure Datagram) (lookup : Lookup)
  | told (result : Socket.Told) (timeline : Timeline)

namespace Reading

def timeline : Reading → Timeline
  | collected _ t => t
  | browsed _ session => session.browse.timeline
  | lookedUp _ lookup => lookup.timeline
  | told _ t => t

/-- The same, over another timeline. -/
def onTimeline (reading : Reading) (t : Timeline) : Reading :=
  match reading with
  | collected result _ => collected result t
  | browsed result session => browsed result { session with browse := session.browse.onTimeline t }
  | lookedUp result lookup => lookedUp result (lookup.onTimeline t)
  | told result _ => .told result t

end Reading

/-- Two timelines show the same to a program, but for what the log tells of refusals. -/
structure Timeline.Alike (full sparse : Timeline) : Prop where
  now : full.now = sparse.now
  sent : full.sent = sparse.sent
  links : full.links = sparse.links
  socket : full.socket = sparse.socket
  notices : LeavesOut (fun notice => notice.IsRefused ∧ notice.level = .info)
    full.notices sparse.notices

/-- Two readings are the same but for their timelines, and these show the same. -/
structure Reading.Alike (full sparse : Reading) : Prop where
  same : full = sparse.onTimeline full.timeline
  timeline : full.timeline.Alike sparse.timeline

/-- What is in step shows the same. -/
theorem Timeline.InStep.alike {P : Instant → Prop} {S : List Sent} {full sparse : Timeline}
    (h : InStep P S full sparse) : full.Alike sparse where
  now := h.now
  sent := h.sent
  links := h.links
  socket := h.socket
  notices := h.notices.mono fun notice hrefused => by
    obtain ⟨socket, error, rfl⟩ := hrefused
    exact ⟨⟨socket, error, rfl⟩, rfl⟩

/-! ## Step after step -/

/-- A system that takes steps, and what is read of it after a step that ends. -/
structure Machine (σ τ α : Type) where
  act : σ → τ → α × σ
  hangs : σ → τ → Bool
  timeline : σ → Timeline
  read : α → σ → Reading
  timeline_read : ∀ result state, (read result state).timeline = timeline state

namespace Machine

variable {σ τ α : Type} {P : Instant → Prop} {S : List Sent} {related : σ → σ → Prop}
  {full sparse : σ}

/-- What is read after each step, as far as the steps end. -/
def readings (m : Machine σ τ α) : σ → List τ → List Reading
  | _, [] => []
  | state, step :: rest =>
    if m.hangs state step then []
    else m.read (m.act state step).1 (m.act state step).2 :: m.readings (m.act state step).2 rest

/-- All that is sent, be it in a step that hangs. -/
def sent (m : Machine σ τ α) : σ → List τ → List Sent
  | _, [] => []
  | state, step :: rest =>
    (m.timeline (m.act state step).2).sent ++
      if m.hangs state step then [] else m.sent (m.act state step).2 rest

/-- A step that is allowed keeps two systems related and does the same in both. What is related
reads the same. -/
structure Keeps (m : Machine σ τ α) (P : Instant → Prop) (S : List Sent)
    (related : σ → σ → Prop) (allowed : τ → Prop) : Prop where
  act : ∀ {full sparse step}, related full sparse → allowed step →
    (m.timeline (m.act sparse step).2).sent ⊆ S →
    (m.hangs sparse step = false → P (m.timeline (m.act sparse step).2).now) →
    HangAlike (m.hangs full step) (m.hangs sparse step)
      ((m.act full step).1 = (m.act sparse step).1 ∧
        related (m.act full step).2 (m.act sparse step).2)
  read : ∀ {full sparse} result, related full sparse →
    (m.read result full).Alike (m.read result sparse)

/-- What each step keeps, a whole run keeps. -/
theorem Keeps.readings {m : Machine σ τ α} {allowed : τ → Prop}
    (hkeeps : m.Keeps P S related allowed) (h : related full sparse) {steps : List τ}
    (hallowed : ∀ step ∈ steps, allowed step) (hsent : m.sent sparse steps ⊆ S)
    (hseen : ∀ reading ∈ m.readings sparse steps, P reading.timeline.now) :
    List.Forall₂ Reading.Alike (m.readings full steps) (m.readings sparse steps) := by
  induction steps generalizing full sparse with
  | nil => exact .nil
  | cons step rest ih =>
    rw [Machine.sent, List.append_subset] at hsent
    rw [Machine.readings] at hseen
    obtain ⟨hfirst, hrest⟩ := List.forall_mem_cons.1 hallowed
    have hstep := hkeeps.act h hfirst hsent.1 fun hends => by
      rw [hends] at hseen
      have hnow := hseen _ List.mem_cons_self
      rwa [m.timeline_read] at hnow
    rw [Machine.readings, Machine.readings, hstep.hangs]
    cases hends : m.hangs sparse step with
    | true => exact .nil
    | false =>
      rw [hends] at hsent hseen
      obtain ⟨hresult, hafter⟩ := hstep.common hends
      refine .cons (hresult ▸ hkeeps.read _ hafter) (ih hafter hrest hsent.2 fun reading hmem => ?_)
      exact hseen reading (List.mem_cons_of_mem _ hmem)

/-- No step hangs in a state of some kind, if the step is allowed, and the kind stays. -/
structure GoesOn (m : Machine σ τ α) (invariant : σ → Prop) (allowed : τ → Prop) : Prop where
  hangs : ∀ {state step}, invariant state → allowed step → m.hangs state step = false
  act : ∀ {state step}, invariant state → allowed step → invariant (m.act state step).2

theorem GoesOn.length_readings {m : Machine σ τ α} {invariant : σ → Prop} {allowed : τ → Prop}
    (hgoes : m.GoesOn invariant allowed) {state : σ} (h : invariant state) {steps : List τ}
    (hallowed : ∀ step ∈ steps, allowed step) :
    (m.readings state steps).length = steps.length := by
  induction steps generalizing state with
  | nil => rfl
  | cons step rest ih =>
    obtain ⟨hfirst, hrest⟩ := List.forall_mem_cons.1 hallowed
    rw [Machine.readings, hgoes.hangs h hfirst]
    exact congrArg (· + 1) (ih (hgoes.act h hfirst) hrest)

end Machine

/-- If a socket is told to wait, it is told a number. -/
def Socket.Command.AreNumbers : Socket.Command → Prop
  | gather mode limits => limits.AreNumbers mode
  | next limits _ => limits.AreNumbers .many
  | _ => True

namespace Timeline

variable {P : Instant → Prop} {S : List Sent} {full sparse : Timeline}

/-- Two networks on which nothing has happened. -/
theorem inStep_new {full sparse : Network} (h : full.Thins P S sparse) :
    InStep P S (new full) (new sparse) where
  network := h
  socket := rfl
  links := rfl
  sent := rfl
  cancelAt := rfl
  called := .nil
  coming := ⟨.nil, .nil, fun _ hmem => absurd hmem List.not_mem_nil⟩
  notices := .nil
  due := fun _ hmem => absurd hmem List.not_mem_nil
  now := rfl

/-- A socket that is told the same tells the same. -/
theorem InStep.obey (h : InStep P S full sparse) {command : Socket.Command}
    (hnumbers : command.AreNumbers)
    (hsent : (sparse.obey command).2.sent ⊆ S)
    (hend : sparse.obeyHangs command = false → P (sparse.obey command).2.now) :
    HangAlike (full.obeyHangs command) (sparse.obeyHangs command)
      ((full.obey command).1 = (sparse.obey command).1 ∧
        InStep P S (full.obey command).2 (sparse.obey command).2) := by
  cases command with
  | start =>
    have hagree := h.openSocket
    exact .never rfl rfl ⟨congrArg Socket.Told.done hagree.result, hagree.inStep⟩
  | send data =>
    have hagree := h.send hsent
    exact .never rfl rfl ⟨congrArg Socket.Told.done hagree.result, hagree.inStep⟩
  | step step =>
    cases step with
    | event event => exact .never rfl rfl ⟨rfl, h.handle event⟩
    | close => exact .never rfl rfl ⟨rfl, h.close⟩
    | sleep length => exact .never rfl rfl ⟨rfl, h.sleep (hend rfl)⟩
    | receive length =>
      have hreceived := h.receive length fun hends _ => hend hends
      refine ⟨hreceived.hangs, fun hends => ?_⟩
      obtain ⟨hresult, hafter⟩ := hreceived.common hends
      exact ⟨congrArg (fun result => Socket.Told.received [result]) hresult, hafter⟩
  | gather mode limits =>
    have hgathered := h.gather hnumbers hend
    refine ⟨hgathered.hangs, fun hends => ?_⟩
    obtain ⟨hdatagrams, hfailure, hafter⟩ := hgathered.common hends
    refine ⟨?_, hafter⟩
    rw [Timeline.obey, Timeline.obey, hdatagrams, hfailure]
  | next limits endsAt =>
    have hnext := h.awaitNext hnumbers endsAt fun hends _ => hend hends
    refine ⟨hnext.hangs, fun hends => ?_⟩
    obtain ⟨hresult, hafter⟩ := hnext.common hends
    exact ⟨congrArg (fun result => Socket.Told.received [result]) hresult, hafter⟩

end Timeline

/-! ## The machines -/

namespace Machine

variable {P : Instant → Prop} {S : List Sent}

/-- A single exchange. -/
def collecting (data : List UInt8) (mode : Mode) (limits : Limits) :
    Machine Timeline Unit (Except Failure (List Datagram)) where
  act t _ := t.collect data mode limits
  hangs t _ := t.collectHangs data mode limits
  timeline t := t
  read := .collected
  timeline_read _ _ := rfl

def browsing : Machine Session Browse.Step (Except Failure (List Instance)) where
  act := Session.act
  hangs := Session.hangs
  timeline session := session.browse.timeline
  read := .browsed
  timeline_read _ _ := rfl

/-- A lookup that is run again and again. -/
def lookingUp : Machine Lookup (Option Span) (Except Failure Datagram) where
  act := Lookup.runCancelledAfter
  hangs := Lookup.runCancelledAfterHangs
  timeline lookup := lookup.timeline
  read := .lookedUp
  timeline_read _ _ := rfl

def obeying : Machine Timeline Socket.Command Socket.Told where
  act := Timeline.obey
  hangs := Timeline.obeyHangs
  timeline t := t
  read := .told
  timeline_read _ _ := rfl

theorem keeps_collecting {data : List UInt8} {mode : Mode} {limits : Limits}
    (hnumbers : limits.AreNumbers mode) :
    (collecting data mode limits).Keeps P S (Timeline.InStep P S) (fun _ => True) where
  act h _ hsent hend := by
    obtain ⟨hhangs, hcommon⟩ := h.collect hnumbers hsent hend
    exact ⟨hhangs, fun hends => ⟨(hcommon hends).result, (hcommon hends).inStep⟩⟩
  read _ h := ⟨rfl, h.alike⟩

theorem keeps_browsing : browsing.Keeps P S
    (fun full sparse => full.InStep P S sparse ∧ sparse.browse.limits.AreNumbers .many)
    (fun _ => True) where
  act := by
    rintro full sparse step ⟨h, hnumbers⟩ - hsent hend
    obtain ⟨hhangs, hcommon⟩ := h.act hnumbers step hsent hend
    refine ⟨hhangs, fun hends => ⟨(hcommon hends).1, (hcommon hends).2, ?_⟩⟩
    exact (Session.limits_act sparse step).symm ▸ hnumbers
  read := by
    rintro ⟨full, cursors⟩ ⟨sparse, _⟩ result ⟨⟨hbrowse, rfl⟩, -⟩
    refine ⟨?_, hbrowse.timeline.alike⟩
    exact congrArg (fun browse => Reading.browsed result ⟨browse, cursors⟩) hbrowse.eq_onTimeline

theorem keeps_lookingUp : lookingUp.Keeps P S
    (fun full sparse => full.InStep P S sparse ∧ sparse.response.IsNumber) (fun _ => True) where
  act := by
    rintro full sparse cancel ⟨h, hnumber⟩ - hsent hend
    obtain ⟨hhangs, hcommon⟩ := h.runCancelledAfter hnumber cancel hsent hend
    refine ⟨hhangs, fun hends => ⟨(hcommon hends).result, (hcommon hends).inStep, ?_⟩⟩
    exact (Lookup.response_run _).symm ▸ hnumber
  read result h := ⟨congrArg (Reading.lookedUp result) h.1.eq_onTimeline, h.1.timeline.alike⟩

theorem keeps_obeying :
    obeying.Keeps P S (Timeline.InStep P S) Socket.Command.AreNumbers where
  act h hnumbers hsent hend := h.obey hnumbers hsent hend
  read _ h := ⟨rfl, h.alike⟩

theorem goesOn_collecting {data : List UInt8} {mode : Mode} {limits : Limits}
    (hwaits : limits.WaitsEnd mode) :
    (collecting data mode limits).GoesOn (fun _ => True) (fun _ => True) where
  hangs _ _ := Timeline.collectHangs_eq_false hwaits _ data
  act _ _ := trivial

theorem goesOn_browsing : browsing.GoesOn Session.WaitsEnd (fun _ => True) where
  hangs h _ := Session.hangs_eq_false h _
  act h _ := h.act _

theorem goesOn_lookingUp :
    lookingUp.GoesOn (fun lookup => lookup.response.WaitEnds) (fun _ => True) where
  hangs h _ := Lookup.runHangs_eq_false h
  act h _ := (Lookup.response_run _).symm ▸ h

theorem goesOn_obeying : obeying.GoesOn (fun _ => True) Socket.Command.WaitsEnd where
  hangs _ h := Timeline.obeyHangs_eq_false h _
  act _ _ := trivial

end Machine

/-! ## Programs -/

/-- Something that a program does on a network, step by step. -/
inductive Program where
  | collect (name : SocketName) (broadcast : Option Bool) (data : List UInt8) (mode : Mode)
    (limits : Limits)
  | browse (name : SocketName) (limits : Limits) (steps : List Browse.Step)
  | lookup (name : SocketName) (request : Request) (response : Setting Timeout)
    (cancels : List (Option Span))
  | use (name : SocketName) (broadcast : Option Bool) (capacity : Int)
    (commands : List Socket.Command)

namespace Program

open Machine

/-- A new socket on a network on which nothing has happened. -/
def beginning (network : Network) (name : SocketName) (broadcast : Option Bool) (capacity : Int) :
    Timeline :=
  (Timeline.new network).use (.new name broadcast capacity)

/-- What a program reads after each of its steps, as far as they end. -/
def readings (network : Network) : Program → List Reading
  | collect name broadcast data mode limits =>
    (collecting data mode limits).readings
      (beginning network name broadcast Protocol.maxQueueSize) [()]
  | browse name limits steps => browsing.readings (.start network name limits) steps
  | lookup name request response cancels =>
    lookingUp.readings (.new (.new network) name request response) cancels
  | use name broadcast capacity commands =>
    obeying.readings (beginning network name broadcast capacity) commands

/-- How many steps a program wants to take. -/
def length : Program → Nat
  | collect .. => 1
  | browse _ _ steps => steps.length
  | lookup _ _ _ cancels => cancels.length
  | use _ _ _ commands => commands.length

/-- All waits of a program have an end. -/
def WaitsEnd : Program → Prop
  | collect _ _ _ mode limits => limits.WaitsEnd mode
  | browse _ limits _ => limits.WaitsEnd .many
  | lookup _ _ response _ => response.WaitEnds
  | use _ _ _ commands => ∀ command ∈ commands, command.WaitsEnd

/-- The timeouts of all single waits of a program are numbers. -/
def AreNumbers : Program → Prop
  | collect _ _ _ mode limits => limits.AreNumbers mode
  | browse _ limits _ => limits.AreNumbers .many
  | lookup _ _ response _ => response.IsNumber
  | use _ _ _ commands => ∀ command ∈ commands, command.AreNumbers

/-- A program whose waits have an end takes all of its steps. -/
theorem length_readings {program : Program} (hwaits : program.WaitsEnd) (network : Network) :
    (program.readings network).length = program.length := by
  cases program with
  | collect name broadcast data mode limits =>
    exact (goesOn_collecting hwaits).length_readings trivial fun _ _ => trivial
  | browse name limits steps =>
    have hstart : (Session.start network name limits).WaitsEnd :=
      ⟨hwaits, fun _ hmem => absurd hmem List.not_mem_nil⟩
    exact goesOn_browsing.length_readings hstart fun _ _ => trivial
  | lookup name request response cancels =>
    have hstart : (Lookup.new (.new network) name request response).response.WaitEnds := hwaits
    exact goesOn_lookingUp.length_readings hstart fun _ _ => trivial
  | use name broadcast capacity commands =>
    exact goesOn_obeying.length_readings trivial hwaits

/-- All that a program sends. -/
def sent (network : Network) : Program → List Sent
  | collect name broadcast data mode limits =>
    (collecting data mode limits).sent
      (beginning network name broadcast Protocol.maxQueueSize) [()]
  | browse name limits steps => browsing.sent (.start network name limits) steps
  | lookup name request response cancels =>
    lookingUp.sent (.new (.new network) name request response) cancels
  | use name broadcast capacity commands =>
    obeying.sent (beginning network name broadcast capacity) commands

/-- The instants that matter: those at which a step ends, and those at which an answer comes. -/
def instants (program : Program) (network : Network) : List Instant :=
  (program.readings network).map (·.timeline.now) ++
    (program.sent network).flatMap fun question =>
      (network.repliesOf question.host).map fun reply => question.time.after reply.after

/-- Of the answers on one network the other leaves out refusals. None of them would come so soon
before an instant that matters to the program that the clock cannot tell the two apart. -/
structure CanMiss (program : Program) (full sparse : Network) : Prop where
  same : full = { sparse with replies := full.replies }
  replies : ∀ host, LeavesOut
    (fun reply => reply.answer.isRefusal = true ∧
      ∀ question ∈ program.sent sparse, question.host = host →
        (question.time.after reply.after).IsApart (· ∈ program.instants sparse))
    (full.repliesOf host) (sparse.repliesOf host)

variable {full sparse : Network} {program : Program}

/-- After each of its steps a program reads the same without the refusals that it can miss. And if
its waits have an end, this is so after all of its steps. -/
theorem readings_alike (hmiss : program.CanMiss full sparse) (hnumbers : program.AreNumbers) :
    List.Forall₂ Reading.Alike (program.readings full) (program.readings sparse) ∧
      (program.WaitsEnd → (program.readings full).length = program.length) := by
  refine ⟨?_, fun hwaits => length_readings hwaits full⟩
  -- What matters, and what is sent, is taken from the run without the refusals.
  have hthins : full.Thins (· ∈ program.instants sparse) (program.sent sparse) sparse :=
    { same := hmiss.same
      replies := hmiss.replies
      matter := fun question hquestion reply hreply =>
        List.mem_append_right _ (List.mem_flatMap.2
          ⟨question, hquestion, List.mem_map.2 ⟨reply, hreply, rfl⟩⟩) }
  have hseen : ∀ reading ∈ program.readings sparse,
      reading.timeline.now ∈ program.instants sparse := fun reading hreading =>
    List.mem_append_left _ (List.mem_map_of_mem hreading)
  have hnew := Timeline.inStep_new hthins
  cases program with
  | collect name broadcast data mode limits =>
    exact (keeps_collecting hnumbers).readings (hnew.use _) (fun _ _ => trivial) (fun _ => id) hseen
  | browse name limits steps =>
    have hbrowse := Browse.InStep.onTimeline (.new (.new sparse) name limits) hnew
    have hsession : Session.InStep _ _ (.start full name limits) (.start sparse name limits) :=
      ⟨hbrowse, rfl⟩
    exact keeps_browsing.readings ⟨hsession, hnumbers⟩ (fun _ _ => trivial) (fun _ => id) hseen
  | lookup name request response cancels =>
    have hlookup := Lookup.InStep.onTimeline (.new (.new sparse) name request response) hnew
    exact keeps_lookingUp.readings ⟨hlookup, hnumbers⟩ (fun _ _ => trivial) (fun _ => id) hseen
  | use name broadcast capacity commands =>
    exact keeps_obeying.readings (hnew.use _) hnumbers (fun _ => id) hseen

/-- What timelines show of alike readings is the same. -/
theorem map_eq_of_alike {β : Type} {shown : Reading → β} {full sparse : List Reading}
    (h : List.Forall₂ Reading.Alike full sparse)
    (hshown : ∀ full sparse, Reading.Alike full sparse → shown full = shown sparse) :
    full.map shown = sparse.map shown := by
  induction h with
  | nil => rfl
  | cons hfirst _ ih => rw [List.map_cons, List.map_cons, hshown _ _ hfirst, ih]

/-- A network on which one host answers. -/
def answering (replies : List Reply) : Network :=
  { Network.silent ⟨[], none, none⟩ with replies := [("10.0.0.1", replies)] }

def refusing (ms : Int) : Reply :=
  ⟨Span.ofMillis ms, .failure ⟨111, "Connection refused"⟩⟩

def sending (ms : Int) (data : List UInt8) : Reply :=
  ⟨Span.ofMillis ms, .datagram none data⟩

/-- On such a network a host leaves out what the other leaves out for its one host. -/
theorem leavesOut_answering {p : Reply → Prop} {full sparse : List Reply} {host : String}
    (h : host = "10.0.0.1" → LeavesOut p full sparse) :
    LeavesOut p ((answering full).repliesOf host) ((answering sparse).repliesOf host) := by
  by_cases hhost : host = "10.0.0.1"
  · subst hhost
    exact h rfl
  · have hsilent (replies : List Reply) : (answering replies).repliesOf host = [] := by
      rw [Network.repliesOf, answering, List.lookup_cons, beq_false_of_ne hhost]
      rfl
    rw [hsilent, hsilent]
    exact .nil

/-- All answers to one question. -/
def asking : Program :=
  .collect ⟨"10.0.0.1", .value 1434⟩ none [2] .many .default

theorem readings_alike_refused :
    asking.CanMiss (answering [refusing 5, sending 20 [5], refusing 30])
        (answering [sending 20 [5]]) ∧
      asking.AreNumbers ∧ asking.WaitsEnd ∧
      (asking.readings (answering [sending 20 [5]])).map (·.timeline.now) =
        [Span.ofMillis 1020] ∧
      List.Forall₂ Reading.Alike
        (asking.readings (answering [refusing 5, sending 20 [5], refusing 30]))
        (asking.readings (answering [sending 20 [5]])) ∧
      (asking.readings (answering [refusing 5, sending 20 [5], refusing 30])).length = 1 := by
  have hmiss : asking.CanMiss (answering [refusing 5, sending 20 [5], refusing 30])
      (answering [sending 20 [5]]) := by
    refine ⟨rfl, fun host => leavesOut_answering fun _ => ?_⟩
    have hapart : ∀ question ∈ asking.sent (answering [sending 20 [5]]), ∀ ms ∈ [(5 : Int), 30],
        ∀ other ∈ asking.instants (answering [sending 20 [5]]),
          other.isDue (question.time.after (Span.ofMillis ms)) = true →
            other ≤ question.time.after (Span.ofMillis ms) := by
      decide +kernel
    refine .drop ⟨rfl, fun question hquestion _ => ?_⟩
      (.keep _ (.drop ⟨rfl, fun question hquestion _ => ?_⟩ .nil))
    · exact hapart question hquestion 5 List.mem_cons_self
    · exact hapart question hquestion 30 (List.mem_cons_of_mem _ List.mem_cons_self)
  have hnumbers : asking.AreNumbers := by
    rintro inactivity ⟨⟩
    decide +kernel
  have hwaits : asking.WaitsEnd := by
    rintro total start - inactivity ⟨⟩ -
    exact .inl (by decide +kernel)
  obtain ⟨halike, hall⟩ := readings_alike hmiss hnumbers
  exact ⟨hmiss, hnumbers, hwaits, by decide +kernel, halike, hall hwaits⟩

/-- Three questions, and all answers that have come by the end of a time. -/
def insisting : Program :=
  .use ⟨"10.0.0.1", .value 1434⟩ none Protocol.maxQueueSize
    [.start, .send [2], .step (.sleep (Span.ofMillis 700)), .send [2],
      .step (.sleep (Span.ofMillis 50)), .send [2],
      .step (.receive (.value (some (Span.ofMillis 90)))),
      .gather .many ⟨.value .defaultResponse, .value (.ofMillis 0), .value (.ofMillis 50)⟩]

/-- The refusal that comes 100 ms after 700 ms comes a little before 800 ms. What comes at 800 ms is
due by then, and so there is still time to take it all. -/
theorem readings_not_alike :
    (∀ host, LeavesOut (fun reply => reply.answer.isRefusal = true)
        ((answering [refusing 100, sending 800 [1], sending 800 [2]]).repliesOf host)
        ((answering [sending 800 [1], sending 800 [2]]).repliesOf host)) ∧
      ¬List.Forall₂ Reading.Alike
        (insisting.readings (answering [refusing 100, sending 800 [1], sending 800 [2]]))
        (insisting.readings (answering [sending 800 [1], sending 800 [2]])) := by
  refine ⟨fun host => leavesOut_answering fun _ => .drop rfl (.refl _), fun halike => ?_⟩
  have hqueues := map_eq_of_alike halike fun _ _ h =>
    congrArg (fun socket => socket.queue.length) h.timeline.socket
  exact absurd hqueues (by decide +kernel)

end Program

end SqlResolution
