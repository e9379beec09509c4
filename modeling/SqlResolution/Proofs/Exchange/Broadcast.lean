import SqlResolution.Proofs.Exchange.Obstacle

/-!
# Who asks to broadcast

A new socket that was not told whether to broadcast decides this when it is opened, by the address
it is opened towards. The network hears of it only if the decision is to broadcast, and this is how
asking is told from not asking: a network that refuses leave to broadcast, with an error of its own,
makes opening fail with that error if it is asked, and changes nothing if it is not.

Whether it is needed depends on the address alone, and not on which entry of which interface speaks
for it: loopback entries count, and those that come before it do not matter.
-/

namespace SqlResolution

namespace Network

variable {network : Network} {given : Option Bool} {family : Family} {address : String}

/-- The same network, but for its answer to who asks for leave to broadcast. -/
def refusing (network : Network) (refusal : Option OsError) : Network :=
  { network with broadcastError := refusal }

/-- A new socket is to broadcast: it was told to, or it was told nothing and is opened towards a
broadcast address. -/
def IsToBroadcast (network : Network) (given : Option Bool) (family : Family) (address : String) :
    Prop :=
  given = some true ∨
    given = none ∧ family = .inet ∧ network.localNetworks.IsBroadcastAddress address

theorem exists_allows_iff (hvalid : network.localNetworks.AreValid) (given : Option Bool)
    (family : Family) (address : String) (port : Port) :
    ∃ allowed, network.allows given ⟨family, address, port⟩ = .ok allowed ∧
      (allowed = true ↔ network.IsToBroadcast given family address) := by
  cases given with
  | some told => exact ⟨told, rfl, by simp [IsToBroadcast]⟩
  | none =>
    cases family with
    | inet =>
      obtain ⟨answer, hanswer, hiff⟩ := LocalNetworks.isBroadcast_iff hvalid address
      exact ⟨answer, hanswer, by simp [IsToBroadcast, hiff]⟩
    | inet6 => exact ⟨false, rfl, by simp [IsToBroadcast]⟩

theorem allows_refusing (network : Network) (refusal : Option OsError) (given : Option Bool)
    (destination : Destination) :
    (network.refusing refusal).allows given destination = network.allows given destination := by
  cases given <;> rfl

theorem openLink_refusing_of_not_allowed (network : Network) (refusal : Option OsError)
    (family : Family) :
    (network.refusing refusal).openLink family false = network.openLink family false := by
  simp [openLink, refusing]

theorem openLink_refusing_of_allowed (hcreate : network.socketError = none) (error : OsError)
    (family : Family) :
    (network.refusing (some error)).openLink family true =
      .failed error (some ⟨family, false, none, false, true⟩) := by
  simp [openLink, refusing, hcreate]

/-- A link that is made has leave to broadcast if this was asked for and not refused. -/
theorem exists_link_of_openLink (hcreate : network.socketError = none) (family : Family)
    (allowed : Bool) :
    ∃ link : Link, link.family = family ∧
      (link.broadcast = true ↔ allowed = true ∧ network.broadcastError = none) ∧
      (network.openLink family allowed = .opened link ∨
        ∃ error, network.openLink family allowed = .failed error (some link)) := by
  rw [openLink, hcreate]
  dsimp only
  split
  next error herror =>
    obtain ⟨hallowed, hrefused⟩ : allowed = true ∧ network.broadcastError = some error := by
      simpa using herror
    exact ⟨_, rfl, by simp [hrefused], .inr ⟨error, rfl⟩⟩
  next hnone =>
    have hleave : allowed = true ↔ allowed = true ∧ network.broadcastError = none := by
      simpa using hnone
    split
    next error _ => exact ⟨_, rfl, hleave, .inr ⟨error, rfl⟩⟩
    next =>
      split
      next error _ => exact ⟨_, rfl, hleave, .inr ⟨error, rfl⟩⟩
      next => exact ⟨_, rfl, hleave, .inl rfl⟩

end Network

namespace Timeline

variable {t : Timeline} {destination : Destination} {refusal : Option OsError}

/-- The same timeline on a network that gives another answer to who asks for leave to broadcast. -/
def refusing (t : Timeline) (refusal : Option OsError) : Timeline :=
  { t with network := t.network.refusing refusal }

/-- To open the socket in use asks for leave to broadcast: if that is refused, opening fails with
the error that says so, whichever it is. -/
def AsksToBroadcast (t : Timeline) : Prop :=
  ∀ error, (t.refusing (some error)).openSocket.1 =
    .error (.transport (.cannotOpen t.socket.name error))

/-- Who does not broadcast does not hear what the answer would have been. -/
theorem openTo_refusing (hlink : t.socket.link = none) (destination : Destination)
    (refusal : Option OsError) :
    (t.refusing refusal).openTo destination false =
      ((t.openTo destination false).1, (t.openTo destination false).2.refusing refusal) := by
  have hsame : (t.refusing refusal).network.openLink destination.family false =
      t.network.openLink destination.family false :=
    Network.openLink_refusing_of_not_allowed t.network refusal destination.family
  cases hopening : t.network.openLink destination.family false with
  | opened link =>
    rw [openTo, openTo, hsame, hopening]
    rfl
  | failed error closed =>
    rw [openTo_eq_of_failed hlink hopening,
      openTo_eq_of_failed (t := t.refusing refusal) hlink (hsame.trans hopening)]
    rfl

/-- One link is made on the way. It has leave to broadcast if this was asked for and not refused. -/
theorem exists_link_of_openTo (hlink : t.socket.link = none)
    (hcreate : t.network.socketError = none) (destination : Destination) (allowed : Bool) :
    ∃ link, (t.openTo destination allowed).2.links = t.links ++ [link] ∧
      link.family = destination.family ∧
      (link.broadcast = true ↔ allowed = true ∧ t.network.broadcastError = none) := by
  obtain ⟨link, hfamily, hleave, hopened | ⟨error, hfailed⟩⟩ :=
    Network.exists_link_of_openLink hcreate destination.family allowed
  · refine ⟨link, ?_, hfamily, hleave⟩
    rw [openTo, hopened]
    rfl
  · refine ⟨link, ?_, hfamily, hleave⟩
    rw [openTo_eq_of_failed hlink hfailed]
    rfl

theorem broadcast_openTo (hlink : t.socket.link = none) (destination : Destination)
    (allowed : Bool) : (t.openTo destination allowed).2.socket.broadcast = t.socket.broadcast := by
  cases hopening : t.network.openLink destination.family allowed with
  | opened link =>
    rw [openTo, hopening]
    rfl
  | failed error closed =>
    obtain ⟨queue, stream, hfinish⟩ := Socket.finish_frame t.socket none
    rw [openTo_eq_of_failed hlink hopening, hfinish]

/-- A new socket that can be made asks for leave to broadcast if it needs to, and only then. The
one link that is made has this leave if it was asked for and not refused, and the socket knows what
was decided. If it does not ask, no refusal makes a difference. -/
theorem openSocket_asks_iff (t : Timeline) (name : SocketName) (given : Option Bool)
    (capacity : Int) {family : Family} {address : String} {others : List (Family × String)}
    (hresolve : t.network.resolve name.host = .ok ((family, address) :: others))
    (hcreate : t.network.socketError = none) (hvalid : t.network.localNetworks.AreValid) :
    let start := t.use (.new name given capacity)
    let needed := t.network.IsToBroadcast given family address
    (start.AsksToBroadcast ↔ needed) ∧
      (∃ link, start.openSocket.2.links = t.links ++ [link] ∧ link.family = family ∧
        (link.broadcast = true ↔ needed ∧ t.network.broadcastError = none)) ∧
      (∃ decided, start.openSocket.2.socket.broadcast = some decided ∧
        (decided = true ↔ needed)) ∧
      (¬needed → ∀ refusal, (start.refusing refusal).openSocket =
        (start.openSocket.1, start.openSocket.2.refusing refusal)) := by
  intro start needed
  obtain ⟨decided, hallows, hneeded⟩ :=
    Network.exists_allows_iff hvalid given family address name.port
  let destination : Destination := ⟨family, address, name.port⟩
  -- The decision is the same on all networks that differ in their refusal only.
  have hopen : ∀ refusal, (start.refusing refusal).openSocket =
      ((start.aim destination decided).refusing refusal).openTo destination decided := by
    intro refusal
    have hdecided : (t.network.refusing refusal).allows given destination = .ok decided := by
      rw [Network.allows_refusing, hallows]
    exact openSocket_of_allows (t := start.refusing refusal) hresolve hdecided
  have hstart : start.openSocket = (start.aim destination decided).openTo destination decided :=
    hopen t.network.broadcastError
  have hunmoved : ¬needed → ∀ refusal, (start.refusing refusal).openSocket =
      (start.openSocket.1, start.openSocket.2.refusing refusal) := by
    intro hnot refusal
    obtain rfl : decided = false := Bool.eq_false_iff.2 (mt hneeded.1 hnot)
    rw [hopen, hstart]
    exact openTo_refusing rfl destination refusal
  refine ⟨⟨fun hasks => ?_, fun hneeds error => ?_⟩, ?_, ?_, hunmoved⟩
  · -- Whoever does not need to would fail alike with any two errors.
    by_contra hnot
    have hone := hasks ⟨1, ""⟩
    have hother := hasks ⟨2, ""⟩
    rw [hunmoved hnot] at hone hother
    cases hone.symm.trans hother
  · obtain rfl : decided = true := hneeded.2 hneeds
    rw [hopen, openTo_eq_of_failed rfl
      (Network.openLink_refusing_of_allowed hcreate error destination.family)]
    rfl
  · obtain ⟨link, hlinks, hsame, hleave⟩ :=
      exists_link_of_openTo (t := start.aim destination decided) rfl hcreate destination decided
    exact ⟨link, by rw [hstart, hlinks]; rfl, hsame, by rw [hleave, hneeded]; rfl⟩
  · exact ⟨decided, by rw [hstart, broadcast_openTo rfl]; rfl, hneeded⟩

/-- A network that refuses leave to broadcast. The branch is reached by a broadcast address that
the second entry of its interface has, and that entry has no address of its own. -/
def guarded : Network :=
  { Network.silent ⟨[⟨"lo", [⟨some "127.0.0.1", none⟩]⟩,
      ⟨"eth0", [⟨some "10.0.0.5", some "10.0.0.255"⟩, ⟨none, some "10.1.255.255"⟩]⟩],
      none, none⟩ with
    names := [("branch", .ok [(.inet, "10.1.255.255"), (.inet6, "fe80::1")])]
    broadcastError := some ⟨13, "Permission denied"⟩ }

/-- Who was told nothing asks, and who was told not to broadcast does not. -/
theorem openSocket_asks_iff_guarded :
    let branch : SocketName := ⟨"branch", .value 1434⟩
    guarded.resolve branch.host = .ok [(.inet, "10.1.255.255"), (.inet6, "fe80::1")] ∧
      guarded.socketError = none ∧ guarded.localNetworks.AreValid ∧
      ((new guarded).use (.new branch none 1000)).AsksToBroadcast ∧
      ¬((new guarded).use (.new branch (some false) 1000)).AsksToBroadcast := by
  intro branch
  have hresolve : guarded.resolve branch.host =
      .ok [(.inet, "10.1.255.255"), (.inet6, "fe80::1")] := by
    rfl
  have hvalid : guarded.localNetworks.AreValid := by decide +kernel
  have hneeds : guarded.IsToBroadcast none .inet "10.1.255.255" :=
    .inr ⟨rfl, rfl, ⟨⟨10, 1, 255, 255⟩, by rfl⟩,
      .inr ⟨_, List.mem_cons_of_mem _ List.mem_cons_self, _,
        List.mem_cons_of_mem _ List.mem_cons_self, rfl⟩⟩
  refine ⟨hresolve, rfl, hvalid, ?_, ?_⟩
  · exact (openSocket_asks_iff (new guarded) branch none 1000 hresolve rfl hvalid).1.2 hneeds
  · intro hasks
    have hneeds :=
      (openSocket_asks_iff (new guarded) branch (some false) 1000 hresolve rfl hvalid).1.1 hasks
    simp [Network.IsToBroadcast] at hneeds

end Timeline

end SqlResolution
