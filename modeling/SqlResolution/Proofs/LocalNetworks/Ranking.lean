import Mathlib.Data.List.Perm.Basic
import SqlResolution.Proofs.LocalNetworks

/-!
# Preferred networks

The networks that are preferred are those of the interface to the gateway, then the others, then
those that begin with `172.`, then those of the local host. Read of a network as a whole this is an
order of its own, which knows nothing of entries: a network is on the interface to the gateway if
any of its entries is. The list follows the rank of the speaker instead, and the two are the same if
the entries of a network agree, that is, if they are on one interface and all or none of them are of
the local host. Then it does not matter either in which order the entries stand: whoever speaks
first says the same.

If they do not agree, then the first one decides, and a network that is on the interface to the
gateway goes before one that is not only if its speaker is on this interface, or else is better.
-/

namespace SqlResolution.LocalNetworks

variable {host other : LocalNetworks} {includeLoopback : Bool} {broadcast : String}
  {networks others : List BroadcastNetwork} {network : BroadcastNetwork}
  {entry : String × InterfaceAddress}

/-! ## The order of two networks -/

theorem pair_sublist_or {α : Type} {items : List α} {a b : α} (ha : a ∈ items) (hb : b ∈ items)
    (hne : a ≠ b) : [a, b].Sublist items ∨ [b, a].Sublist items := by
  obtain ⟨before, after, rfl⟩ := List.append_of_mem ha
  rcases List.mem_append.1 hb with hbefore | hafter
  · exact .inr ((List.singleton_sublist.2 hbefore).append (List.singleton_sublist.2 (by simp)))
  · have hlater : b ∈ after := (List.mem_cons.1 hafter).resolve_left (Ne.symm hne)
    exact .inl (((List.singleton_sublist.2 hlater).cons_cons a).trans
      (List.sublist_append_right before _))

/-- Of two addresses the one whose speaker ranks higher comes first. -/
theorem Ranks.pair_sublist_iff (h : host.Ranks includeLoopback networks) {x y : String}
    {first second : String × InterfaceAddress}
    (hfirst : host.speaker? includeLoopback x = some first)
    (hsecond : host.speaker? includeLoopback y = some second) :
    [x, y].Sublist (networks.map (·.broadcast)) ↔
      (host.networkBy x first).Outranks (host.networkBy y second) := by
  constructor
  · intro hpair
    obtain ⟨pair, hsublist, hpair⟩ := List.sublist_map_iff.1 hpair
    obtain ⟨a, b, rfl⟩ : ∃ a b, pair = [a, b] :=
      List.length_eq_two.1 (by simpa using (congrArg List.length hpair).symm)
    obtain ⟨rfl, rfl⟩ : x = a.broadcast ∧ y = b.broadcast := by simpa using hpair
    rw [← h.eq_networkBy (hsublist.subset (by simp)) hfirst,
      ← h.eq_networkBy (hsublist.subset (by simp)) hsecond]
    exact List.pairwise_iff_forall_sublist.1 h.ordered hsublist
  · intro houtranks
    have hne : host.networkBy x first ≠ host.networkBy y second := by
      intro heq
      rw [heq] at houtranks
      exact houtranks.asymm houtranks
    rcases pair_sublist_or (h.mem_of_speaker? hfirst) (h.mem_of_speaker? hsecond) hne with
      hpair | hpair
    · exact hpair.map (·.broadcast)
    · exact absurd (List.pairwise_iff_forall_sublist.1 h.ordered hpair) houtranks.asymm

/-- Nothing but the speakers and their ranks decides on the list. -/
theorem Ranks.eq (h : host.Ranks includeLoopback networks)
    (hother : host.Ranks includeLoopback others) : networks = others := by
  have hperm : networks.Perm others :=
    (List.perm_ext_iff_of_nodup h.distinct.of_map hother.distinct.of_map).2 fun network =>
      (h.mem_iff network).trans (hother.mem_iff network).symm
  exact hperm.eq_of_pairwise (fun a b _ _ hab hba => absurd hba hab.asymm) h.ordered hother.ordered

/-! ## The gateway -/

theorem rank_networkBy_eq_zero_iff :
    (host.networkBy broadcast entry).rank = 0 ↔ host.gateway4.map (·.interface) = some entry.1 := by
  show rankOf _ _ _ _ = 0 ↔ _
  rw [rankOf]
  split
  next hgateway => simp [hgateway]
  next hgateway =>
    refine iff_of_false ?_ hgateway
    split
    · omega
    · split <;> omega

/-- Of two networks of which only one is on the interface to the gateway, this one comes first just
if the entry that speaks for it is on that interface, or has a better rank without that. -/
theorem gateway_first_iff (host : LocalNetworks) (hvalid : host.AreValid) (includeLoopback : Bool)
    {gateway : Gateway} (hgateway : host.gateway4 = some gateway) :
    ∃ addresses, host.broadcastAddresses includeLoopback = .ok addresses ∧
      ∀ x y, host.Lists includeLoopback gateway.interface x → y ∈ addresses →
        ¬host.Lists true gateway.interface y →
        ∃ first second, host.speaker? includeLoopback x = some first ∧
          host.speaker? includeLoopback y = some second ∧
          ([x, y].Sublist addresses ↔ first.1 = gateway.interface ∨
            (host.networkBy x first).Outranks (host.networkBy y second)) := by
  obtain ⟨networks, hnetworks, hranks⟩ := exists_ranks hvalid includeLoopback
  refine ⟨networks.map (·.broadcast), by rw [broadcastAddresses, hnetworks]; rfl, ?_⟩
  intro x y hx hy hnot
  obtain ⟨first, hfirst⟩ := exists_speaker?_iff.2 ⟨_, hx⟩
  obtain ⟨second, hsecond⟩ := exists_speaker?_iff.2 (hranks.mem_broadcasts_iff.1 hy)
  refine ⟨first, second, hfirst, hsecond, ?_⟩
  rw [hranks.pair_sublist_iff hfirst hsecond]
  refine ⟨.inr, fun h => h.elim (fun hinterface => .inl ?_) id⟩
  have hzero : (host.networkBy x first).rank = 0 := by
    rw [rank_networkBy_eq_zero_iff, hgateway, hinterface]
    rfl
  have hpositive : (host.networkBy y second).rank ≠ 0 := by
    rw [ne_eq, rank_networkBy_eq_zero_iff, hgateway]
    intro hsame
    obtain ⟨hmem, hoffers⟩ := of_speaker? hsecond
    have hon : second.1 = gateway.interface := (Option.some.inj hsame).symm
    exact hnot ⟨second.2, hon ▸ hmem, hoffers.1, .inl rfl⟩
  omega

/-- A host that is on one network by wireless and by the interface to the gateway, and on another
network besides. The wireless interface comes first. -/
def wireless : LocalNetworks where
  interfaces := [⟨"wlan0", [⟨some "192.168.1.21", some "192.168.1.255"⟩]⟩,
    ⟨"eth1", [⟨some "10.0.0.5", some "10.0.0.255"⟩]⟩,
    ⟨"eth0", [⟨some "192.168.1.20", some "192.168.1.255"⟩]⟩]
  gateway4 := some ⟨"192.168.1.1", "eth0"⟩
  gateway6 := none

/-- The network of the gateway comes behind the other one, because the wireless interface speaks
for it. -/
theorem gateway_first_iff_wireless :
    wireless.AreValid ∧ wireless.gateway4 = some ⟨"192.168.1.1", "eth0"⟩ ∧
      wireless.Lists false "eth0" "192.168.1.255" ∧ ¬wireless.Lists true "eth0" "10.0.0.255" ∧
      ∃ addresses, wireless.broadcastAddresses false = .ok addresses ∧
        ("10.0.0.255" ∈ addresses → ¬["192.168.1.255", "10.0.0.255"].Sublist addresses) := by
  have hvalid : wireless.AreValid := by decide +kernel
  have hon : wireless.Lists false "eth0" "192.168.1.255" :=
    ⟨⟨some "192.168.1.20", some "192.168.1.255"⟩, by decide, by decide +kernel⟩
  have hoff : ¬wireless.Lists true "eth0" "10.0.0.255" := by
    rintro ⟨entry, hmem, hbroadcast, -⟩
    have hall : ∀ found ∈ wireless.entries,
        found.1 = "eth0" → found.2.broadcast ≠ some "10.0.0.255" := by
      decide
    exact hall _ hmem rfl hbroadcast
  obtain ⟨addresses, haddresses, horder⟩ := gateway_first_iff wireless hvalid false rfl
  refine ⟨hvalid, rfl, hon, hoff, addresses, haddresses, fun hlisted hpair => ?_⟩
  obtain ⟨first, second, hfirst, hsecond, hiff⟩ := horder _ _ hon hlisted hoff
  obtain rfl : ("wlan0", ⟨some "192.168.1.21", some "192.168.1.255"⟩) = first :=
    Option.some.inj (Eq.trans (by decide +kernel) hfirst)
  obtain rfl : ("eth1", ⟨some "10.0.0.5", some "10.0.0.255"⟩) = second :=
    Option.some.inj (Eq.trans (by decide +kernel) hsecond)
  revert hpair
  rw [hiff]
  unfold BroadcastNetwork.Outranks
  decide +kernel

/-! ## What is preferred -/

/-- A network is on the interface to the gateway. -/
def isOnGateway (host : LocalNetworks) (broadcast : String) : Bool :=
  host.entries.any fun entry =>
    entry.2.broadcast = some broadcast && host.gateway4.map (·.interface) = some entry.1

/-- A network is that of the local host. -/
def isLocal (host : LocalNetworks) (broadcast : String) : Bool :=
  host.entries.any fun entry => entry.2.broadcast = some broadcast && decide entry.2.IsLoopback

/-- How much a network is preferred: less is better. -/
def preference (host : LocalNetworks) (broadcast : String) : Nat :=
  if host.isOnGateway broadcast then 0
  else if host.isLocal broadcast then 3
  else if "172.".toList.isPrefixOf broadcast.toList then 2
  else 1

/-- The first network is preferred to the second, by its place or else by its address. -/
def Prefers (host : LocalNetworks) (x y : String) : Prop :=
  host.preference x < host.preference y ∨ host.preference x = host.preference y ∧ x < y

/-- The entries of each network are on one interface, and all or none of them are of the local
host. -/
def IsUndisputed (host : LocalNetworks) : Prop :=
  ∀ first ∈ host.entries, ∀ second ∈ host.entries, first.2.broadcast ≠ none →
    first.2.broadcast = second.2.broadcast →
      first.1 = second.1 ∧ (first.2.IsLoopback ↔ second.2.IsLoopback)

instance (host : LocalNetworks) : Decidable host.IsUndisputed :=
  inferInstanceAs (Decidable (∀ _ ∈ _, ∀ _ ∈ _, _))

/-- The same interfaces with the same entries, in any order. -/
structure Rearranges (host other : LocalNetworks) : Prop where
  interfaces : ∃ middle, host.interfaces.Perm middle ∧ middle.Forall₂
    (fun a b => a.name = b.name ∧ a.addresses.Perm b.addresses) other.interfaces
  gateway4 : other.gateway4 = host.gateway4

/-- If its entries agree, any of them says how much a network is preferred. -/
theorem IsUndisputed.rank_networkBy (h : host.IsUndisputed) (hmem : entry ∈ host.entries)
    (hbroadcast : entry.2.broadcast = some broadcast) :
    (host.networkBy broadcast entry).rank = host.preference broadcast := by
  have hsome : entry.2.broadcast ≠ none := by simp [hbroadcast]
  have hgateway : host.isOnGateway broadcast = true ↔
      host.gateway4.map (·.interface) = some entry.1 := by
    simp only [isOnGateway, List.any_eq_true, Bool.and_eq_true, decide_eq_true_eq]
    constructor
    · rintro ⟨found, hfound, hsame, hon⟩
      rw [hon, (h entry hmem found hfound hsome (hbroadcast.trans hsame.symm)).1]
    · exact fun hon => ⟨entry, hmem, hbroadcast, hon⟩
  have hlocal : host.isLocal broadcast = decide entry.2.IsLoopback := by
    rw [Bool.eq_iff_iff]
    simp only [isLocal, List.any_eq_true, Bool.and_eq_true, decide_eq_true_eq]
    constructor
    · rintro ⟨found, hfound, hsame, hloopback⟩
      exact (h entry hmem found hfound hsome (hbroadcast.trans hsame.symm)).2.2 hloopback
    · exact fun hloopback => ⟨entry, hmem, hbroadcast, hloopback⟩
  show rankOf _ _ _ _ = _
  rw [rankOf, preference, hlocal]
  simp only [hgateway]

theorem Ranks.pairwise_prefers (h : host.Ranks includeLoopback networks)
    (hundisputed : host.IsUndisputed) : (networks.map (·.broadcast)).Pairwise host.Prefers := by
  have hrank : ∀ network ∈ networks, network.rank = host.preference network.broadcast := by
    intro network hmem
    obtain ⟨entry, hspeaker, hnetwork⟩ := (h.mem_iff network).1 hmem
    obtain ⟨hentry, hoffers⟩ := of_speaker? hspeaker
    rw [← hundisputed.rank_networkBy hentry hoffers.1, ← hnetwork]
  refine List.pairwise_map.2 (h.ordered.imp_of_mem ?_)
  intro a b ha hb houtranks
  rw [BroadcastNetwork.Outranks, hrank a ha, hrank b hb] at houtranks
  exact houtranks

/-! ## Other orders of the entries -/

theorem Rearranges.entries_perm (h : host.Rearranges other) : host.entries.Perm other.entries := by
  obtain ⟨middle, hperm, hsame⟩ := h.interfaces
  refine (hperm.flatMap_right _).trans ?_
  rw [entries]
  clear hperm
  generalize other.interfaces = interfaces at hsame
  induction hsame with
  | nil => exact .nil
  | @cons a b _ _ hfirst _ ih =>
    rw [List.flatMap_cons, List.flatMap_cons, hfirst.1]
    exact (hfirst.2.map (b.name, ·)).append ih

theorem Rearranges.areValid (h : host.Rearranges other) (hvalid : host.AreValid) :
    other.AreValid :=
  fun entry hmem => hvalid entry (h.entries_perm.mem_iff.2 hmem)

theorem Rearranges.isUndisputed (h : host.Rearranges other) (hundisputed : host.IsUndisputed) :
    other.IsUndisputed :=
  fun first hfirst second hsecond => hundisputed first (h.entries_perm.mem_iff.2 hfirst) second
    (h.entries_perm.mem_iff.2 hsecond)

/-- If its entries agree, any of them that counts speaks for a network. -/
theorem IsUndisputed.speaks_iff (h : host.IsUndisputed) :
    (∃ entry, host.speaker? includeLoopback broadcast = some entry ∧
      network = host.networkBy broadcast entry) ↔
    ∃ entry ∈ host.entries, entry.2.Offers includeLoopback broadcast ∧
      network = host.networkBy broadcast entry := by
  constructor
  · rintro ⟨entry, hspeaker, hnetwork⟩
    obtain ⟨hmem, hoffers⟩ := of_speaker? hspeaker
    exact ⟨entry, hmem, hoffers, hnetwork⟩
  · rintro ⟨entry, hmem, hoffers, hnetwork⟩
    obtain ⟨speaker, hspeaker⟩ := exists_speaker?_iff.2 ⟨entry.1, entry.2, hmem, hoffers⟩
    obtain ⟨hspeaks, hspoken⟩ := of_speaker? hspeaker
    have hagree := h entry hmem speaker hspeaks (by simp [hoffers.1])
      (hoffers.1.trans hspoken.1.symm)
    refine ⟨speaker, hspeaker, hnetwork.trans ?_⟩
    simp only [networkBy, networkOf, hagree.1, hagree.2]

theorem Rearranges.ranks (h : host.Rearranges other) (hundisputed : host.IsUndisputed)
    (hranks : other.Ranks includeLoopback networks) : host.Ranks includeLoopback networks where
  mem_iff network := by
    have hnetwork : ∀ entry, other.networkBy network.broadcast entry =
        host.networkBy network.broadcast entry := by
      intro entry
      rw [networkBy, networkBy, h.gateway4]
    rw [hranks.mem_iff, hundisputed.speaks_iff, (h.isUndisputed hundisputed).speaks_iff]
    simp only [hnetwork, h.entries_perm.mem_iff]
  distinct := hranks.distinct
  ordered := hranks.ordered

/-- The list has each broadcast address of an entry that counts, once, with an interface that has
it, and to count loopback entries only adds to it. If the entries of each network agree, the list
is in the order of preference, and it does not depend on the order of the interfaces and of their
entries. -/
theorem broadcastNetworks_listed (host : LocalNetworks) (hvalid : host.AreValid)
    (includeLoopback : Bool) :
    ∃ networks, host.broadcastNetworks includeLoopback = .ok networks ∧
      host.broadcastAddresses includeLoopback = .ok (networks.map (·.broadcast)) ∧
      (∀ broadcast, broadcast ∈ networks.map (·.broadcast) ↔
        ∃ interface, host.Lists includeLoopback interface broadcast) ∧
      (networks.map (·.broadcast)).Nodup ∧
      (∀ network ∈ networks, host.Lists includeLoopback network.interface network.broadcast) ∧
      (∃ all, host.broadcastAddresses true = .ok all ∧ networks.map (·.broadcast) ⊆ all) ∧
      (host.IsUndisputed → (networks.map (·.broadcast)).Pairwise host.Prefers ∧
        ∀ other, host.Rearranges other →
          other.broadcastNetworks includeLoopback = .ok networks) := by
  obtain ⟨networks, hnetworks, hranks⟩ := exists_ranks hvalid includeLoopback
  obtain ⟨all, hall, hallRanks⟩ := exists_ranks hvalid true
  refine ⟨networks, hnetworks, by rw [broadcastAddresses, hnetworks]; rfl,
    fun broadcast => hranks.mem_broadcasts_iff, hranks.distinct, fun network => hranks.lists,
    ⟨all.map (·.broadcast), by rw [broadcastAddresses, hall]; rfl, ?_⟩, fun hundisputed => ?_⟩
  · intro broadcast hmem
    obtain ⟨interface, hlists⟩ := hranks.mem_broadcasts_iff.1 hmem
    exact hallRanks.mem_broadcasts_iff.2 ⟨interface, hlists.all⟩
  · refine ⟨hranks.pairwise_prefers hundisputed, fun other hother => ?_⟩
    obtain ⟨others, hothers, hotherRanks⟩ :=
      exists_ranks (hother.areValid hvalid) includeLoopback
    rw [hothers, (hother.ranks hundisputed hotherRanks).eq hranks]

/-- A host with a loopback interface, a container, the interface to the gateway, with two addresses
on one network, and an interface without a broadcast address. -/
def office : LocalNetworks where
  interfaces := [⟨"lo", [⟨some "127.0.0.1", some "127.255.255.255"⟩]⟩,
    ⟨"docker0", [⟨some "172.17.0.1", some "172.17.255.255"⟩]⟩,
    ⟨"eth0", [⟨some "192.168.1.20", some "192.168.1.255"⟩, ⟨none, some "192.168.1.255"⟩]⟩,
    ⟨"ppp0", [⟨some "10.9.0.2", none⟩]⟩]
  gateway4 := some ⟨"192.168.1.1", "eth0"⟩
  gateway6 := none

/-- The same host with its interfaces, and the addresses of each, in the opposite order. -/
def officeBackwards : LocalNetworks where
  interfaces := office.interfaces.reverse.map fun interface =>
    ⟨interface.name, interface.addresses.reverse⟩
  gateway4 := office.gateway4
  gateway6 := none

/-- Both ways to go through the host give one list, in the order of preference. -/
theorem broadcastNetworks_listed_office :
    office.AreValid ∧ office.IsUndisputed ∧ office.Rearranges officeBackwards ∧
      ∃ networks, office.broadcastNetworks true = .ok networks ∧
        (networks.map (·.broadcast)).Pairwise office.Prefers ∧
        officeBackwards.broadcastNetworks true = .ok networks := by
  have hvalid : office.AreValid := by decide +kernel
  have hundisputed : office.IsUndisputed := by decide +kernel
  have hrearranges : office.Rearranges officeBackwards :=
    ⟨⟨office.interfaces.reverse, (List.reverse_perm _).symm, List.forall₂_map_right_iff.2
      (List.forall₂_same.2 fun interface _ => ⟨rfl, (List.reverse_perm _).symm⟩)⟩, rfl⟩
  obtain ⟨networks, hnetworks, -, -, -, -, -, hordered⟩ :=
    broadcastNetworks_listed office hvalid true
  obtain ⟨hpreferred, hsame⟩ := hordered hundisputed
  exact ⟨hvalid, hundisputed, hrearranges, networks, hnetworks, hpreferred, hsame _ hrearranges⟩

end SqlResolution.LocalNetworks
