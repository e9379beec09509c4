import Mathlib.Data.List.Nodup
import Mathlib.Data.Prod.Lex
import Mathlib.Data.String.Basic
import SqlResolution.LocalNetworks
import SqlResolution.Proofs.Address
import SqlResolution.Proofs.KeyTable

/-!
# Which networks are listed, and in which order

The entries of the interfaces are gone through once. An entry that is left out, or that has no
broadcast address, adds nothing, and so the networks found are those of the other entries, each
passed over if its broadcast address has come before. That is a list without repetitions, and all
that is said here of the result is read off that list: a broadcast address is listed if any entry
that counts has it, and the first of these entries speaks for it. Its interface is the one that is
named, and its rank is the one that counts when the networks are put in order.

The first entry need not be the best one. A network that is also on the interface to the gateway
ranks by another interface if that one comes first, and then it can come behind networks that the
gateway has nothing to do with.
-/

namespace SqlResolution

/-! ## Entries -/

/-- The address of the entry is one of the local host. -/
def InterfaceAddress.IsLoopback (entry : InterfaceAddress) : Prop :=
  ∃ text address, entry.address = some text ∧ Address.V4.read text = .ok address ∧
    address.isLoopback = true

/-- The entry counts, and it has this broadcast address. -/
def InterfaceAddress.Offers (entry : InterfaceAddress) (includeLoopback : Bool)
    (broadcast : String) : Prop :=
  entry.broadcast = some broadcast ∧ (includeLoopback = true ∨ ¬entry.IsLoopback)

/-- What goes before in the order: a better rank, and of one rank the smaller address. -/
def BroadcastNetwork.Outranks (a b : BroadcastNetwork) : Prop :=
  a.rank < b.rank ∨ a.rank = b.rank ∧ a.broadcast < b.broadcast

namespace LocalNetworks

variable {host : LocalNetworks} {entry : InterfaceAddress} {includeLoopback : Bool}
  {gateway : Option String} {broadcast interface : String}

/-- Every interface has addresses that can be read. -/
def AreValid (host : LocalNetworks) : Prop :=
  ∀ entry ∈ host.entries, ∀ text, entry.2.address = some text →
    ∃ address, Address.V4.read text = .ok address

instance (host : LocalNetworks) : Decidable host.AreValid :=
  decidable_of_iff (∀ entry ∈ host.entries, ∀ text ∈ entry.2.address,
      (Address.V4.read text).isOk = true) <| by
    refine forall₂_congr fun entry _ => forall₂_congr fun text _ => ?_
    cases Address.V4.read text <;> simp [Except.isOk, Except.toBool]

/-- Some entry of the interface that counts has this broadcast address. -/
def Lists (host : LocalNetworks) (includeLoopback : Bool) (interface broadcast : String) : Prop :=
  ∃ entry, (interface, entry) ∈ host.entries ∧ entry.Offers includeLoopback broadcast

theorem isLoopback_eq_ok_true_iff : isLoopback entry = .ok true ↔ entry.IsLoopback := by
  rw [isLoopback, InterfaceAddress.IsLoopback]
  cases entry.address with
  | none => simp
  | some text =>
    cases hread : Address.V4.read text with
    | error fault => simp [Except.map, hread]
    | ok address => simp [Except.map, hread]

instance (entry : InterfaceAddress) : Decidable entry.IsLoopback :=
  decidable_of_iff _ isLoopback_eq_ok_true_iff

instance (entry : InterfaceAddress) (includeLoopback : Bool) (broadcast : String) :
    Decidable (entry.Offers includeLoopback broadcast) :=
  inferInstanceAs (Decidable (_ ∧ _))

theorem isLoopback_eq (h : ∀ text, entry.address = some text →
    ∃ address, Address.V4.read text = .ok address) :
    isLoopback entry = .ok (decide entry.IsLoopback) := by
  obtain ⟨loopback, hloopback⟩ : ∃ loopback, isLoopback entry = .ok loopback := by
    rw [isLoopback]
    split
    · exact ⟨false, rfl⟩
    next text htext =>
      obtain ⟨address, haddress⟩ := h text htext
      exact ⟨address.isLoopback, by rw [haddress]; rfl⟩
  rw [hloopback, Except.ok.injEq, Bool.eq_iff_iff, decide_eq_true_iff,
    ← isLoopback_eq_ok_true_iff, hloopback, Except.ok.injEq]

/-! ## The scan -/

/-- The network of an entry with a broadcast address. -/
def networkOf (gateway : Option String) (broadcast : String) (entry : String × InterfaceAddress) :
    BroadcastNetwork :=
  ⟨rankOf gateway entry.1 broadcast (decide entry.2.IsLoopback), broadcast, entry.1⟩

/-- The network of an entry, if it counts and has a broadcast address. -/
def networkOf? (gateway : Option String) (includeLoopback : Bool)
    (entry : String × InterfaceAddress) : Option BroadcastNetwork :=
  if includeLoopback = true ∨ ¬entry.2.IsLoopback then
    entry.2.broadcast.map (networkOf gateway · entry)
  else none

theorem networkOf?_eq_some_iff {entry : String × InterfaceAddress} {network : BroadcastNetwork} :
    networkOf? gateway includeLoopback entry = some network ↔
      entry.2.Offers includeLoopback network.broadcast ∧
        network = networkOf gateway network.broadcast entry := by
  rw [networkOf?, InterfaceAddress.Offers]
  split
  next hcounts =>
    rw [Option.map_eq_some_iff]
    constructor
    · rintro ⟨broadcast, hbroadcast, rfl⟩
      exact ⟨⟨hbroadcast, hcounts⟩, rfl⟩
    · rintro ⟨⟨hbroadcast, -⟩, hnetwork⟩
      exact ⟨network.broadcast, hbroadcast, hnetwork.symm⟩
  next hleft =>
    simp [hleft]

/-- A later network is that of an earlier one over again. -/
def sameBroadcast (later earlier : BroadcastNetwork) : Bool :=
  later.broadcast = earlier.broadcast

theorem sameBroadcast_trans (a b c : BroadcastNetwork) (hab : sameBroadcast a b = true)
    (hbc : sameBroadcast b c = true) : sameBroadcast a c = true :=
  decide_eq_true ((of_decide_eq_true hab).trans (of_decide_eq_true hbc))

/-- What the scan has found after one more entry. -/
theorem scan_cons {first : String × InterfaceAddress}
    (h : ∀ text, first.2.address = some text → ∃ address, Address.V4.read text = .ok address)
    (found : List BroadcastNetwork) (rest : List (String × InterfaceAddress)) :
    scan gateway includeLoopback found (first :: rest) =
      match networkOf? gateway includeLoopback first with
      | none => scan gateway includeLoopback found rest
      | some network =>
        scan gateway includeLoopback
          (found ++ if found.any (·.broadcast = network.broadcast) then [] else [network])
          rest := by
  obtain ⟨interface, entry⟩ := first
  rw [scan, isLoopback_eq h, networkOf?]
  show (if _ then _ else _) = _
  by_cases hcounts : includeLoopback = true ∨ ¬entry.IsLoopback
  · have hin : (decide entry.IsLoopback && !includeLoopback) = false := by
      rcases hcounts with hall | hother
      · simp [hall]
      · simp [hother]
    rw [hin, if_pos hcounts]
    cases entry.broadcast with
    | none => rfl
    | some broadcast =>
      show (if found.any (·.broadcast = broadcast) then _ else _) =
        scan gateway includeLoopback
          (found ++ if found.any (·.broadcast = broadcast) then [] else _) rest
      split
      · rw [List.append_nil]
      · rfl
  · have hout : (decide entry.IsLoopback && !includeLoopback) = true := by
      simpa [and_comm] using hcounts
    rw [hout, if_neg hcounts]
    rfl

/-- The first network with an address is no repetition. -/
theorem find?_eraseDupsBy_sameBroadcast (networks : List BroadcastNetwork) (broadcast : String) :
    (networks.eraseDupsBy sameBroadcast).find? (fun network => network.broadcast = broadcast) =
      networks.find? (fun network => network.broadcast = broadcast) := by
  have hsame : ∀ later earlier : BroadcastNetwork, sameBroadcast later earlier →
      decide (later.broadcast = broadcast) = decide (earlier.broadcast = broadcast) := by
    intro later earlier hrepeats
    rw [of_decide_eq_true hrepeats]
  exact KeyTable.find?_eraseDupsBy hsame networks

theorem nodup_eraseDupsBy_sameBroadcast (networks : List BroadcastNetwork) :
    ((networks.eraseDupsBy sameBroadcast).map (·.broadcast)).Nodup := by
  refine List.pairwise_map.2 ((KeyTable.pairwise_eraseDupsBy networks).imp ?_)
  intro earlier later hnew hsame
  exact of_decide_eq_false hnew hsame.symm

/-- An address is among those found if it has come before. -/
theorem any_eraseDupsBy_sameBroadcast (networks : List BroadcastNetwork)
    (last : BroadcastNetwork) :
    (networks.eraseDupsBy sameBroadcast).any (·.broadcast = last.broadcast) =
      networks.any (sameBroadcast last) := by
  rw [← List.isSome_find?, find?_eraseDupsBy_sameBroadcast, List.isSome_find?]
  congr 1
  funext found
  exact decide_eq_decide.2 eq_comm

/-- The scan finds the network of each entry, but for repetitions. -/
theorem scan_eq (entries : List (String × InterfaceAddress)) (before : List BroadcastNetwork)
    (h : ∀ entry ∈ entries, ∀ text, entry.2.address = some text →
      ∃ address, Address.V4.read text = .ok address) :
    scan gateway includeLoopback (before.eraseDupsBy sameBroadcast) entries =
      .ok ((before ++ entries.filterMap (networkOf? gateway includeLoopback)).eraseDupsBy
        sameBroadcast) := by
  -- `before` is what the entries so far had to offer: of these the scan holds the first ones.
  induction entries generalizing before with
  | nil => rw [scan, List.filterMap_nil, List.append_nil]
  | cons first rest ih =>
    have hrest := fun before => ih before fun other hmem => h other (List.mem_cons_of_mem _ hmem)
    rw [scan_cons (h first List.mem_cons_self), List.filterMap_cons]
    cases networkOf? gateway includeLoopback first with
    | none => exact hrest before
    | some network =>
      have hnext := hrest (before ++ [network])
      rw [KeyTable.eraseDupsBy_concat sameBroadcast_trans, ← any_eraseDupsBy_sameBroadcast,
        List.append_assoc] at hnext
      exact hnext

end LocalNetworks

/-! ## The order -/

namespace BroadcastNetwork

/-- What networks are ordered by. -/
def key (network : BroadcastNetwork) : Nat ×ₗ String ×ₗ String :=
  toLex (network.rank, toLex (network.broadcast, network.interface))

theorem precedes_iff {a b : BroadcastNetwork} : a.precedes b = true ↔ a.key ≤ b.key := by
  rw [precedes, key, key, Prod.Lex.toLex_le_toLex, Prod.Lex.toLex_le_toLex]
  dsimp only
  split
  next hrank => simp [hrank]
  next hrank =>
    rw [not_not] at hrank
    split
    next hbroadcast => simp [hrank, hbroadcast]
    next hbroadcast =>
      rw [not_not] at hbroadcast
      rw [Bool.not_eq_true', decide_eq_false_iff_not, not_lt]
      simp [hrank, hbroadcast]

theorem pairwise_mergeSort (networks : List BroadcastNetwork) :
    (networks.mergeSort precedes).Pairwise fun a b => a.key ≤ b.key := by
  refine (List.pairwise_mergeSort (fun a b c hab hbc => ?_) (fun a b => ?_) networks).imp
    precedes_iff.1
  · exact precedes_iff.2 ((precedes_iff.1 hab).trans (precedes_iff.1 hbc))
  · rw [Bool.or_eq_true, precedes_iff, precedes_iff]
    exact le_total _ _

/-- Of two networks with different addresses one outranks the other. -/
theorem outranks_of_key_le {a b : BroadcastNetwork} (h : a.key ≤ b.key)
    (hne : a.broadcast ≠ b.broadcast) : a.Outranks b := by
  rw [key, key, Prod.Lex.toLex_le_toLex, Prod.Lex.toLex_le_toLex] at h
  rcases h with hrank | ⟨hrank, hbroadcast | ⟨hbroadcast, -⟩⟩
  · exact .inl hrank
  · exact .inr ⟨hrank, hbroadcast⟩
  · exact absurd hbroadcast hne

theorem Outranks.asymm {a b : BroadcastNetwork} (h : a.Outranks b) : ¬b.Outranks a := by
  rintro (hrank | ⟨hrank, hbroadcast⟩)
  · rcases h with hother | ⟨hother, -⟩ <;> omega
  · rcases h with hother | ⟨-, hother⟩
    · omega
    · exact lt_asymm hother hbroadcast

end BroadcastNetwork

/-! ## The networks of a host -/

namespace LocalNetworks

variable {host : LocalNetworks} {includeLoopback : Bool} {broadcast : String}
  {networks : List BroadcastNetwork} {network : BroadcastNetwork}

/-- The first entry that counts of those with a broadcast address, with its interface. -/
def speaker? (host : LocalNetworks) (includeLoopback : Bool) (broadcast : String) :
    Option (String × InterfaceAddress) :=
  host.entries.find? fun entry => entry.2.Offers includeLoopback broadcast

/-- A network as its speaker says. -/
def networkBy (host : LocalNetworks) (broadcast : String) (entry : String × InterfaceAddress) :
    BroadcastNetwork :=
  networkOf (host.gateway4.map (·.interface)) broadcast entry

/-- The networks of a host in their order: each broadcast address once, with the network of the
entry that speaks for it. -/
structure Ranks (host : LocalNetworks) (includeLoopback : Bool) (networks : List BroadcastNetwork) :
    Prop where
  mem_iff : ∀ network, network ∈ networks ↔ ∃ entry,
    host.speaker? includeLoopback network.broadcast = some entry ∧
      network = host.networkBy network.broadcast entry
  distinct : (networks.map (·.broadcast)).Nodup
  ordered : networks.Pairwise BroadcastNetwork.Outranks

theorem find?_networkOf? (entries : List (String × InterfaceAddress)) (gateway : Option String)
    (network : BroadcastNetwork) :
    (entries.filterMap (networkOf? gateway includeLoopback)).find?
        (fun other => other.broadcast = network.broadcast) = some network ↔
      ∃ entry, (entries.find? fun entry => entry.2.Offers includeLoopback network.broadcast) =
        some entry ∧ network = networkOf gateway network.broadcast entry := by
  have hoffers : ∀ entry : String × InterfaceAddress,
      (networkOf? gateway includeLoopback entry).any
        (fun other => other.broadcast = network.broadcast) =
      decide (entry.2.Offers includeLoopback network.broadcast) := by
    intro entry
    rw [Bool.eq_iff_iff, decide_eq_true_iff, Option.any_eq_true]
    constructor
    · rintro ⟨other, hother, hsame⟩
      rw [← of_decide_eq_true hsame]
      exact (networkOf?_eq_some_iff.1 hother).1
    · intro hoffered
      exact ⟨networkOf gateway network.broadcast entry,
        networkOf?_eq_some_iff.2 ⟨hoffered, rfl⟩, decide_eq_true rfl⟩
  simp only [List.find?_filterMap, hoffers, Option.bind_eq_some_iff]
  refine exists_congr fun entry => and_congr_right fun hfound => ?_
  have hoffered : entry.2.Offers includeLoopback network.broadcast := by
    simpa using List.find?_some hfound
  rw [networkOf?_eq_some_iff]
  exact ⟨And.right, fun h => ⟨hoffered, h⟩⟩

theorem find?_eq_some_of_distinct (hdistinct : (networks.map (·.broadcast)).Nodup)
    (hmem : network ∈ networks) :
    networks.find? (fun other => other.broadcast = network.broadcast) = some network := by
  cases hfound : networks.find? (fun other => other.broadcast = network.broadcast) with
  | none => simpa using List.find?_eq_none.1 hfound network hmem
  | some other =>
    have hsame : other.broadcast = network.broadcast := by simpa using List.find?_some hfound
    rw [List.inj_on_of_nodup_map hdistinct (List.mem_of_find?_eq_some hfound) hmem hsame]

/-- Every address that counts is listed once, as its speaker says, and in the order of the ranks. -/
theorem exists_ranks (h : host.AreValid) (includeLoopback : Bool) :
    ∃ networks, host.broadcastNetworks includeLoopback = .ok networks ∧
      host.Ranks includeLoopback networks := by
  have hscan : scan (host.gateway4.map (·.interface)) includeLoopback [] host.entries =
      .ok ((host.entries.filterMap (networkOf? (host.gateway4.map (·.interface))
        includeLoopback)).eraseDupsBy sameBroadcast) :=
    scan_eq host.entries [] h
  generalize hoffered : host.entries.filterMap
    (networkOf? (host.gateway4.map (·.interface)) includeLoopback) = offered at hscan
  have hperm := List.mergeSort_perm (offered.eraseDupsBy sameBroadcast) BroadcastNetwork.precedes
  have hfirsts := nodup_eraseDupsBy_sameBroadcast offered
  have hdistinct := (hperm.map (·.broadcast)).nodup_iff.2 hfirsts
  refine ⟨_, by rw [broadcastNetworks, hscan]; rfl, ⟨fun network => ?_, hdistinct, ?_⟩⟩
  · show _ ↔ ∃ entry, (host.entries.find? fun entry =>
      entry.2.Offers includeLoopback network.broadcast) = some entry ∧
        network = networkOf (host.gateway4.map (·.interface)) network.broadcast entry
    rw [hperm.mem_iff, ← find?_networkOf?, hoffered, ← find?_eraseDupsBy_sameBroadcast]
    exact ⟨find?_eq_some_of_distinct hfirsts, List.mem_of_find?_eq_some⟩
  · exact (BroadcastNetwork.pairwise_mergeSort _).imp₂
      (fun a b => BroadcastNetwork.outranks_of_key_le) (List.pairwise_map.1 hdistinct)

/-! ## Speakers -/

variable {entry : String × InterfaceAddress}

theorem of_speaker? (h : host.speaker? includeLoopback broadcast = some entry) :
    entry ∈ host.entries ∧ entry.2.Offers includeLoopback broadcast :=
  ⟨List.mem_of_find?_eq_some h, by simpa using List.find?_some h⟩

theorem exists_speaker?_iff : (∃ entry, host.speaker? includeLoopback broadcast = some entry) ↔
    ∃ interface, host.Lists includeLoopback interface broadcast := by
  rw [← Option.isSome_iff_exists, speaker?, List.find?_isSome]
  constructor
  · rintro ⟨⟨interface, entry⟩, hmem, hoffers⟩
    exact ⟨interface, entry, hmem, of_decide_eq_true hoffers⟩
  · rintro ⟨interface, entry, hmem, hoffers⟩
    exact ⟨(interface, entry), hmem, decide_eq_true hoffers⟩

theorem Ranks.mem_of_speaker? (h : host.Ranks includeLoopback networks)
    (hspeaker : host.speaker? includeLoopback broadcast = some entry) :
    host.networkBy broadcast entry ∈ networks :=
  (h.mem_iff _).2 ⟨entry, hspeaker, rfl⟩

theorem Ranks.eq_networkBy (h : host.Ranks includeLoopback networks) (hmem : network ∈ networks)
    (hspeaker : host.speaker? includeLoopback network.broadcast = some entry) :
    network = host.networkBy network.broadcast entry := by
  obtain ⟨found, hfound, hnetwork⟩ := (h.mem_iff network).1 hmem
  rw [hspeaker] at hfound
  rw [Option.some.inj hfound]
  exact hnetwork

/-- What is listed is what some entry that counts has. -/
theorem Ranks.mem_broadcasts_iff (h : host.Ranks includeLoopback networks) :
    broadcast ∈ networks.map (·.broadcast) ↔
      ∃ interface, host.Lists includeLoopback interface broadcast := by
  rw [← exists_speaker?_iff, List.mem_map]
  constructor
  · rintro ⟨network, hmem, rfl⟩
    obtain ⟨entry, hspeaker, -⟩ := (h.mem_iff network).1 hmem
    exact ⟨entry, hspeaker⟩
  · rintro ⟨entry, hspeaker⟩
    exact ⟨_, h.mem_of_speaker? hspeaker, rfl⟩

/-- A network is named after an interface that has it. -/
theorem Ranks.lists (h : host.Ranks includeLoopback networks) (hmem : network ∈ networks) :
    host.Lists includeLoopback network.interface network.broadcast := by
  obtain ⟨⟨interface, entry⟩, hspeaker, hnetwork⟩ := (h.mem_iff network).1 hmem
  obtain ⟨hentry, hoffers⟩ := of_speaker? hspeaker
  have hinterface : network.interface = interface := by rw [hnetwork]; rfl
  rw [hinterface]
  exact ⟨entry, hentry, hoffers⟩

theorem Lists.all {interface : String} (h : host.Lists includeLoopback interface broadcast) :
    host.Lists true interface broadcast := by
  obtain ⟨entry, hmem, hbroadcast, -⟩ := h
  exact ⟨entry, hmem, hbroadcast, .inl rfl⟩

/-! ## Broadcast addresses -/

/-- A text is an IPv4 address, and that of all hosts or of the network of some entry. -/
def IsBroadcastAddress (host : LocalNetworks) (text : String) : Prop :=
  (∃ address, Address.V4.read text = .ok address) ∧
    (text = "255.255.255.255" ∨
      ∃ interface ∈ host.interfaces, ∃ entry ∈ interface.addresses, entry.broadcast = some text)

theorem read?_eq_some_v4_iff {text : String} {address : Address.V4} :
    Address.read? text = some (.v4 address) ↔ Address.V4.read text = .ok address := by
  rw [Address.read?]
  cases Address.V4.read text with
  | ok found => simp
  | error fault => simp

theorem eq_limitedBroadcast_iff {text : String} {address : Address.V4}
    (h : Address.V4.read text = .ok address) :
    address = Address.V4.limitedBroadcast ↔ text = "255.255.255.255" := by
  have hall : Address.V4.read "255.255.255.255" = .ok Address.V4.limitedBroadcast := by rfl
  constructor
  · rintro rfl
    rw [← Address.V4.text_of_read h, Address.V4.text_of_read hall]
  · rintro rfl
    exact Except.ok.inj (h.symm.trans hall)

/-- That all entries count leaves nothing out, whichever of them speak. -/
theorem exists_lists_all_iff : (∃ interface, host.Lists true interface broadcast) ↔
    ∃ interface ∈ host.interfaces, ∃ entry ∈ interface.addresses,
      entry.broadcast = some broadcast := by
  constructor
  · rintro ⟨_, entry, hmem, hbroadcast, -⟩
    obtain ⟨interface, hinterface, hentry⟩ := List.mem_flatMap.1 hmem
    obtain ⟨_, hentry, heq⟩ := List.mem_map.1 hentry
    cases heq
    exact ⟨interface, hinterface, entry, hentry, hbroadcast⟩
  · rintro ⟨interface, hinterface, entry, hentry, hbroadcast⟩
    exact ⟨interface.name, entry,
      List.mem_flatMap.2 ⟨interface, hinterface, List.mem_map_of_mem hentry⟩, hbroadcast, .inl rfl⟩

/-- With valid interfaces it can be decided which texts are broadcast addresses. -/
theorem isBroadcast_iff (h : host.AreValid) (text : String) :
    ∃ answer, host.isBroadcast text = .ok answer ∧
      (answer = true ↔ host.IsBroadcastAddress text) := by
  obtain ⟨networks, hnetworks, hranks⟩ := exists_ranks h true
  cases hread : Address.V4.read text with
  | error fault =>
    have hnone : ∀ address, Address.read? text ≠ some (.v4 address) := by
      intro address hsome
      rw [read?_eq_some_v4_iff, hread] at hsome
      cases hsome
    refine ⟨false, ?_, ?_⟩
    · rw [isBroadcast]
      split
      next address hsome => exact absurd hsome (hnone address)
      next => rfl
    · simp [IsBroadcastAddress, hread]
  | ok address =>
    rw [isBroadcast, read?_eq_some_v4_iff.2 hread]
    dsimp only
    split
    next hlimited =>
      exact ⟨true, rfl, iff_of_true rfl
        ⟨⟨address, hread⟩, .inl ((eq_limitedBroadcast_iff hread).1 hlimited)⟩⟩
    next hlimited =>
      have hne : text ≠ "255.255.255.255" := mt (eq_limitedBroadcast_iff hread).2 hlimited
      refine ⟨_, by rw [broadcastAddresses, hnetworks]; rfl, ?_⟩
      rw [List.contains_iff_mem, hranks.mem_broadcasts_iff, exists_lists_all_iff]
      simp [IsBroadcastAddress, hread, hne]

end LocalNetworks

end SqlResolution
