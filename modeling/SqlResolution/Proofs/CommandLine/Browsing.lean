import SqlResolution.CommandLine.Execution
import SqlResolution.Proofs.Browse.Running
import SqlResolution.Proofs.LocalNetworks

/-!
# Browsing one target after another

The targets are visited in their order. A visit is a browse of its own, from its making to its end,
and it begins on the timeline that the visit before has left. If a visit fails the tour is broken
off, and the targets after it might as well be others.

Each visit finds no exchange going on and leaves none. That is what one visit preserves, and so it
holds of every visit of a tour that its socket is the only one that is open, that its question is
the only one that goes out, and that what it finds was answered to that question. A visit can fail
with nothing that would end the program in another way than by a complaint.
-/

namespace SqlResolution.CommandLine

variable {addresses found broadcasts : List String} {client : Client} {t last : Timeline}
  {network : Network} {visits : List Visit} {outcome : Option Failure}

/-! ## Targets -/

theorem addMissing_eq (hdistinct : found.Nodup) (all : List String) :
    addMissing all found = all ++ found.filter (· ∉ all) := by
  induction found generalizing all with
  | nil => exact (List.append_nil all).symm
  | cons address rest ih =>
    obtain ⟨hnew, hrest⟩ := List.nodup_cons.1 hdistinct
    rw [addMissing]
    by_cases hmem : address ∈ all
    · rw [if_pos (List.contains_iff_mem.2 hmem), ih hrest, List.filter_cons_of_neg (by simpa)]
    · rw [if_neg (fun h => hmem (List.contains_iff_mem.1 h)), ih hrest,
        List.filter_cons_of_pos (by simpa), List.append_assoc]
      have hsame : rest.filter (· ∉ all ++ [address]) = rest.filter (· ∉ all) := by
        refine List.filter_congr fun other hother => ?_
        have hne : other ≠ address := fun heq => hnew (heq ▸ hother)
        simp [hne]
      rw [hsame]
      rfl

/-- The addresses that were asked for as they are, and then, if wanted, those of the broadcast
addresses that are not among them. If that is nothing, it is the address of all hosts. -/
def wanted (addresses broadcasts : List String) (allInterfaces : Bool) : List String :=
  match addresses ++ if allInterfaces then broadcasts.filter (· ∉ addresses) else [] with
  | [] => [Protocol.broadcastAddress]
  | all => all

theorem targets_eq {host : LocalNetworks} (h : host.broadcastAddresses false = .ok broadcasts)
    (hdistinct : broadcasts.Nodup) (addresses : List String) (allInterfaces : Bool) :
    targets host addresses allInterfaces = .ok (wanted addresses broadcasts allInterfaces) := by
  have hdefault : ∀ all : List String,
      (if all.isEmpty then [Protocol.broadcastAddress] else all) =
        match all with
        | [] => [Protocol.broadcastAddress]
        | all => all := by
    intro all
    cases all <;> rfl
  cases allInterfaces with
  | false =>
    rw [wanted, if_neg Bool.false_ne_true, List.append_nil, ← hdefault]
    rfl
  | true =>
    rw [wanted, if_pos rfl, ← addMissing_eq hdistinct, ← hdefault, targets, if_pos rfl, h]
    rfl

theorem wanted_of_ne_nil (h : addresses ≠ []) (broadcasts : List String) :
    wanted addresses broadcasts false = addresses := by
  rw [wanted, if_neg Bool.false_ne_true, List.append_nil]
  cases addresses with
  | nil => exact absurd rfl h
  | cons => rfl

/-! ## Visits -/

/-- One browse of several: what it was directed to, the timeline on which it began, and what came
of it. -/
structure Visit where
  target : String
  start : Timeline
  browsed : Browsed

def Visit.finish (visit : Visit) : Timeline :=
  visit.browsed.browse.timeline

/-- What is written of a visit. -/
def Visit.output (visit : Visit) : String :=
  String.join (visit.browsed.instances.map fun found => written found.toValue)

def visit (client : Client) (t : Timeline) (target : String) : Visit :=
  ⟨target, t.note [.browsing target], (client.browse (t.note [.browsing target]) target).run⟩

/-- A visit on a network: no socket was open before, and the browse is complete. -/
structure Visit.IsProper (network : Network) (client : Client) (visit : Visit) : Prop where
  network : visit.start.network = network
  isClosed : ∀ link ∈ visit.start.links, link.isClosed = true
  completes : (client.browse visit.start visit.target).Completes visit.browsed

/-- Who visits a target where no exchange is going on leaves none behind. -/
theorem isProper_visit (hrest : t.IsAtRest) (hvalid : t.network.localNetworks.AreValid)
    (client : Client) (target : String) :
    (visit client t target).IsProper t.network client ∧ (visit client t target).finish.IsAtRest :=
  have hstart : (t.note [.browsing target]).IsAtRest := hrest.note _
  ⟨⟨rfl, hstart.isClosed, Browse.completes_run hstart _ client.limits hvalid⟩,
    Browse.isAtRest_run hstart _ client.limits⟩

/-! ## Tours -/

/-- Targets are visited one after another, each from where the visit before has ended, until there
are none left or a visit fails. -/
inductive Tour (client : Client) :
    Timeline → List String → List Visit → Option Failure → Timeline → Prop
  | finished (t : Timeline) : Tour client t [] [] none t
  | brokenOff {t : Timeline} {target : String} (rest : List String) {failure : Failure}
    (h : (visit client t target).browsed.failure = some failure) :
    Tour client t (target :: rest) [visit client t target] (some failure)
      (visit client t target).finish
  | onward {t last : Timeline} {target : String} {rest : List String} {visits : List Visit}
    {outcome : Option Failure} (h : (visit client t target).browsed.failure = none)
    (later : Tour client (visit client t target).finish rest visits outcome last) :
    Tour client t (target :: rest) (visit client t target :: visits) outcome last

theorem exists_tour (client : Client) (t : Timeline) (targets : List String) :
    ∃ visits outcome last, Tour client t targets visits outcome last := by
  induction targets generalizing t with
  | nil => exact ⟨[], none, t, .finished t⟩
  | cons target rest ih =>
    cases hfailure : (visit client t target).browsed.failure with
    | some failure => exact ⟨_, _, _, .brokenOff rest hfailure⟩
    | none =>
      obtain ⟨visits, outcome, last, htour⟩ := ih (visit client t target).finish
      exact ⟨_, _, _, .onward hfailure htour⟩

theorem browseAll_cons (client : Client) (t : Timeline) (target : String) (rest : List String) :
    browseAll client t (target :: rest) =
      match (visit client t target).browsed.failure with
      | some failure =>
        ⟨.error failure, (visit client t target).output, "", (visit client t target).finish⟩
      | none =>
        let others := browseAll client (visit client t target).finish rest
        { others with output := (visit client t target).output ++ others.output } :=
  rfl

namespace Tour

variable {targets : List String}

theorem browseAll_eq (h : Tour client t targets visits outcome last) :
    browseAll client t targets =
      ⟨outcome.elim (.ok 0) .error, String.join (visits.map (·.output)), "", last⟩ := by
  induction h with
  | finished t => rfl
  | brokenOff rest h =>
    rw [browseAll_cons, h, List.map_singleton, String.join_cons, String.join_nil,
      String.append_empty]
    rfl
  | onward h later ih =>
    rw [browseAll_cons, h]
    dsimp only
    rw [ih, List.map_cons, String.join_cons]

theorem visited (h : Tour client t targets visits outcome last) :
    visits.map (·.target) <+: targets ∧ (outcome = none → visits.map (·.target) = targets) := by
  induction h with
  | finished t => exact ⟨List.prefix_rfl, fun _ => rfl⟩
  | brokenOff rest h => exact ⟨⟨rest, rfl⟩, nofun⟩
  | onward h later ih =>
    exact ⟨(List.prefix_cons_inj _).2 ih.1, fun houtcome => congrArg _ (ih.2 houtcome)⟩

/-- The targets behind the one that failed might as well be others. -/
theorem retarget {others : List String} (h : Tour client t targets visits outcome last)
    (houtcome : outcome ≠ none) (hothers : visits.map (·.target) <+: others) :
    Tour client t others visits outcome last := by
  induction h generalizing others with
  | finished t => exact absurd rfl houtcome
  | brokenOff rest h =>
    obtain ⟨later, rfl⟩ := hothers
    exact .brokenOff later h
  | onward h later ih =>
    obtain ⟨rest, rfl⟩ := hothers
    exact .onward h (ih houtcome ⟨rest, rfl⟩)

/-- Where no exchange is going on a whole tour leaves none behind, and every visit is as it should
be. -/
theorem isProper (h : Tour client t targets visits outcome last) (hrest : t.IsAtRest)
    (hvalid : t.network.localNetworks.AreValid) :
    (∀ visit ∈ visits, visit.IsProper t.network client) ∧ last.IsAtRest := by
  induction h with
  | finished t => exact ⟨List.forall_mem_nil _, hrest⟩
  | @brokenOff t target rest failure h =>
    obtain ⟨hproper, hlast⟩ := isProper_visit hrest hvalid client target
    exact ⟨List.forall_mem_singleton.2 hproper, hlast⟩
  | @onward t last target rest visits outcome h later ih =>
    obtain ⟨hproper, hnext⟩ := isProper_visit hrest hvalid client target
    have hnetwork : (visit client t target).finish.network = t.network := hproper.completes.network
    obtain ⟨hlater, hlast⟩ := ih hnext (hnetwork ▸ hvalid)
    rw [hnetwork] at hlater
    exact ⟨List.forall_mem_cons.2 ⟨hproper, hlater⟩, hlast⟩

/-- What breaks a tour off is the failure of a visit. -/
theorem exists_visit {failure : Failure} (h : Tour client t targets visits outcome last)
    (houtcome : outcome = some failure) :
    ∃ visit ∈ visits, visit.browsed.failure = some failure := by
  induction h with
  | finished t => cases houtcome
  | brokenOff rest h => exact ⟨_, List.mem_singleton.2 rfl, h.trans houtcome⟩
  | onward h later ih =>
    obtain ⟨visit, hmem, hfailure⟩ := ih houtcome
    exact ⟨visit, List.mem_cons_of_mem _ hmem, hfailure⟩

end Tour

/-! ## The command -/

/-- What the program begins with. -/
def opening (network : Network) : Timeline :=
  (Timeline.new network).note [.commandStarted "cmd_browse" false]

/-- What is seen of a tour in the end. -/
def shown (level : Level) (visits : List Visit) (outcome : Option Failure) (last : Timeline) :
    Execution where
  status := .ok (if outcome.isNone then 0 else 1)
  output := String.join (visits.map (·.output))
  errors := logText level last.notices ++
    match outcome with
    | none => logText level [.commandEnded "cmd_browse" 0]
    | some failure => s!"ssrp: error: {failure.message}\n"
  timeline := last

variable {invocation : Invocation} {level : Level} {targets : List String}

/-- What is seen of an invocation that wants no traceback is the tour of its targets. -/
theorem execute_of_tour {allInterfaces : Bool} (htraceback : invocation.traceback = false)
    (hlevel : invocation.level = .value level)
    (hcommand : invocation.command = some (.browse addresses allInterfaces))
    (htargets : CommandLine.targets network.localNetworks addresses allInterfaces = .ok targets)
    (htour : Tour invocation.client (opening network) targets visits outcome last)
    (huncancelled : outcome ≠ some .cancelled) :
    invocation.execute (.new network) = shown level visits outcome last := by
  have hperform : Command.perform invocation.client (opening network) invocation.command =
      ⟨outcome.elim (.ok 0) .error, String.join (visits.map (·.output)), "", last⟩ := by
    have hsame : (opening network).network.localNetworks = network.localNetworks := rfl
    rw [hcommand, Command.perform, hsame, htargets]
    exact htour.browseAll_eq
  have hopening : (Timeline.new network).note
      [.commandStarted (Command.label invocation.command) invocation.traceback] =
        opening network := by
    rw [hcommand, htraceback]
    rfl
  rw [Invocation.execute, hlevel]
  dsimp only
  rw [Invocation.executeAt, hopening]
  dsimp only
  rw [hperform]
  cases outcome with
  | none =>
    rw [hcommand, String.append_empty]
    rfl
  | some failure =>
    have hend : failureEnd invocation.traceback failure =
        (.ok 1, s!"ssrp: error: {failure.message}\n") := by
      rw [failureEnd, if_neg (fun h => huncancelled (congrArg some h)), htraceback]
      rfl
    dsimp only [Option.elim]
    rw [hend, String.append_empty]
    rfl

/-- The program that is told to browse goes on a tour of its targets, and what is seen of it is the
tour. Every visit begins with all sockets closed and ends like that, and what it finds comes from
answers to its own question. If all visits come to an end by themselves then every target was
visited; if one fails, it was the last, and with any other targets behind it the program would
have done the same. Only a visit without limits to its waits may hang, and then nothing is seen of
those behind it. -/
theorem browse_tours {texts : List String} {allInterfaces : Bool}
    (hread : Invocation.ofTexts texts = .ok invocation)
    (hcommand : invocation.command = some (.browse addresses allInterfaces))
    (htraceback : invocation.traceback = false) (hlevel : invocation.level = .value level)
    (hvalid : network.localNetworks.AreValid) :
    ∃ networks targets visits outcome last,
      network.localNetworks.Ranks false networks ∧
      targets = wanted addresses (networks.map (·.broadcast)) allInterfaces ∧
      Tour invocation.client (opening network) targets visits outcome last ∧
      (Invocation.ofTexts texts).map (·.execute (.new network)) =
        .ok (shown level visits outcome last) ∧
      visits.map (·.target) <+: targets ∧ (outcome = none → visits.map (·.target) = targets) ∧
      (∀ visit ∈ visits, visit.IsProper network invocation.client) ∧
      (∀ link ∈ last.links, link.isClosed = true) ∧
      (outcome ≠ none → ∀ others, visits.map (·.target) <+: others →
        { invocation with command := some (.browse others false) }.execute (.new network) =
          shown level visits outcome last) := by
  obtain ⟨networks, hnetworks, hranks⟩ := LocalNetworks.exists_ranks hvalid false
  have haddresses : network.localNetworks.broadcastAddresses false =
      .ok (networks.map (·.broadcast)) := by
    rw [LocalNetworks.broadcastAddresses, hnetworks]
    rfl
  obtain ⟨visits, outcome, last, htour⟩ := exists_tour invocation.client (opening network)
    (wanted addresses (networks.map (·.broadcast)) allInterfaces)
  have hrest : (opening network).IsAtRest := (Timeline.isAtRest_new network).note _
  obtain ⟨hproper, hlast⟩ := htour.isProper hrest hvalid
  have huncancelled : outcome ≠ some .cancelled := by
    intro hcancelled
    obtain ⟨visit, hmem, hfailure⟩ := htour.exists_visit hcancelled
    cases (hproper visit hmem).completes.mayFail _ hfailure
  refine ⟨networks, _, visits, outcome, last, hranks, rfl, htour, ?_, htour.visited.1,
    htour.visited.2, hproper, hlast.isClosed, fun hbroken others hothers => ?_⟩
  · rw [hread]
    have htargets := targets_eq haddresses hranks.distinct addresses allInterfaces
    exact congrArg Except.ok
      (execute_of_tour htraceback hlevel hcommand htargets htour huncancelled)
  · obtain ⟨failure, houtcome⟩ := Option.ne_none_iff_exists'.1 hbroken
    obtain ⟨visit, hmem, -⟩ := htour.exists_visit houtcome
    have hne : others ≠ [] :=
      List.ne_nil_of_mem (hothers.subset (List.mem_map_of_mem (f := (·.target)) hmem))
    have htargets := targets_eq haddresses hranks.distinct others false
    rw [wanted_of_ne_nil hne] at htargets
    exact execute_of_tour htraceback hlevel rfl htargets (htour.retarget hbroken hothers)
      huncancelled

/-- A network with one host that has an instance, and with one interface. -/
def attached : Network :=
  { Session.promptNetwork [Session.oneInstance] with
    localNetworks := ⟨[⟨"eth0", [⟨some "192.168.1.5", some "192.168.1.255"⟩]⟩], none, none⟩ }

/-- A browse of the host, then of a name that nobody has, then of the local networks. -/
def astray : Invocation where
  traceback := false
  level := .value .warning
  client := .default
  command := some (.browse ["10.0.0.1", "nowhere"] true)

/-- The tour ends with the name, after the instance was written. -/
theorem browse_tours_astray :
    Invocation.ofTexts ["browse", "--all-interfaces", "10.0.0.1", "nowhere"] = .ok astray ∧
      attached.localNetworks.AreValid ∧
      ∃ visits failure last,
        astray.execute (.new attached) = shown .warning visits (some failure) last ∧
        visits.map (·.target) = ["10.0.0.1", "nowhere"] ∧
        (∀ visit ∈ visits, visit.IsProper attached .default) ∧
        { astray with command := some (.browse ["10.0.0.1", "nowhere", "10.0.0.1"] false) }.execute
          (.new attached) = shown .warning visits (some failure) last := by
  have hread : Invocation.ofTexts ["browse", "--all-interfaces", "10.0.0.1", "nowhere"] =
      .ok astray := by
    decide +kernel
  have hvalid : attached.localNetworks.AreValid := by decide +kernel
  obtain ⟨networks, targets, visits, outcome, last, -, rfl, htour, hshown, -, -, hproper, -,
    hblind⟩ := browse_tours hread rfl rfl rfl hvalid
  refine ⟨hread, hvalid, ?_⟩
  rw [hread] at hshown
  have hfound : (visit .default (opening attached) "10.0.0.1").browsed.failure = none := by
    decide +kernel
  have hlost : (visit .default (visit .default (opening attached) "10.0.0.1").finish
      "nowhere").browsed.failure ≠ none := by
    decide +kernel
  cases htour with
  | brokenOff rest h =>
    rw [show (visit .default (opening attached) "10.0.0.1").browsed.failure = _ from h] at hfound
    cases hfound
  | onward h later =>
    cases later with
    | onward h => exact absurd h hlost
    | @brokenOff t target rest failure h =>
      exact ⟨_, failure, _, Except.ok.inj hshown, rfl, hproper,
        hblind nofun _ ⟨["10.0.0.1"], rfl⟩⟩

end SqlResolution.CommandLine
