import SqlResolution.Client
import SqlResolution.Proofs.Lookup.Twins
import SqlResolution.Proofs.Request
import SqlResolution.Proofs.Text.LowerCase

/-!
# One instance by its name

To ask a host for one instance is to ask it for all of them and to look for the first whose name is
the same but for its case. The question is another one, but no answer depends on that. So the two
calls take the same time and fail alike, and if the host answers, the one finds what is in the list
of the other. How the letters of the name are written makes no difference either.
-/

namespace SqlResolution.Client

open SqlResolution.Text
open Timeline (SameOutcome)

variable {client : Client} {t : Timeline} {host name other : String} {instances : List Instance}

/-- To ask a host for instances never comes to an end. -/
def instancesHang (client : Client) (t : Timeline) (host : String) (request : Request) : Bool :=
  (Lookup.new t ⟨host, client.port⟩ request client.limits.response).runHangs

/-- What two calls for one instance come to: the same instance, or that neither name is there, or
the same failure. -/
inductive FindAlike (host name other : String) :
    Except Failure Instance → Except Failure Instance → Prop
  | found (instance' : Instance) : FindAlike host name other (.ok instance') (.ok instance')
  | missing : FindAlike host name other (.error (.notFound (.noInstance name host)))
      (.error (.notFound (.noInstance other host)))
  | failed (failure : Failure) : FindAlike host name other (.error failure) (.error failure)

/-! ## Two questions to one host -/

/-- A host answers any two questions for instances alike. -/
theorem instancesFor_twins (client : Client) (t : Timeline) (host : String)
    {request question : Request} (hrequest : ∃ data, request.encode = .ok data)
    (hquestion : ∃ data, question.encode = .ok data) :
    client.instancesHang t host request = client.instancesHang t host question ∧
      SameOutcome (client.instancesFor t host request) (client.instancesFor t host question) := by
  have htwins : Lookup.Twins (.new t ⟨host, client.port⟩ request client.limits.response)
      (.new t ⟨host, client.port⟩ question client.limits.response) :=
    ⟨rfl, rfl, rfl, .refl t⟩
  obtain ⟨hhangs, hresult, hleft⟩ := htwins.run rfl hrequest hquestion
  have hlookup : SameOutcome (client.lookup t host request) (client.lookup t host question) :=
    ⟨hresult, hleft.timeline⟩
  refine ⟨hhangs, ?_⟩
  rcases hfound : client.lookup t host question with ⟨failure | answer, u⟩
  all_goals
    obtain ⟨v, hsame, hanswered⟩ := hlookup.of_eq hfound
    rw [instancesFor, instancesFor, hsame, hfound]
  · exact ⟨rfl, hanswered⟩
  · exact ⟨rfl, hanswered.note _ _⟩

theorem encode_named_of_isFitName (h : Request.IsFitName name) :
    ∃ data, (Request.named name).encode = .ok data := by
  have hfit : (Request.named name).IsFit := fun found hfound => Option.some.inj hfound ▸ h
  obtain ⟨data, hdata, -⟩ := Request.decode_encode_of_isFit hfit
  exact ⟨data, hdata⟩

/-! ## Names and their case -/

/-- Names that can be asked for are the same if their letters are. -/
theorem lower_eq_of_isFitName (hname : Request.IsFitName name) (hother : Request.IsFitName other)
    (h : name.toList.map Char.toLower = other.toList.map Char.toLower) :
    lower name = lower other := by
  rw [lower_of_isAscii hname.ascii, lower_of_isAscii hother.ascii, h]

theorem select_alike (h : lower name = lower other) (host : String) (instances : List Instance) :
    FindAlike host name other (select host name instances) (select host other instances) := by
  simp only [select, sameName, h]
  split
  next found _ => exact .found found
  next => exact .missing

theorem select_eq_ok_iff {found : Instance} : select host name instances = .ok found ↔
    instances.find? (fun found => lower found.name = lower name) = some found := by
  simp only [select, sameName]
  split
  next first hfirst => simp [hfirst]
  next hnone => simp [hnone]

theorem select_eq_notFound_iff : (∃ fault, select host name instances = .error (.notFound fault)) ↔
    ∀ found ∈ instances, lower found.name ≠ lower name := by
  simp only [select, sameName]
  split
  next first hfirst =>
    have hmem := List.mem_of_find?_eq_some hfirst
    have hsame : lower first.name = lower name := by simpa using List.find?_some hfirst
    refine iff_of_false ?_ fun hall => hall first hmem hsame
    rintro ⟨fault, hfault⟩
    cases hfault
  next hnone =>
    refine iff_of_true ⟨_, rfl⟩ ?_
    simpa using hnone

/-- What one instance is found is what all of them are searched for, whatever else becomes of the
two calls; and it does not matter how the letters of its name are written. -/
theorem named_agrees (client : Client) (t : Timeline) (host : String) {name : String}
    (hname : Request.IsFitName name) :
    let listed := client.instances t host
    let found := client.named t host name
    client.instancesHang t host (.named name) = client.instancesHang t host .enumerate ∧
      found.2.Twins listed.2 ∧
      (∀ instances, listed.1 = .ok instances →
        (∀ i, found.1 = .ok i ↔ instances.find? (fun i => lower i.name = lower name) = some i) ∧
        ((∃ fault, found.1 = .error (.notFound fault)) ↔
          ∀ i ∈ instances, lower i.name ≠ lower name)) ∧
      (∀ failure, listed.1 = .error failure → found.1 = .error failure) ∧
      ∀ other, Request.IsFitName other →
        name.toList.map Char.toLower = other.toList.map Char.toLower →
        FindAlike host name other found.1 (client.named t host other).1 := by
  intro listed found
  have henumerate : ∃ data, Request.enumerate.encode = .ok data := ⟨_, rfl⟩
  have hlisted : ∀ {name}, Request.IsFitName name →
      (client.named t host name).1 = listed.1.bind (select host name) := by
    intro name hname
    obtain ⟨-, hsame⟩ :=
      instancesFor_twins client t host (encode_named_of_isFitName hname) henumerate
    show (client.instancesFor t host (.named name)).1.bind (select host name) = _
    rw [hsame.result]
    rfl
  obtain ⟨hhangs, hsame⟩ :=
    instancesFor_twins client t host (encode_named_of_isFitName hname) henumerate
  have hfound : found.1 = listed.1.bind (select host name) := hlisted hname
  refine ⟨hhangs, hsame.twins, ?_, ?_, ?_⟩
  · intro instances hinstances
    rw [hinstances] at hfound
    have hselect : found.1 = select host name instances := hfound
    rw [hselect]
    exact ⟨fun i => select_eq_ok_iff, select_eq_notFound_iff⟩
  · intro failure hfailure
    rw [hfound, hfailure]
    rfl
  · intro other hother hletters
    rw [hfound, hlisted hother]
    cases listed.1 with
    | error failure => exact .failed failure
    | ok instances =>
      exact select_alike (lower_eq_of_isFitName hname hother hletters) host instances

/-- A network with a host that has two instances, whose names differ in their case only. -/
def paired : Network :=
  let text := "InstanceName;Sales;;InstanceName;sales;tcp;9;;".toList.map (·.toNat.toUInt8)
  { Network.silent ⟨[], none, none⟩ with
    replies := [("10.0.0.2", [⟨Span.ofMillis 5, .datagram none (5 :: 46 :: 0 :: text)⟩])] }

/-- Whichever way the name is written, the first of the two is found. -/
theorem named_agrees_paired :
    Request.IsFitName "SALES" ∧ Request.IsFitName "sales" ∧
      ∃ i, i.name = "Sales" ∧ (default.named (.new paired) "10.0.0.2" "SALES").1 = .ok i ∧
        FindAlike "10.0.0.2" "SALES" "sales" (.ok i)
          (default.named (.new paired) "10.0.0.2" "sales").1 := by
  have hupper : Request.IsFitName "SALES" := by
    have hencode : Request.encodeName "SALES" = .ok [83, 65, 76, 69, 83, 0] := by decide +kernel
    exact Request.isFitName_of_encodeName hencode
  have hlower : Request.IsFitName "sales" := by
    have hencode : Request.encodeName "sales" = .ok [115, 97, 108, 101, 115, 0] := by
      decide +kernel
    exact Request.isFitName_of_encodeName hencode
  obtain ⟨-, -, hlisted, -, halike⟩ := named_agrees default (.new paired) "10.0.0.2" hupper
  have hfirst : ((default.instances (.new paired) "10.0.0.2").1.toOption.bind fun instances =>
      (instances.find? fun i => lower i.name = lower "SALES").map (·.name)) = some "Sales" := by
    decide +kernel
  cases hinstances : (default.instances (.new paired) "10.0.0.2").1 with
  | error failure =>
    rw [hinstances] at hfirst
    cases hfirst
  | ok instances =>
    rw [hinstances] at hfirst
    obtain ⟨i, hi, hname⟩ := Option.map_eq_some_iff.1 hfirst
    have hfound := ((hlisted instances hinstances).1 i).2 hi
    refine ⟨hupper, hlower, i, hname, hfound, ?_⟩
    rw [← hfound]
    exact halike "sales" hlower (by decide +kernel)

end SqlResolution.Client
