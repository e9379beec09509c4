import SqlResolution.Proofs.Instance.Read
import SqlResolution.Proofs.Record.Accepted
import SqlResolution.Proofs.Response.Isolation
import SqlResolution.Proofs.Response.RoundTrip

/-!
# What is read can be written

A text may say the same in many ways: its keys in any case, a key twice, keys that mean
nothing, a port with zeros in front, ways that make no sense, no end behind the last
record. None of this is left in an instance. Its fields are values of an accepted record,
so no semicolon is in them; its name is not empty, or there would be no instance; a port
is one that fits, and VIA parameters are cut at the very characters that must not be in
their parts.

Therefore every instance that is read can be written, and what is written of all of them
is read as just these instances, with nothing left to notice.
-/

namespace SqlResolution

open SqlResolution.Text

namespace Instance

/-! ## VIA parameters -/

theorem exists_of_mapM_eq_some {α β : Type} {f : α → Option β} {xs : List α} {ys : List β}
    (h : xs.mapM f = some ys) : (xs ≠ [] → ys ≠ []) ∧ ∀ y ∈ ys, ∃ x ∈ xs, f x = some y := by
  induction xs generalizing ys with
  | nil =>
    cases h
    exact ⟨fun hne => absurd rfl hne, fun y hy => absurd hy List.not_mem_nil⟩
  | cons x rest ih =>
    rw [List.mapM_cons] at h
    obtain ⟨first, hfirst, h⟩ := Option.bind_eq_some_iff.1 h
    obtain ⟨others, hothers, h⟩ := Option.bind_eq_some_iff.1 h
    cases h
    refine ⟨fun _ => List.cons_ne_nil _ _, fun y hy => ?_⟩
    rcases List.mem_cons.1 hy with rfl | hy
    · exact ⟨x, List.mem_cons_self, hfirst⟩
    · obtain ⟨other, hother, hvalue⟩ := (ih hothers).2 y hy
      exact ⟨other, List.mem_cons_of_mem _ hother, hvalue⟩

theorem of_readViaAddress? {cs : List Char} {card : ViaAddress}
    (h : readViaAddress? cs = some card) :
    cs = card.nic.toList ++ ':' :: card.port.toList ∧ ':' ∉ card.nic.toList := by
  rw [readViaAddress?] at h
  split at h
  next nic port hcut =>
    cases h
    rw [String.toList_ofList, String.toList_ofList]
    exact of_cutAt_eq_some hcut
  next => cases h

/-- The parts of VIA parameters hold nothing at which the parameters are cut. -/
theorem isWritable_of_readVia? {text : String} {via : Via} (hplain : Plain text)
    (h : readVia? text = some via) : via.IsWritable := by
  rw [readVia?] at h
  split at h
  next machine cards hcut =>
    obtain ⟨htext, hmachine⟩ := of_cutAt_eq_some hcut
    obtain ⟨addresses, hread, h⟩ := Option.map_eq_some_iff.1 h
    subst h
    obtain ⟨hne, hmem⟩ := exists_of_mapM_eq_some hread
    have hsemicolon : ∀ c, c ∈ machine ∨ c ∈ cards → c ≠ ';' := by
      rintro c hc rfl
      rw [Plain, htext, List.mem_append, List.mem_cons] at hplain
      exact hplain (hc.imp_right .inr)
    refine ⟨hne (splitOn_ne_nil _ _), ?_, ?_⟩
    · intro c hc
      rw [String.toList_ofList] at hc
      exact ⟨hsemicolon c (.inl hc), ne_of_mem_of_not_mem hc hmachine⟩
    · intro card hcard
      obtain ⟨token, htoken, hcardRead⟩ := hmem card hcard
      obtain ⟨hform, hnic⟩ := of_readViaAddress? hcardRead
      have hboth : ∀ c ∈ token, c ≠ ';' ∧ c ≠ ',' := by
        intro c hc
        obtain ⟨hcards, hcomma⟩ := of_mem_splitOn htoken hc
        exact ⟨hsemicolon c (.inr hcards), hcomma⟩
      rw [hform] at hboth
      refine ⟨fun c hc => ?_, fun c hc => ?_⟩
      · obtain ⟨hsemi, hcomma⟩ := hboth c (List.mem_append_left _ hc)
        exact ⟨hsemi, hcomma, ne_of_mem_of_not_mem hc hnic⟩
      · exact hboth c (List.mem_append_right _ (List.mem_cons_of_mem _ hc))
  next => cases h

/-! ## Values of an accepted record -/

variable {record : Record} {key text : String}

theorem plain_of_get? (h : record.IsWritable) {values : List String}
    (hvalues : record.get? key = some values) : ∀ value ∈ values, Plain value := by
  obtain ⟨entry, hentry, rfl⟩ := Option.map_eq_some_iff.1 hvalues
  intro value hvalue
  exact h.plain entry (List.mem_of_find?_eq_some hentry) value (List.mem_cons_of_mem _ hvalue)

theorem plain_of_first? (h : record.IsWritable) (htext : record.first? key = some text) :
    Plain text := by
  obtain ⟨values, hvalues, hhead⟩ := Option.bind_eq_some_iff.1 htext
  exact plain_of_get? h hvalues text (List.mem_of_mem_head? hhead)

theorem plain_getD_first? (h : record.IsWritable) : Plain ((record.first? key).getD "") := by
  cases htext : record.first? key with
  | none => exact List.not_mem_nil
  | some text => exact plain_of_first? h htext

theorem port?_le {port : Nat} (h : port? text = some port) : port ≤ 65535 := by
  rw [port?] at h
  split at h
  next hform =>
    cases h
    exact hform.2.2
  next => cases h

theorem isWritable_of_viaOf (h : record.IsWritable) {via : Via}
    (hvia : (viaOf record).value? = some via) : via.IsWritable := by
  rw [viaOf] at hvia
  cases htext : record.first? "via" with
  | none =>
    rw [htext] at hvia
    cases hvia
  | some text =>
    rw [htext] at hvia
    dsimp only at hvia
    split at hvia
    next found hread =>
      cases hvia
      exact isWritable_of_readVia? (plain_of_first? h htext) hread
    next => cases hvia

theorem plain_of_vinesOf (h : record.IsWritable) {vines : Vines}
    (hvines : vinesOf record = some vines) :
    Plain vines.item ∧ Plain vines.group ∧ Plain vines.organisation := by
  rw [vinesOf] at hvines
  split at hvines
  next item group organisation hvalues =>
    cases hvines
    have hplain := plain_of_get? h hvalues
    exact ⟨hplain item (by simp), hplain group (by simp), hplain organisation (by simp)⟩
  next => cases hvines

/-- What an accepted record says of an instance with a name can be written. -/
theorem isWritable_described (h : record.IsWritable) {name : String}
    (hname : nameOf? record = some name) (address : Address) :
    (described address record name).IsWritable := by
  obtain ⟨htext, hne⟩ := Option.filter_eq_some_iff.1 hname
  constructor
  case name_ne => exact of_decide_eq_true hne
  case name => exact plain_of_first? h htext
  case serverName => exact plain_getD_first? h
  case version => exact plain_getD_first? h
  case tcp =>
    intro port hport
    obtain ⟨text, -, hvalue⟩ := Option.bind_eq_some_iff.1 hport
    exact port?_le hvalue
  case pipe => exact fun text htext => plain_of_first? h htext
  case via => exact fun via hvia => isWritable_of_viaOf h hvia
  case rpc => exact fun text htext => plain_of_first? h htext
  case spx => exact fun text htext => plain_of_first? h htext
  case appleTalk => exact fun text htext => plain_of_first? h htext
  case vines => exact fun vines hvines => plain_of_vinesOf h hvines

/-! ## Instances of accepted records -/

theorem described_of_mem_ofRecords {source : String} {address : Address} {records : List Record}
    {made : List Instance} (hsource : Address.read? source = some address)
    (h : (ofRecords source records).2 = .ok made) {x : Instance} (hx : x ∈ made) :
    ∃ record ∈ records, ∃ name, nameOf? record = some name ∧ x = described address record name := by
  have hshort : ∀ record ∈ records, record.isOverlong = false := by
    intro record hrecord
    rw [← Bool.not_eq_true]
    intro hlong
    obtain ⟨count, -, hrefused⟩ := ofRecords_of_overlong hsource ⟨record, hrecord, hlong⟩
    rw [hrefused] at h
    cases h
  rw [ofRecords_of_not_overlong hsource hshort] at h
  cases h
  obtain ⟨record, hrecord, hmade⟩ := List.mem_filterMap.1 hx
  obtain ⟨name, hname, rfl⟩ := Option.map_eq_some_iff.1 hmade
  exact ⟨record, hrecord, name, hname, rfl⟩

end Instance

namespace Response

/-- Every instance that a text from a known address says there is has this address and can be
written, and the text that is written of all of them says the same instances again. -/
theorem readText_canonical {source text : String} {address : Address} {instances : List Instance}
    (hsource : Address.read? source = some address)
    (h : (readText source text).2 = .ok instances) :
    (∀ x ∈ instances, x.address = address ∧ x.IsWritable) ∧
    readText source (Instance.writeAll instances) = ([], .ok instances) := by
  obtain ⟨records, hrecords, hmade⟩ := exists_records_of_readText h
  have hwritable := Record.isWritable_of_split hrecords
  have hinstances : ∀ x ∈ instances, x.address = address ∧ x.IsWritable := by
    intro x hx
    obtain ⟨record, hrecord, name, hname, rfl⟩ :=
      Instance.described_of_mem_ofRecords hsource (congrArg Prod.snd hmade) hx
    exact ⟨rfl, Instance.isWritable_described (hwritable record hrecord) hname address⟩
  have hwritten : ∀ x ∈ instances, x.IsWritable ∧ Address.read? source = some x.address :=
    fun x hx => ⟨(hinstances x hx).2, (hinstances x hx).1 ▸ hsource⟩
  exact ⟨hinstances, readText_writeAll hwritten⟩

def looseText : String :=
  "INSTANCENAME;A;Tcp;0080;tcp;1;via;m,n:1:2,:;x;;;bv;;;;;IsClustered;YES;instancename;B;via;v"

def looseInstances : List Instance := [
  { bareInstance "A" with tcp := some 80, via := some ⟨"m", [⟨"n", "1:2"⟩, ⟨"", ""⟩]⟩ },
  { bareInstance "B" with isClustered := true }]

/-- Keys in any case, a port with zeros in front and another one behind it, a key that means
nothing, a record without a name, VIA parameters that make no sense, and no end. -/
theorem readText_canonical_loose :
    (readText "10.0.0.1" looseText).2 = .ok looseInstances ∧
    readText "10.0.0.1" ("ServerName;;InstanceName;A;IsClustered;No;Version;;tcp;80;" ++
      "via;m,n:1:2,:;;ServerName;;InstanceName;B;IsClustered;Yes;Version;;;") =
        ([], .ok looseInstances) := by
  have hsource : Address.read? "10.0.0.1" = some (.v4 ⟨10, 0, 0, 1⟩) := by
    decide +kernel
  have hread : (readText "10.0.0.1" looseText).2 = .ok looseInstances :=
    eq_ok_of_toOption (by decide +kernel)
  have hwritten : Instance.writeAll looseInstances =
      "ServerName;;InstanceName;A;IsClustered;No;Version;;tcp;80;" ++
        "via;m,n:1:2,:;;ServerName;;InstanceName;B;IsClustered;Yes;Version;;;" := by
    decide +kernel
  exact ⟨hread, hwritten ▸ (readText_canonical hsource hread).2⟩

end Response

end SqlResolution
