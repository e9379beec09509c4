import SqlResolution.Instance.OfRecord
import SqlResolution.Instance.Write
import SqlResolution.Proofs.Address
import SqlResolution.Proofs.Record.Written

/-!
# Written instances are read back

The text of an instance is that of a record: its eleven keys in order, less those of
the ways that it does not have. So reading it back has two halves. The record can be
written, and is therefore split into itself; and each field of the instance is found
in the record under its key, from which the builder makes the same instance.

Nothing here depends on the order of the keys but that no two of them are equal in
lower case.
-/

namespace SqlResolution

open SqlResolution.Text

/-! ## Tables of optional fields -/

namespace KeyTable

variable {α : Type}

def ofFields (fields : List (String × Option α)) : KeyTable α :=
  ⟨fields.filterMap fun field => field.2.map (Entry.ofKey field.1)⟩

theorem mem_of_mem_ofFields {fields : List (String × Option α)} {entry : Entry α}
    (h : entry ∈ (ofFields fields).entries) : (entry.key, some entry.value) ∈ fields := by
  obtain ⟨⟨key, value⟩, hfield, hentry⟩ := List.mem_filterMap.1 h
  obtain ⟨content, rfl, rfl⟩ := Option.map_eq_some_iff.1 hentry
  exact hfield

theorem folded_ofFields_sublist (fields : List (String × Option α)) :
    ((ofFields fields).entries.map (·.folded)).Sublist (fields.map fun field => lower field.1) := by
  induction fields with
  | nil => exact List.Sublist.slnil
  | cons field rest ih =>
    obtain ⟨key, value⟩ := field
    cases value with
    | none => exact ih.cons _
    | some content => exact ih.cons_cons _

theorem isDistinct_ofFields {fields : List (String × Option α)}
    (h : (fields.map fun field => lower field.1).Nodup) : (ofFields fields).IsDistinct :=
  h.sublist (folded_ofFields_sublist fields)

theorem get?_ofFields {fields : List (String × Option α)}
    (h : (fields.map fun field => lower field.1).Nodup) {key : String} {value : Option α}
    (hfield : (key, value) ∈ fields) : (ofFields fields).get? key = value := by
  induction fields with
  | nil => cases hfield
  | cons first rest ih =>
    obtain ⟨hnew, hrest⟩ := List.nodup_cons.1 h
    rcases List.mem_cons.1 hfield with rfl | hlater
    · cases value with
      | none => exact get?_eq_none fun hmem => hnew ((folded_ofFields_sublist rest).mem hmem)
      | some content => simp [get?, entry?, ofFields, Entry.ofKey]
    · have hne : lower first.1 ≠ lower key :=
        fun heq => hnew (List.mem_map.2 ⟨_, hlater, heq.symm⟩)
      rw [← ih hrest hlater]
      obtain ⟨other, content⟩ := first
      cases content with
      | none => rfl
      | some content => simp [get?, entry?, ofFields, Entry.ofKey, hne]

end KeyTable

namespace Instance

/-- The keys of an instance that take one value, with their values. -/
def singleFields (x : Instance) : List (String × Option String) := [
  ("ServerName", some x.serverName),
  ("InstanceName", some x.name),
  ("IsClustered", some (if x.isClustered then "Yes" else "No")),
  ("Version", some x.version),
  ("tcp", x.tcp.map fun port => String.ofList (Decimal.digits port)),
  ("np", x.pipe),
  ("via", x.via.map Via.write),
  ("rpc", x.rpc),
  ("spx", x.spx),
  ("adsp", x.appleTalk)]

def fields (x : Instance) : List (String × Option (List String)) :=
  (x.singleFields.map fun field => (field.1, field.2.map ([·]))) ++
    [(Record.tripleKey, x.vines.map fun v => [v.item, v.group, v.organisation])]

def toRecord (x : Instance) : Record :=
  KeyTable.ofFields x.fields

def singleKeys : List String :=
  ["ServerName", "InstanceName", "IsClustered", "Version", "tcp", "np", "via", "rpc", "spx", "adsp"]

theorem map_singleFields (x : Instance) : x.singleFields.map (·.1) = singleKeys := rfl

theorem nodup_keys : ((singleKeys ++ [Record.tripleKey]).map lower).Nodup := by
  decide +kernel

theorem nodup_fields (x : Instance) : (x.fields.map fun field => lower field.1).Nodup :=
  nodup_keys

theorem first?_toRecord {x : Instance} {key : String} {value : Option String}
    (h : (key, value) ∈ x.singleFields) : x.toRecord.first? key = value := by
  have hfield : (key, value.map ([·])) ∈ x.fields :=
    List.mem_append_left _ (List.mem_map.2 ⟨_, h, rfl⟩)
  rw [Record.first?, toRecord, KeyTable.get?_ofFields x.nodup_fields hfield]
  cases value <;> rfl

theorem get?_tripleKey (x : Instance) :
    x.toRecord.get? Record.tripleKey =
      x.vines.map fun v => [v.item, v.group, v.organisation] :=
  KeyTable.get?_ofFields x.nodup_fields (List.mem_append_right _ (List.mem_singleton_self _))

/-! ## The text of an instance is that of its record -/

def fieldText (key : String) (values : List String) : String :=
  String.join ((key :: values).map (· ++ ";"))

theorem write_ofFields (fields : List (String × Option (List String))) :
    Record.write (KeyTable.ofFields fields) =
      String.join (fields.map fun field => (field.2.map (fieldText field.1)).getD "") ++ ";" := by
  rw [Record.write]
  congr 1
  induction fields with
  | nil => rfl
  | cons field rest ih =>
    obtain ⟨key, values⟩ := field
    rw [List.map_cons, String.join_cons, ← ih]
    cases values with
    | none => rw [Option.map_none, Option.getD_none, String.empty_append]; rfl
    | some values => rw [Option.map_some, Option.getD_some, ← String.join_cons]; rfl

theorem fieldText_single (key : String) (value : Option String) :
    ((value.map ([·])).map (fieldText key)).getD "" = writeField? key value := by
  cases value with
  | none => rfl
  | some content =>
    simp [fieldText, String.join_cons, writeField?, writeField, String.append_assoc]

theorem fieldText_triple (key : String) (vines : Option Vines) :
    ((vines.map fun v => [v.item, v.group, v.organisation]).map (fieldText key)).getD "" =
      writeField? key (vines.map fun v => v.item ++ ";" ++ v.group ++ ";" ++ v.organisation) := by
  cases vines with
  | none => rfl
  | some v => simp [fieldText, String.join_cons, writeField?, writeField, String.append_assoc]

theorem write_toRecord (x : Instance) : x.toRecord.write = x.write := by
  have hsingle : (x.singleFields.map fun field => (field.1, field.2.map ([·]))).map
      (fun field => (field.2.map (fieldText field.1)).getD "") =
        x.singleFields.map fun field => writeField? field.1 field.2 := by
    rw [List.map_map]
    exact List.map_congr_left fun field _ => fieldText_single field.1 field.2
  rw [toRecord, write_ofFields, fields, List.map_append, hsingle, List.map_singleton,
    fieldText_triple]
  simp only [singleFields, List.map_cons, List.map_nil, List.cons_append, List.nil_append,
    String.join_cons, String.join_nil, String.append_assoc, String.append_empty]
  simp only [write, writeField?, Option.map_some, Option.getD_some, String.append_assoc]
  rfl

theorem writeAll_toRecord (instances : List Instance) :
    Record.writeAll (instances.map toRecord) = writeAll instances := by
  rw [Record.writeAll, writeAll, List.map_map]
  exact congrArg String.join (List.map_congr_left fun x _ => write_toRecord x)

/-! ## The record of an instance can be written -/

theorem plain_digits (n : Nat) : Plain (String.ofList (Decimal.digits n)) := by
  rw [Plain, String.toList_ofList]
  exact fun h => Decimal.ne_of_mem_digits rfl h rfl

theorem plain_clustered (flag : Bool) : Plain (if flag then "Yes" else "No") := by
  cases flag
  · show ';' ∉ "No".toList
    decide
  · show ';' ∉ "Yes".toList
    decide

theorem plain_viaWrite {via : Via} (h : via.IsWritable) : Plain via.write := by
  obtain ⟨-, hmachine, hcards⟩ := h
  rw [Plain, Via.write, String.toList_append, String.toList_join, List.mem_append,
    List.mem_flatMap]
  rintro (hmem | ⟨text, htext, hmem⟩)
  · exact (hmachine _ hmem).1 rfl
  · obtain ⟨card, hcard, rfl⟩ := List.mem_map.1 htext
    simp only [String.toList_append, List.mem_append] at hmem
    rcases hmem with ((hcomma | hnic) | hcolon) | hport
    · exact absurd hcomma (by decide)
    · exact ((hcards card hcard).1 _ hnic).1 rfl
    · exact absurd hcolon (by decide)
    · exact ((hcards card hcard).2 _ hport).1 rfl

theorem IsWritable.plain_singleFields {x : Instance} (h : x.IsWritable) :
    ∀ field ∈ x.singleFields, ∀ value ∈ field.2, Plain value := by
  simp only [singleFields, List.forall_mem_cons, List.not_mem_nil, false_implies, implies_true,
    and_true, Option.mem_def, Option.some.injEq, forall_eq', Option.map_eq_some_iff,
    forall_exists_index, and_imp]
  refine ⟨h.serverName, h.name, plain_clustered _, h.version, ?_, h.pipe, ?_, h.rpc, h.spx,
    h.appleTalk⟩
  · rintro _ port - rfl
    exact plain_digits port
  · rintro _ via hvia rfl
    exact plain_viaWrite (h.via via hvia)

theorem mem_singleKeys {x : Instance} {field : String × Option String}
    (h : field ∈ x.singleFields) : field.1 ∈ singleKeys := by
  rw [← map_singleFields x]
  exact List.mem_map.2 ⟨field, h, rfl⟩

/-- A field of the record has either one plain value or the three of the last key. -/
theorem IsWritable.mem_toRecord {x : Instance} (h : x.IsWritable)
    {entry : KeyTable.Entry (List String)} (hentry : entry ∈ x.toRecord.entries) :
    (entry.key ∈ singleKeys ∧ ∃ value, entry.value = [value] ∧ Plain value) ∨
    (entry.key = Record.tripleKey ∧
      ∃ v ∈ x.vines, entry.value = [v.item, v.group, v.organisation]) := by
  rcases List.mem_append.1 (KeyTable.mem_of_mem_ofFields hentry) with hsingle | htriple
  · obtain ⟨⟨key, value⟩, hfield, heq⟩ := List.mem_map.1 hsingle
    obtain ⟨rfl, hvalue⟩ := Prod.mk.inj heq
    obtain ⟨content, rfl, hcontent⟩ := Option.map_eq_some_iff.1 hvalue
    exact .inl ⟨mem_singleKeys hfield, content, hcontent.symm,
      h.plain_singleFields _ hfield content rfl⟩
  · obtain ⟨hkey, hvalue⟩ := Prod.mk.inj (List.mem_singleton.1 htriple)
    obtain ⟨v, hv, hcontent⟩ := Option.map_eq_some_iff.1 hvalue.symm
    exact .inr ⟨hkey, v, hv, hcontent.symm⟩

theorem isWritable_toRecord {x : Instance} (h : x.IsWritable) : x.toRecord.IsWritable where
  entries_ne := by simp [toRecord, fields, singleFields, KeyTable.ofFields]
  distinct := KeyTable.isDistinct_ofFields x.nodup_fields
  key_ne := by
    have hkeys : ∀ key ∈ singleKeys, key ≠ "" := by decide
    intro entry hentry
    rcases h.mem_toRecord hentry with ⟨hkey, -⟩ | ⟨hkey, -⟩
    · exact hkeys _ hkey
    · rw [hkey]
      decide
  count := by
    have hsingle : ∀ key ∈ singleKeys, Record.valueCount key = 1 := by decide +kernel
    have htriple : Record.valueCount Record.tripleKey = 3 := by decide +kernel
    intro entry hentry
    rcases h.mem_toRecord hentry with ⟨hkey, value, hvalue, -⟩ | ⟨hkey, v, -, hvalue⟩
    · rw [hvalue, hsingle _ hkey]
      rfl
    · rw [hvalue, hkey, htriple]
      rfl
  plain := by
    have hkeys : ∀ key ∈ singleKeys, ';' ∉ key.toList := by decide
    intro entry hentry token htoken
    rcases h.mem_toRecord hentry with ⟨hkey, value, hvalue, hplain⟩ | ⟨hkey, v, hv, hvalue⟩
    · rw [hvalue, List.mem_cons, List.mem_singleton] at htoken
      rcases htoken with rfl | rfl
      · exact hkeys _ hkey
      · exact hplain
    · obtain ⟨hitem, hgroup, horganisation⟩ := h.vines v hv
      simp only [hvalue, List.mem_cons, List.not_mem_nil, or_false] at htoken
      rcases htoken with rfl | rfl | rfl | rfl
      · rw [hkey]
        decide
      · exact hitem
      · exact hgroup
      · exact horganisation

theorem split_writeAll {instances : List Instance} (h : ∀ x ∈ instances, x.IsWritable) :
    Record.split (writeAll instances) = .ok (instances.map toRecord) := by
  rw [← writeAll_toRecord]
  refine Record.split_writeAll ?_
  intro record hrecord
  obtain ⟨x, hx, rfl⟩ := List.mem_map.1 hrecord
  exact isWritable_toRecord (h x hx)

/-! ## Values are read back -/

theorem readPort_digits {port : Nat} (h : port ≤ 65535) :
    readPort (String.ofList (Decimal.digits port)) = .ok (.value port) := by
  have hlength : (Decimal.digits port).length ≤ 5 :=
    Decimal.length_digits_le (by omega) (by omega)
  have hform : ¬ (Decimal.digits port = [] || !(Decimal.digits port).all isAsciiDigit) = true := by
    rw [Decimal.all_isAsciiDigit_digits]
    simp [Decimal.digits_ne_nil]
  have hshort : ¬ Decimal.digitLimit < (Decimal.digits port).length := by
    show ¬ 4300 < _
    omega
  rw [readPort, String.toList_ofList, if_neg hform, if_neg hshort, Decimal.value_digits,
    if_neg (by show ¬ 65535 < _; omega)]

def cardText (card : ViaAddress) : List Char :=
  card.nic.toList ++ ':' :: card.port.toList

theorem readViaAddress?_cardText {card : ViaAddress} (h : ':' ∉ card.nic.toList) :
    readViaAddress? (cardText card) = some card := by
  rw [readViaAddress?, cardText, cutAt_append_cons h]
  simp

theorem toList_viaWrite {via : Via} (h : via.addresses ≠ []) :
    via.write.toList =
      via.machine.toList ++ ',' :: [','].intercalate (via.addresses.map cardText) := by
  rw [Via.write, String.toList_append]
  congr 1
  generalize via.addresses = cards at h
  induction cards with
  | nil => exact absurd rfl h
  | cons card later ih =>
    have hcard : ("," ++ card.nic ++ ":" ++ card.port).toList = ',' :: cardText card := by
      simp [cardText]
    rw [List.map_cons, String.join_cons, String.toList_append, hcard]
    cases later with
    | nil => simp [List.intercalate_singleton, String.join_nil]
    | cons next others =>
      rw [ih (List.cons_ne_nil _ _)]
      show _ = ',' :: [','].intercalate (cardText card :: cardText next :: others.map cardText)
      rw [List.intercalate_cons_cons, List.append_assoc]
      rfl

theorem mapM_readViaAddress? {cards : List ViaAddress}
    (h : ∀ card ∈ cards, ':' ∉ card.nic.toList) :
    (cards.map cardText).mapM readViaAddress? = some cards := by
  induction cards with
  | nil => rfl
  | cons card later ih =>
    rw [List.map_cons, List.mapM_cons, readViaAddress?_cardText (h card List.mem_cons_self),
      ih fun other hother => h other (List.mem_cons_of_mem _ hother)]
    rfl

theorem readVia?_write {via : Via} (h : via.IsWritable) : readVia? via.write = some via := by
  obtain ⟨hne, hmachine, hcards⟩ := h
  have hcomma : ∀ token ∈ via.addresses.map cardText, ',' ∉ token := by
    intro token htoken hmem
    obtain ⟨card, hcard, rfl⟩ := List.mem_map.1 htoken
    rcases List.mem_append.1 hmem with hnic | hrest
    · exact ((hcards card hcard).1 _ hnic).2.1 rfl
    · rcases List.mem_cons.1 hrest with hcolon | hport
      · exact absurd hcolon (by decide)
      · exact ((hcards card hcard).2 _ hport).2 rfl
  have hcolon : ∀ card ∈ via.addresses, ':' ∉ card.nic.toList :=
    fun card hcard hmem => ((hcards card hcard).1 _ hmem).2.2 rfl
  rw [readVia?, toList_viaWrite hne, cutAt_append_cons fun hmem => (hmachine _ hmem).2 rfl]
  dsimp only
  rw [splitOn_intercalate (by simpa using hne) hcomma, mapM_readViaAddress? hcolon,
    Option.map_some, String.ofList_toList]

/-! ## Instances are read back -/

theorem nameOf?_toRecord {x : Instance} (h : x.name ≠ "") : nameOf? x.toRecord = some x.name := by
  have hname : x.toRecord.first? "InstanceName" = some x.name :=
    first?_toRecord (by simp [singleFields])
  rw [nameOf?, hname, Option.filter_some, if_pos (decide_eq_true h)]

theorem clusteredOf_toRecord (x : Instance) : clusteredOf x.toRecord = x.isClustered := by
  have hanswer : x.toRecord.first? "IsClustered" = some (if x.isClustered then "Yes" else "No") :=
    first?_toRecord (by simp [singleFields])
  rw [clusteredOf, hanswer]
  cases x.isClustered
  · show decide (lower "No" = "yes") = false
    decide +kernel
  · show decide (lower "Yes" = "yes") = true
    decide +kernel

theorem tcpOf_toRecord {x : Instance} (h : ∀ port ∈ x.tcp, port ≤ 65535) :
    tcpOf x.toRecord = .ok (x.tcp.elim .nothing .value) := by
  have htcp : x.toRecord.first? "tcp" = x.tcp.map fun port => String.ofList (Decimal.digits port) :=
    first?_toRecord (by simp [singleFields])
  rw [tcpOf, htcp]
  cases hport : x.tcp with
  | none => rfl
  | some port => exact readPort_digits (h port hport)

theorem viaOf_toRecord {x : Instance} (h : ∀ via ∈ x.via, via.IsWritable) :
    viaOf x.toRecord = x.via.elim .nothing .value := by
  have hvia : x.toRecord.first? "via" = x.via.map Via.write :=
    first?_toRecord (by simp [singleFields])
  rw [viaOf, hvia]
  cases hcontent : x.via with
  | none => rfl
  | some via =>
    rw [Option.map_some]
    dsimp only
    rw [readVia?_write (h via hcontent)]
    rfl

theorem vinesOf_toRecord (x : Instance) : vinesOf x.toRecord = x.vines := by
  rw [vinesOf, get?_tripleKey]
  cases x.vines <;> rfl

theorem value?_elim {α : Type} (content : Option α) :
    (content.elim Said.nothing Said.value).value? = content := by
  cases content <;> rfl

theorem nonsense?_elim {α : Type} (content : Option α) :
    (content.elim Said.nothing Said.value).nonsense? = none := by
  cases content <;> rfl

theorem assemble_toRecord (x : Instance) :
    assemble x.toRecord x.name (x.tcp.elim .nothing .value) (x.via.elim .nothing .value) x.address =
      x := by
  have hserver : x.toRecord.first? "ServerName" = some x.serverName :=
    first?_toRecord (by simp [singleFields])
  have hversion : x.toRecord.first? "Version" = some x.version :=
    first?_toRecord (by simp [singleFields])
  have hpipe : x.toRecord.first? "np" = x.pipe := first?_toRecord (by simp [singleFields])
  have hrpc : x.toRecord.first? "rpc" = x.rpc := first?_toRecord (by simp [singleFields])
  have hspx : x.toRecord.first? "spx" = x.spx := first?_toRecord (by simp [singleFields])
  have hadsp : x.toRecord.first? "adsp" = x.appleTalk := first?_toRecord (by simp [singleFields])
  rw [assemble, hserver, hversion, hpipe, hrpc, hspx, hadsp, clusteredOf_toRecord,
    vinesOf_toRecord, value?_elim, value?_elim]
  rfl

/-- From its record an instance is made again, and there is nothing to notice. -/
theorem ofRecord_toRecord {source : String} {x : Instance} (h : x.IsWritable)
    (hsource : Address.read? source = some x.address) :
    ofRecord source x.toRecord = ([], .ok (some x)) := by
  rw [ofRecord, nameOf?_toRecord h.name_ne]
  dsimp only
  rw [tcpOf_toRecord h.tcp]
  dsimp only
  rw [viaOf_toRecord h.via, hsource, nonsenseNotices, nonsense?_elim, nonsense?_elim]
  dsimp only
  rw [assemble_toRecord]
  rfl

theorem ofRecords_toRecord {source : String} {instances : List Instance}
    (h : ∀ x ∈ instances, x.IsWritable ∧ Address.read? source = some x.address) :
    ofRecords source (instances.map toRecord) = ([], .ok instances) := by
  induction instances with
  | nil => rfl
  | cons x later ih =>
    obtain ⟨hx, hsource⟩ := h x List.mem_cons_self
    rw [List.map_cons, ofRecords, ofRecord_toRecord hx hsource]
    dsimp only
    rw [ih fun other hother => h other (List.mem_cons_of_mem _ hother)]
    rfl

end Instance

end SqlResolution
