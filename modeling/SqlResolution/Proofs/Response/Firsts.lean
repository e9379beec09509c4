import Mathlib.Data.List.Forall2
import SqlResolution.Proofs.Record.Firsts
import SqlResolution.Response

/-!
# Only the first values of the known keys are read

An instance is made of what a record has under eleven keys. Two records with the same values there
become the same instance, or are both dropped, or fail alike; what else is in them shows in the
notices only. By induction this holds of the records of a text one after another, up to the first
failure, which comes at the same place.

The values of a record are the first ones in its run of fields. So whatever leaves these alone
leaves the instances alone.
-/

namespace SqlResolution

open SqlResolution.Text

namespace Instance

variable {record other : Record} {source : String}

theorem nameOf?_congr (h : record.first? "InstanceName" = other.first? "InstanceName") :
    nameOf? record = nameOf? other := by
  rw [nameOf?, nameOf?, h]

theorem tcpOf_congr (h : record.first? "tcp" = other.first? "tcp") :
    tcpOf record = tcpOf other := by
  rw [tcpOf, tcpOf, h]

theorem viaOf_congr (h : record.first? "via" = other.first? "via") :
    viaOf record = viaOf other := by
  rw [viaOf, viaOf, h]

theorem clusteredOf_congr (h : record.first? "IsClustered" = other.first? "IsClustered") :
    clusteredOf record = clusteredOf other := by
  rw [clusteredOf, clusteredOf, h]

theorem vinesOf_congr (h : record.get? Record.tripleKey = other.get? Record.tripleKey) :
    vinesOf record = vinesOf other := by
  rw [vinesOf, vinesOf, h]

/-- The keys whose values are taken as they stand, but for the name. -/
def plainKeys : List String :=
  ["ServerName", "IsClustered", "Version", "np", "rpc", "spx", "adsp", Record.tripleKey]

theorem assemble_congr (h : Record.AgreeOn plainKeys record other) (name : String) (tcp : Said Nat)
    (via : Said Via) (address : Address) :
    assemble record name tcp via address = assemble other name tcp via address := by
  have hserver : record.first? "ServerName" = other.first? "ServerName" := h.first? (by decide)
  have hversion : record.first? "Version" = other.first? "Version" := h.first? (by decide)
  have hpipe : record.first? "np" = other.first? "np" := h.first? (by decide)
  have hrpc : record.first? "rpc" = other.first? "rpc" := h.first? (by decide)
  have hspx : record.first? "spx" = other.first? "spx" := h.first? (by decide)
  have hadsp : record.first? "adsp" = other.first? "adsp" := h.first? (by decide)
  rw [assemble, assemble, hserver, hversion, hpipe, hrpc, hspx, hadsp,
    clusteredOf_congr (h.first? (by decide)), vinesOf_congr (h _ (by decide))]

/-- The result is the same; the notice about a record without a name shows the whole of it. -/
theorem ofRecord_congr (h : Record.AgreeOn Record.knownKeys record other) :
    (ofRecord source record).2 = (ofRecord source other).2 := by
  rw [ofRecord, ofRecord, nameOf?_congr (h.first? (by decide)), tcpOf_congr (h.first? (by decide)),
    viaOf_congr (h.first? (by decide))]
  cases nameOf? other with
  | none => rfl
  | some name =>
    cases tcpOf other with
    | error fault => rfl
    | ok tcp =>
      dsimp only
      cases Address.read? source with
      | none => rfl
      | some address =>
        dsimp only
        rw [assemble_congr (h.mono (by decide))]

theorem ofRecords_congr {records others : List Record}
    (h : List.Forall₂ (Record.AgreeOn Record.knownKeys) records others) :
    (ofRecords source records).2 = (ofRecords source others).2 := by
  induction h with
  | nil => rfl
  | @cons record other rest later hsame _ ih =>
    have hone := @ofRecord_congr record other source hsame
    rw [ofRecords, ofRecords, ← Prod.eta (ofRecord source record),
      ← Prod.eta (ofRecord source other), hone]
    cases (ofRecord source other).2 with
    | error fault => rfl
    | ok made =>
      dsimp only
      rw [ih]

end Instance

namespace Response

open Record

theorem readText_congr {source text other : String} {items others : List Item}
    (htext : tokens text = itemTokens items) (hother : tokens other = itemTokens others)
    (h : List.Forall₂ AgreeOnKnown (runs items) (runs others)) :
    (readText source text).2 = (readText source other).2 := by
  have hrecords : List.Forall₂ (AgreeOn knownKeys) (ofItems items) (ofItems others) := by
    rw [ofItems, ofItems, List.forall₂_map_left_iff, List.forall₂_map_right_iff]
    exact h.imp fun _ _ hrun => hrun.agreeOn
  rw [readText, readText, split_of_items htext, split_of_items hother]
  dsimp only
  rw [Instance.ofRecords_congr hrecords]

/-- Two accepted texts with as many records, of which each has the same first values of the known
keys as its counterpart, give the same instances or fail alike, whatever the source. So does a text
whose records have had their fields rearranged. -/
theorem readText_of_firsts {text other : String} {records others : List Record}
    (htext : split text = .ok records) (hother : split other = .ok others) :
    ∃ items items', (tokens text = itemTokens items ∧ records = ofItems items) ∧
      (tokens other = itemTokens items' ∧ others = ofItems items') ∧
      (List.Forall₂ AgreeOnKnown (runs items) (runs items') →
        ∀ source, (readText source text).2 = (readText source other).2) ∧
      (List.Forall₂ (Relation.EqvGen Rearranged) (runs items) (runs items') →
        ∀ source, (readText source text).2 = (readText source other).2) := by
  obtain ⟨items, hitems, hrecords⟩ := exists_items_of_split htext
  obtain ⟨items', hitems', hothers⟩ := exists_items_of_split hother
  refine ⟨items, items', ⟨hitems, hrecords⟩, ⟨hitems', hothers⟩, ?_, ?_⟩
  · exact fun h source => readText_congr hitems hitems' h
  · intro h source
    refine readText_congr hitems hitems' (h.imp ?_)
    exact fun _ _ hrun => agreeOnKnown_of_eqvGen hrun

def plainItems : List Item := [
  .field ⟨"np", ["1"], by decide, by decide +kernel⟩,
  .field ⟨"InstanceName", ["A"], by decide, by decide +kernel⟩,
  .field ⟨"bv", ["x", "y", "z"], by decide, by decide +kernel⟩,
  .stop]

/-- The fields of `plainItems` in another order, with keys in another case, one that means nothing
and one that was there before. -/
def disguisedItems : List Item := [
  .field ⟨"foo", [""], by decide, by decide +kernel⟩,
  .field ⟨"INSTANCENAME", ["A"], by decide, by decide +kernel⟩,
  .field ⟨"BV", ["x", "y", "z"], by decide, by decide +kernel⟩,
  .field ⟨"Np", ["1"], by decide, by decide +kernel⟩,
  .field ⟨"np", ["2"], by decide, by decide +kernel⟩]

theorem readText_of_firsts_disguised :
    split "np;1;InstanceName;A;bv;x;y;z;" = .ok (ofItems plainItems) ∧
    split "foo;;INSTANCENAME;A;BV;x;y;z;Np;1;np;2" = .ok (ofItems disguisedItems) ∧
    ∀ source, (readText source "np;1;InstanceName;A;bv;x;y;z;").2 =
      (readText source "foo;;INSTANCENAME;A;BV;x;y;z;Np;1;np;2").2 := by
  have hplain : tokens "np;1;InstanceName;A;bv;x;y;z;" = itemTokens plainItems := by
    decide +kernel
  have hdisguised : tokens "foo;;INSTANCENAME;A;BV;x;y;z;Np;1;np;2" =
      itemTokens disguisedItems := by
    decide +kernel
  have htext := split_of_items hplain
  have hother := split_of_items hdisguised
  refine ⟨htext, hother, ?_⟩
  obtain ⟨items, items', ⟨hitems, -⟩, ⟨hitems', -⟩, hsame, -⟩ := readText_of_firsts htext hother
  obtain rfl := itemTokens_inj (hitems.symm.trans hplain)
  obtain rfl := itemTokens_inj (hitems'.symm.trans hdisguised)
  exact hsame (by decide +kernel)

end Response

end SqlResolution
