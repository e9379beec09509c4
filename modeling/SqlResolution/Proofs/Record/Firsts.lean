import Mathlib.Data.List.Nodup
import Mathlib.Logic.Relation
import SqlResolution.Proofs.Instance.Written
import SqlResolution.Proofs.Record.Grammar

/-!
# The first values of the known keys

Of the fields between two ends only the first with each key counts, and only eleven keys are ever
asked for. So two runs of fields are as good as one another if the first values of these keys are
the same in both.

There are four things that can be done to a run without touching them. Fields with different keys
can change places; a key can be written in another case; a field whose key nobody asks for can be
put anywhere; and so can a field whose key has been there before.
-/

namespace SqlResolution.Record

open SqlResolution.Text

/-- The keys that are asked for. -/
def knownKeys : List String :=
  Instance.singleKeys ++ [tripleKey]

theorem lower_inj_knownKeys {key other : String} (hkey : key ∈ knownKeys)
    (hother : other ∈ knownKeys) (h : lower key = lower other) : key = other :=
  List.inj_on_of_nodup_map Instance.nodup_keys hkey hother h

/-- The values of the first field with this key, in any case. -/
def firstValues (run : List Field) (key : String) : Option (List String) :=
  (run.find? fun f => lower f.key = lower key).map (·.values)

/-- The known keys are there in both or in none, with the same first values. -/
def AgreeOnKnown (run other : List Field) : Prop :=
  ∀ key ∈ knownKeys, firstValues run key = firstValues other key

instance (run other : List Field) : Decidable (AgreeOnKnown run other) :=
  inferInstanceAs (Decidable (∀ key ∈ knownKeys, firstValues run key = firstValues other key))

/-- What can be done to the fields of a record without any effect. -/
inductive Rearranged : List Field → List Field → Prop where
  | reorder (before after : List Field) {moved placed : List Field} (h : moved.Perm placed)
      (hkeys : (moved.map fun f => lower f.key).Nodup) :
      Rearranged (before ++ moved ++ after) (before ++ placed ++ after)
  | recase (before after : List Field) {f g : Field} (hkey : lower f.key = lower g.key)
      (hvalues : f.values = g.values) :
      Rearranged (before ++ f :: after) (before ++ g :: after)
  | unknown (before after : List Field) {f : Field} (h : lower f.key ∉ knownKeys.map lower) :
      Rearranged (before ++ after) (before ++ f :: after)
  | repeated (before after : List Field) {f g : Field} (hmem : g ∈ before)
      (hkey : lower f.key = lower g.key) :
      Rearranged (before ++ after) (before ++ f :: after)

theorem get?_ofRun (run : List Field) (key : String) :
    (ofRun run).get? key = firstValues run key := by
  rw [ofRun, KeyTable.get?_ofFirsts, List.find?_map, Option.map_map]
  rfl

/-! ## Nothing is touched -/

/-- Where at most one element passes a test, the order does not matter. -/
theorem find?_perm {α : Type} {test : α → Bool} {moved placed : List α} (h : moved.Perm placed)
    (hunique : moved.Pairwise fun x y => test x → test y = false) :
    moved.find? test = placed.find? test := by
  induction h with
  | nil => rfl
  | cons x _ ih =>
    rw [List.find?_cons, List.find?_cons, ih hunique.of_cons]
  | swap x y rest =>
    have hxy : test y → test x = false := List.rel_of_pairwise_cons hunique List.mem_cons_self
    rw [List.find?_cons, List.find?_cons, List.find?_cons, List.find?_cons]
    cases hy : test y with
    | false => rfl
    | true => rw [hxy hy]
  | trans hfirst _ ihfirst ihsecond =>
    have hsymm : ∀ x y : α, (test x → test y = false) → test y → test x = false := by
      intro x y hxy hy
      rw [← Bool.not_eq_true]
      intro hx
      rw [hxy hx] at hy
      cases hy
    rw [ihfirst hunique, ihsecond ((hfirst.pairwise_iff (hsymm _ _)).1 hunique)]

theorem firstValues_append (run other : List Field) (key : String) :
    firstValues (run ++ other) key = (firstValues run key).or (firstValues other key) := by
  rw [firstValues, firstValues, firstValues, List.find?_append, Option.map_or]

theorem firstValues_cons (f : Field) (run : List Field) (key : String) :
    firstValues (f :: run) key =
      if lower f.key = lower key then some f.values else firstValues run key := by
  rw [firstValues, List.find?_cons]
  by_cases h : lower f.key = lower key
  · simp [h]
  · simp [h, firstValues]

theorem isSome_firstValues {run : List Field} {key : String} {f : Field} (hmem : f ∈ run)
    (hkey : lower f.key = lower key) : (firstValues run key).isSome := by
  rw [firstValues, Option.isSome_map, List.find?_isSome]
  exact ⟨f, hmem, decide_eq_true hkey⟩

theorem firstValues_perm {moved placed : List Field} (h : moved.Perm placed)
    (hkeys : (moved.map fun f => lower f.key).Nodup) (key : String) :
    firstValues moved key = firstValues placed key := by
  rw [firstValues, firstValues, find?_perm h]
  refine (List.pairwise_map.1 hkeys).imp ?_
  intro f g hne hf
  rw [decide_eq_true_eq] at hf
  rw [decide_eq_false_iff_not, ← hf]
  exact fun hg => hne hg.symm

theorem Rearranged.agreeOnKnown {run other : List Field} (h : Rearranged run other) :
    AgreeOnKnown run other := by
  intro key hkey
  cases h with
  | reorder before after h hkeys =>
    rw [firstValues_append, firstValues_append, firstValues_append, firstValues_append,
      firstValues_perm h hkeys]
  | recase before after hcase hvalues =>
    rw [firstValues_append, firstValues_append, firstValues_cons, firstValues_cons, hcase, hvalues]
  | @unknown before after f h =>
    have hne : lower f.key ≠ lower key := by
      intro heq
      exact h (heq ▸ List.mem_map_of_mem hkey)
    rw [firstValues_append, firstValues_append, firstValues_cons, if_neg hne]
  | @repeated before after f g hmem hcase =>
    rw [firstValues_append, firstValues_append, firstValues_cons]
    split
    next heq =>
      -- The field that was there before is found first.
      have hsome := isSome_firstValues hmem (hcase.symm.trans heq)
      obtain ⟨values, hvalues⟩ := Option.isSome_iff_exists.1 hsome
      rw [hvalues, Option.some_or, Option.some_or]
    next => rfl

theorem agreeOnKnown_of_eqvGen {run other : List Field}
    (h : Relation.EqvGen Rearranged run other) : AgreeOnKnown run other := by
  induction h with
  | rel run other h => exact h.agreeOnKnown
  | refl run => exact fun _ _ => rfl
  | symm run other _ ih => exact fun key hkey => (ih key hkey).symm
  | trans run middle other _ _ ihfirst ihsecond =>
    exact fun key hkey => (ihfirst key hkey).trans (ihsecond key hkey)

/-! ## Records that agree -/

/-- The records have the same values under these keys. -/
def AgreeOn (keys : List String) (record other : Record) : Prop :=
  ∀ key ∈ keys, record.get? key = other.get? key

variable {record other : Record} {keys : List String}

theorem AgreeOn.mono {fewer : List String} (h : AgreeOn keys record other) (hsub : fewer ⊆ keys) :
    AgreeOn fewer record other :=
  fun key hkey => h key (hsub hkey)

theorem AgreeOn.first? {key : String} (h : AgreeOn keys record other) (hkey : key ∈ keys) :
    record.first? key = other.first? key := by
  rw [Record.first?, Record.first?, h key hkey]

theorem AgreeOnKnown.agreeOn {run fields : List Field} (h : AgreeOnKnown run fields) :
    AgreeOn knownKeys (ofRun run) (ofRun fields) := by
  intro key hkey
  rw [get?_ofRun, get?_ofRun, h key hkey]

end SqlResolution.Record
