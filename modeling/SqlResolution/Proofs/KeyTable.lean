import SqlResolution.Proofs.Record.Written

/-!
# The first value of each key

Of items one after another, a table can be made in which the first value of each key
counts and every later one is passed over, whatever the case in which its key is
written. The keys stand in the order in which they first come.

The table is defined at once, from all items. That it can also be gathered one item at
a time, each put at the end unless its key is there already, is the main lemma: what is
there already is decided by the first of the items that come before.
-/

namespace SqlResolution.KeyTable

open SqlResolution.Text

/-! ## Lists without repetitions

In `eraseDupsBy` the relation says of a later element that it repeats an earlier one. -/

section Lists

variable {β : Type} {repeats : β → β → Bool}

/-- A test that tells no repetition from what it repeats finds the same element. -/
theorem find?_eraseDupsBy {test : β → Bool}
    (hsame : ∀ later earlier, repeats later earlier → test later = test earlier) (items : List β) :
    (items.eraseDupsBy repeats).find? test = items.find? test := by
  match items with
  | [] => rfl
  | first :: rest =>
    rw [List.eraseDupsBy_cons, List.find?_cons, List.find?_cons]
    cases htest : test first with
    | true => rfl
    | false =>
      dsimp only
      rw [find?_eraseDupsBy hsame, List.find?_filter]
      congr 1
      funext later
      cases hrepeats : repeats later first with
      | true => simp [hsame later first hrepeats, htest]
      | false => simp
termination_by items.length
decreasing_by exact Nat.lt_succ_of_le (List.length_filter_le _ _)

theorem eraseDupsBy_sublist (items : List β) : (items.eraseDupsBy repeats).Sublist items := by
  match items with
  | [] => exact List.Sublist.slnil
  | first :: rest =>
    rw [List.eraseDupsBy_cons]
    exact ((eraseDupsBy_sublist _).trans List.filter_sublist).cons_cons first
termination_by items.length
decreasing_by exact Nat.lt_succ_of_le (List.length_filter_le _ _)

theorem pairwise_eraseDupsBy (items : List β) :
    (items.eraseDupsBy repeats).Pairwise fun earlier later => repeats later earlier = false := by
  match items with
  | [] => exact List.Pairwise.nil
  | first :: rest =>
    rw [List.eraseDupsBy_cons]
    refine List.Pairwise.cons ?_ (pairwise_eraseDupsBy _)
    intro later hlater
    have hkept := (eraseDupsBy_sublist _).subset hlater
    simpa using (List.mem_filter.1 hkept).2
termination_by items.length
decreasing_by exact Nat.lt_succ_of_le (List.length_filter_le _ _)

/-- One more element is passed over if it repeats any of those before it. -/
theorem eraseDupsBy_concat
    (htrans : ∀ a b c, repeats a b → repeats b c → repeats a c) (items : List β) (last : β) :
    (items ++ [last]).eraseDupsBy repeats =
      items.eraseDupsBy repeats ++ if items.any (repeats last) then [] else [last] := by
  match items with
  | [] => rfl
  | first :: rest =>
    rw [List.cons_append, List.eraseDupsBy_cons, List.eraseDupsBy_cons, List.filter_append,
      List.any_cons]
    cases hfirst : repeats last first with
    | true => simp [hfirst]
    | false =>
      -- Nothing that `last` repeats is gone: it would repeat `first` as well.
      have hany : (rest.filter fun later => decide (repeats later first = false)).any
          (repeats last) = rest.any (repeats last) := by
        rw [List.any_filter]
        congr 1
        funext later
        cases hlast : repeats last later with
        | false => simp
        | true =>
          have hother : repeats later first = false := by
            rw [← Bool.not_eq_true]
            intro hlater
            rw [htrans last later first hlast hlater] at hfirst
            cases hfirst
          simp [hother]
      have hkept : [last].filter (fun later => decide (repeats later first = false)) = [last] := by
        simp [hfirst]
      rw [hkept, eraseDupsBy_concat htrans, hany, Bool.false_or, List.cons_append]
termination_by items.length
decreasing_by exact Nat.lt_succ_of_le (List.length_filter_le _ _)

end Lists

/-! ## The table -/

variable {α : Type} {items : List (String × α)}

/-- The two keys are the same but for their case. -/
def sameKey (later earlier : String × α) : Bool :=
  lower later.1 = lower earlier.1

/-- The table of the first value of each key. -/
def ofFirsts (items : List (String × α)) : KeyTable α :=
  ⟨(items.eraseDupsBy sameKey).map fun item => .ofKey item.1 item.2⟩

theorem entry?_ofFirsts (items : List (String × α)) (key : String) :
    entry? (ofFirsts items) key =
      (items.find? fun item => lower item.1 = lower key).map fun item => .ofKey item.1 item.2 := by
  have hsame : ∀ later earlier : String × α, sameKey later earlier →
      decide (lower later.1 = lower key) = decide (lower earlier.1 = lower key) := by
    intro later earlier h
    rw [of_decide_eq_true h]
  rw [ofFirsts, entry?, List.find?_map, ← find?_eraseDupsBy hsame]
  rfl

/-- The value of a key is that of the first item with this key. -/
theorem get?_ofFirsts (items : List (String × α)) (key : String) :
    (ofFirsts items).get? key = (items.find? fun item => lower item.1 = lower key).map (·.2) := by
  rw [get?, entry?_ofFirsts, Option.map_map]
  rfl

theorem contains_ofFirsts (items : List (String × α)) (key : String) :
    (ofFirsts items).contains key = items.any fun item => lower item.1 = lower key := by
  rw [contains, entry?_ofFirsts, Option.isSome_map, List.isSome_find?]

/-- One more item is put at the end, unless its key is there. -/
theorem ofFirsts_concat (items : List (String × α)) (key : String) (value : α) :
    ofFirsts (items ++ [(key, value)]) =
      if (ofFirsts items).contains key then ofFirsts items
      else (ofFirsts items).push key value := by
  have htrans : ∀ a b c : String × α, sameKey a b → sameKey b c → sameKey a c := by
    intro a b c hab hbc
    exact decide_eq_true ((of_decide_eq_true hab).trans (of_decide_eq_true hbc))
  have hany : items.any (sameKey (key, value)) =
      items.any fun item => lower item.1 = lower key := by
    congr 1
    funext item
    exact decide_eq_decide.2 eq_comm
  rw [contains_ofFirsts, ofFirsts, eraseDupsBy_concat htrans, hany]
  split
  · rw [List.append_nil]
    rfl
  · rw [List.map_append]
    rfl

theorem isDistinct_ofFirsts (items : List (String × α)) : (ofFirsts items).IsDistinct := by
  rw [IsDistinct, ofFirsts, List.map_map, List.Nodup, List.pairwise_map]
  refine (pairwise_eraseDupsBy items).imp ?_
  intro earlier later h heq
  exact of_decide_eq_false h heq.symm

theorem mem_of_mem_ofFirsts {entry : Entry α} (h : entry ∈ (ofFirsts items).entries) :
    (entry.key, entry.value) ∈ items := by
  obtain ⟨item, hitem, rfl⟩ := List.mem_map.1 h
  exact (eraseDupsBy_sublist items).subset hitem

theorem ofFirsts_entries_ne (h : items ≠ []) : (ofFirsts items).entries ≠ [] := by
  cases items with
  | nil => exact absurd rfl h
  | cons first rest =>
    rw [ofFirsts, List.eraseDupsBy_cons]
    exact List.cons_ne_nil _ _

end SqlResolution.KeyTable
