import SqlResolution.Failure
import SqlResolution.Proofs.KeyTable

/-!
# The grammar of records

The tokens of a text are a sequence of items. An item is either an empty token, which
ends a record, or a field: a key that is not empty and as many values as it takes. What
a value looks like does not matter, it may be empty or equal to a key; so no token says
by itself what it is, and only the place decides.

That is enough for the items to be unique, because the first token of an item tells how
many belong to it. It also leaves just one way in which tokens are no sequence of items:
behind some items stands a key with fewer tokens left than it takes.

The splitter goes through the items one after another. What it has gathered is at any
time the record of the fields since the last end, which is the invariant that carries
the induction.
-/

namespace SqlResolution

open SqlResolution.Text

/-- Results can be compared as options, which are decidable where failures need not be. -/
theorem eq_ok_of_toOption {ε α : Type} {result : Except ε α} {value : α}
    (h : result.toOption = some value) : result = .ok value := by
  cases result with
  | error fault => cases h
  | ok found => exact congrArg Except.ok (Option.some.inj h)

namespace Record

/-! ## Items -/

/-- A key and as many values as it takes. -/
structure Field where
  key : String
  values : List String
  key_ne : key ≠ ""
  count : values.length = valueCount key

inductive Item where
  | stop
  | field (field : Field)

def Item.tokens : Item → List String
  | .stop => [""]
  | .field f => f.key :: f.values

def itemTokens (items : List Item) : List String :=
  items.flatMap Item.tokens

@[simp] theorem itemTokens_nil : itemTokens [] = [] := rfl

@[simp] theorem itemTokens_stop (later : List Item) :
    itemTokens (.stop :: later) = "" :: itemTokens later := rfl

@[simp] theorem itemTokens_field (f : Field) (later : List Item) :
    itemTokens (.field f :: later) = f.key :: f.values ++ itemTokens later := rfl

@[simp] theorem itemTokens_append (items later : List Item) :
    itemTokens (items ++ later) = itemTokens items ++ itemTokens later :=
  List.flatMap_append

/-- The first token of an item tells where the item ends. -/
theorem itemTokens_inj {items others : List Item} (h : itemTokens items = itemTokens others) :
    items = others := by
  induction items generalizing others with
  | nil =>
    match others with
    | [] => rfl
    | .stop :: _ => cases h
    | .field _ :: _ => cases h
  | cons item later ih =>
    match item, others with
    | .stop, [] => cases h
    | .field _, [] => cases h
    | .stop, .stop :: _ => rw [ih (List.cons.inj h).2]
    | .stop, .field f :: _ => exact absurd (List.cons.inj h).1.symm f.key_ne
    | .field f, .stop :: _ => exact absurd (List.cons.inj h).1 f.key_ne
    | .field ⟨key, values, _, count⟩, .field ⟨other, others, _, otherCount⟩ :: _ =>
      obtain ⟨hkey, hrest⟩ := List.cons.inj h
      obtain rfl : key = other := hkey
      obtain ⟨rfl, hlater⟩ := List.append_inj hrest (count.trans otherCount.symm)
      rw [ih hlater]

/-- Behind some items there is nothing more, or a key with too few tokens left. -/
theorem exists_items (tokens : List String) :
    (∃ items, tokens = itemTokens items) ∨
      ∃ items key rest, tokens = itemTokens items ++ key :: rest ∧ key ≠ "" ∧
        rest.length < valueCount key := by
  match tokens with
  | [] => exact .inl ⟨[], rfl⟩
  | key :: rest =>
    by_cases hkey : key = ""
    · subst hkey
      rcases exists_items rest with ⟨items, rfl⟩ | ⟨items, last, few, rfl, hlast⟩
      · exact .inl ⟨.stop :: items, rfl⟩
      · exact .inr ⟨.stop :: items, last, few, rfl, hlast⟩
    · by_cases hcount : rest.length < valueCount key
      · exact .inr ⟨[], key, rest, rfl, hkey, hcount⟩
      · let f : Field := ⟨key, rest.take (valueCount key), hkey, by
          rw [List.length_take, Nat.min_eq_left (Nat.not_lt.1 hcount)]⟩
        have hrest : rest = f.values ++ rest.drop (valueCount key) :=
          (List.take_append_drop _ _).symm
        rcases exists_items (rest.drop (valueCount key)) with
          ⟨items, hitems⟩ | ⟨items, last, few, hitems, hlast⟩
        · refine .inl ⟨.field f :: items, ?_⟩
          rw [itemTokens_field, ← hitems, List.cons_append, ← hrest]
        · refine .inr ⟨.field f :: items, last, few, ?_, hlast⟩
          rw [itemTokens_field, List.append_assoc, ← hitems, List.cons_append, ← hrest]
termination_by tokens.length
decreasing_by
  all_goals simp only [List.length_cons, List.length_drop]
  all_goals omega

/-! ## Records of items -/

def Item.isStop : Item → Bool
  | .stop => true
  | .field _ => false

def Item.field? : Item → Option Field
  | .stop => none
  | .field f => some f

/-- The fields between one end and the next, where there are any. -/
def runs (items : List Item) : List (List Field) :=
  ((items.splitOnP Item.isStop).map (·.filterMap Item.field?)).filter (!·.isEmpty)

/-- The record of the fields between two ends, in which the first field of each key counts. -/
def ofRun (run : List Field) : Record :=
  KeyTable.ofFirsts (run.map fun f => (f.key, f.values))

def ofItems (items : List Item) : List Record :=
  (runs items).map ofRun

theorem runs_append_stop (items later : List Item) :
    runs (items ++ .stop :: later) = runs items ++ runs later := by
  rw [runs, List.splitOnP_append_cons items later rfl, List.map_append, List.filter_append]
  rfl

theorem runs_fields (run : List Field) :
    runs (run.map .field) = if run.isEmpty then [] else [run] := by
  have hnone : ∀ item ∈ run.map Item.field, item.isStop = false := by
    intro item hitem
    obtain ⟨f, -, rfl⟩ := List.mem_map.1 hitem
    rfl
  have hfields : (run.map Item.field).filterMap Item.field? = run := by
    rw [List.filterMap_map]
    exact List.filterMap_some
  rw [runs, List.splitOnP_eq_singleton hnone, List.map_singleton, hfields]
  cases run <;> rfl

theorem ofItems_append_stop (items later : List Item) :
    ofItems (items ++ .stop :: later) = ofItems items ++ ofItems later := by
  rw [ofItems, runs_append_stop, List.map_append]
  rfl

/-- The fields of a run are among the items, and there is at least one. -/
theorem mem_runs {items : List Item} {run : List Field} (h : run ∈ runs items) :
    run ≠ [] ∧ ∀ f ∈ run, .field f ∈ items := by
  obtain ⟨hrun, hne⟩ := List.mem_filter.1 h
  obtain ⟨piece, hpiece, rfl⟩ := List.mem_map.1 hrun
  refine ⟨by simpa using hne, fun f hf => ?_⟩
  obtain ⟨item, hitem, hfield⟩ := List.mem_filterMap.1 hf
  have hmem := (of_mem_splitOnP hpiece hitem).1
  cases item with
  | stop => cases hfield
  | field g =>
    cases hfield
    exact hmem

/-! ## Splitting -/

theorem offer_ofRun (run : List Field) (f : Field) :
    (ofRun run).offer f.key f.values = ofRun (run ++ [f]) := by
  rw [ofRun, ofRun, List.map_append, List.map_singleton, KeyTable.ofFirsts_concat, offer]

theorem isEmpty_ofRun (run : List Field) : (ofRun run).isEmpty = run.isEmpty := by
  cases run with
  | nil => rfl
  | cons f rest =>
    rw [KeyTable.isEmpty, List.isEmpty_cons, List.isEmpty_eq_false_iff]
    exact KeyTable.ofFirsts_entries_ne (List.cons_ne_nil _ _)

/-- An end finishes the record, if there is one. -/
theorem splitTokens_ofRun_stop (run : List Field) (later : List String) :
    splitTokens (ofRun run) ("" :: later) =
      (splitTokens .empty later).map (ofItems (run.map .field) ++ ·) := by
  rw [ofItems, runs_fields]
  cases run with
  | nil =>
    rw [splitTokens.eq_def]
    dsimp only
    rw [if_pos rfl, isEmpty_ofRun]
    cases splitTokens .empty later <;> rfl
  | cons f rest =>
    exact splitTokens_end (KeyTable.ofFirsts_entries_ne (List.cons_ne_nil _ _)) later

/-- A sequence of items is accepted, and its records are those of its runs. -/
theorem splitTokens_itemTokens (run : List Field) (items : List Item) :
    splitTokens (ofRun run) (itemTokens items) = .ok (ofItems (run.map .field ++ items)) := by
  induction items generalizing run with
  | nil =>
    rw [List.append_nil, ofItems, runs_fields, itemTokens_nil, splitTokens, isEmpty_ofRun]
    cases run <;> rfl
  | cons item later ih =>
    cases item with
    | stop =>
      rw [itemTokens_stop, splitTokens_ofRun_stop, ofItems_append_stop]
      have hlater : splitTokens .empty (itemTokens later) = .ok (ofItems later) := ih []
      rw [hlater]
      rfl
    | field f =>
      rw [itemTokens_field, splitTokens_field f.key_ne f.count, offer_ofRun, ih, List.map_append,
        List.map_singleton, List.append_assoc, List.singleton_append]

theorem valueCount_eq (key : String) : valueCount key = 3 ∨ valueCount key = 1 := by
  rw [valueCount]
  split
  · exact .inl rfl
  · exact .inr rfl

theorem splitTokens_of_few {current : Record} {key : String} {rest : List String} (hkey : key ≠ "")
    (hfew : rest.length < valueCount key) : splitTokens current (key :: rest) = .error ⟨key⟩ := by
  rw [splitTokens.eq_def]
  dsimp only
  rw [if_neg hkey]
  rcases valueCount_eq key with hcount | hcount
  · rw [if_pos hcount]
    rw [hcount] at hfew
    rcases rest with _ | ⟨_, _ | ⟨_, _ | ⟨_, later⟩⟩⟩
    · rfl
    · rfl
    · rfl
    · simp only [List.length_cons] at hfew
      omega
  · rw [if_neg (by omega)]
    rw [hcount] at hfew
    cases rest with
    | nil => rfl
    | cons _ later =>
      simp only [List.length_cons] at hfew
      omega

/-- A key with too few tokens left is found behind any items. -/
theorem splitTokens_dangling (current : Record) (items : List Item) {key : String}
    {rest : List String} (hkey : key ≠ "") (hfew : rest.length < valueCount key) :
    splitTokens current (itemTokens items ++ key :: rest) = .error ⟨key⟩ := by
  induction items generalizing current with
  | nil => exact splitTokens_of_few hkey hfew
  | cons item later ih =>
    cases item with
    | stop =>
      rw [itemTokens_stop, List.cons_append, splitTokens.eq_def]
      dsimp only
      rw [if_pos rfl, ih]
      split <;> rfl
    | field f =>
      rw [itemTokens_field, List.append_assoc, splitTokens_field f.key_ne f.count, ih]

theorem split_of_items {text : String} {items : List Item} (h : tokens text = itemTokens items) :
    split text = .ok (ofItems items) := by
  rw [split, h]
  exact splitTokens_itemTokens [] items

theorem split_of_dangling {text key : String} {items : List Item} {rest : List String}
    (h : tokens text = itemTokens items ++ key :: rest) (hkey : key ≠ "")
    (hfew : rest.length < valueCount key) : split text = .error ⟨key⟩ := by
  rw [split, h, splitTokens_dangling .empty items hkey hfew]

/-- Whatever is accepted is a sequence of items. -/
theorem exists_items_of_split {text : String} {records : List Record}
    (h : split text = .ok records) :
    ∃ items, tokens text = itemTokens items ∧ records = ofItems items := by
  rcases exists_items (tokens text) with ⟨items, htokens⟩ | ⟨items, key, rest, htokens, hkey, hfew⟩
  · rw [split_of_items htokens] at h
    exact ⟨items, htokens, (Except.ok.inj h).symm⟩
  · rw [split_of_dangling htokens hkey hfew] at h
    cases h

/-- Tokens are not both: items to their end, and items with a key behind them that lacks values. -/
theorem dangling_ne_itemTokens {items others : List Item} {key : String} {rest : List String}
    (hkey : key ≠ "") (hfew : rest.length < valueCount key) :
    itemTokens items ++ key :: rest ≠ itemTokens others := by
  intro h
  have hrefused := splitTokens_dangling (ofRun []) items hkey hfew
  rw [h, splitTokens_itemTokens] at hrefused
  cases hrefused

/-- A text whose tokens are items is accepted, its items are unique, and there is a record for each
run of fields between two ends, with the values of the first field of each key. Any other text is
refused for a key behind some items that has too few tokens left, and the message names it. -/
theorem split_eq_ofItems_or_error (text : String) :
    (∀ items, tokens text = itemTokens items →
      (∀ others, tokens text = itemTokens others → others = items) ∧
      split text = .ok (ofItems items) ∧
      ∀ run ∈ runs items, ∀ key,
        (ofRun run).get? key = (run.find? fun f => lower f.key = lower key).map (·.values)) ∧
    ((¬ ∃ items, tokens text = itemTokens items) →
      ∃ items key rest, tokens text = itemTokens items ++ key :: rest ∧ key ≠ "" ∧
        rest.length < valueCount key ∧ split text = .error ⟨key⟩ ∧
        (MalformedResponse.truncated ⟨key⟩).message =
          "Truncated record: key " ++ quoted key ++ " is missing its value") := by
  constructor
  · intro items hitems
    refine ⟨?_, ?_, ?_⟩
    · intro others hothers
      exact itemTokens_inj (hothers.symm.trans hitems)
    · exact split_of_items hitems
    · intro run _ key
      rw [ofRun, KeyTable.get?_ofFirsts, List.find?_map, Option.map_map]
      rfl
  · intro hnone
    rcases exists_items (tokens text) with hitems | ⟨items, key, rest, htokens, hkey, hfew⟩
    · exact absurd hitems hnone
    · exact ⟨items, key, rest, htokens, hkey, hfew, split_of_dangling htokens hkey hfew, rfl⟩

/-- Three empty values and not the end of a record, the same key in another case, two ends. -/
def swallowingItems : List Item := [
  .field ⟨"Bv", ["", "", ""], by decide, by decide +kernel⟩,
  .field ⟨"bV", ["tcp", "y", "z"], by decide, by decide +kernel⟩,
  .stop,
  .stop,
  .field ⟨"tcp", [""], by decide, by decide +kernel⟩]

/-- Both ways to end are taken: the second text goes on with a key that takes three values. -/
theorem split_eq_ofItems_or_error_swallowing :
    split "Bv;;;;bV;tcp;y;z;;;tcp;" =
      .ok [⟨[.ofKey "Bv" ["", "", ""]]⟩, ⟨[.ofKey "tcp" [""]]⟩] ∧
    ∃ items key rest, tokens "Bv;;;;bV;tcp;y;z;;;tcp;;BV;;" = itemTokens items ++ key :: rest ∧
      split "Bv;;;;bV;tcp;y;z;;;tcp;;BV;;" = .error ⟨key⟩ := by
  have haccepted : tokens "Bv;;;;bV;tcp;y;z;;;tcp;" = itemTokens swallowingItems := by
    decide +kernel
  have hdangling : tokens "Bv;;;;bV;tcp;y;z;;;tcp;;BV;;" =
      itemTokens swallowingItems ++ "BV" :: ["", ""] := by
    decide +kernel
  have hrecords : ofItems swallowingItems =
      [⟨[.ofKey "Bv" ["", "", ""]]⟩, ⟨[.ofKey "tcp" [""]]⟩] := by
    decide +kernel
  refine ⟨hrecords ▸ ((split_eq_ofItems_or_error _).1 swallowingItems haccepted).2.1, ?_⟩
  have hnone : ¬ ∃ items, tokens "Bv;;;;bV;tcp;y;z;;;tcp;;BV;;" = itemTokens items := by
    rintro ⟨others, hothers⟩
    rw [hdangling] at hothers
    exact dangling_ne_itemTokens (by decide) (by decide +kernel) hothers
  obtain ⟨items, key, rest, htokens, -, -, hrefused, -⟩ := (split_eq_ofItems_or_error _).2 hnone
  exact ⟨items, key, rest, htokens, hrefused⟩

end Record

end SqlResolution
