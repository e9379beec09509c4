import SqlResolution.Proofs.Record.Accepted
import SqlResolution.Proofs.Record.Firsts

/-!
# The place of a value

The value that counts for a key stands somewhere in the text: behind the first key of the record
that is this one in any case. Everything in front of it and everything behind it can be kept while
another value is put there. If no semicolon is in the other value either, the tokens stay the same
but for this one, and so do the items, since the key alone says how many tokens belong to an item.
Hence the records stay the same, except that one of them has the other value under this key.

A place is what stands around such a value. Every value that a record of an accepted text has under
a key stands at one.
-/

namespace SqlResolution.Record

open SqlResolution.Text

/-! ## Texts and tokens -/

/-- A text is its tokens with semicolons between them. -/
theorem tokens_inj {text other : String} (h : tokens text = tokens other) : text = other := by
  have hlists : ∀ whole, (tokens whole).map String.toList = splitOn ';' whole.toList := by
    intro whole
    rw [tokens, List.map_map]
    exact (List.map_congr_left fun cs _ => String.toList_ofList).trans (List.map_id _)
  rw [← String.toList_inj, ← intercalate_splitOn ';' text.toList, ← hlists, h, hlists,
    intercalate_splitOn]

theorem tokens_append_join {value : String} (hvalue : ';' ∉ value.toList) {written : List String}
    (h : ∀ token ∈ written, ';' ∉ token.toList) :
    tokens (value ++ String.join (written.map (";" ++ ·))) = value :: written := by
  induction written generalizing value with
  | nil =>
    have hcut := splitOn_intercalate (List.cons_ne_nil _ []) (List.forall_mem_singleton.2 hvalue)
    rw [List.intercalate_singleton] at hcut
    rw [List.map_nil, String.join_nil, String.append_empty, tokens, hcut, List.map_singleton,
      String.ofList_toList]
  | cons token later ih =>
    rw [List.map_cons, String.join_cons, String.append_assoc, ← String.append_assoc,
      tokens_append hvalue, ih (h token List.mem_cons_self)
        fun other hother => h other (List.mem_cons_of_mem _ hother)]

/-! ## Around a run -/

/-- No record goes on behind these items. -/
def Ended (items : List Item) : Prop :=
  items = [] ∨ ∃ others, items = others ++ [.stop]

/-- No record goes on in these items. -/
def Ending (items : List Item) : Prop :=
  items = [] ∨ ∃ others, items = .stop :: others

theorem runs_append_of_ending (run : List Field) {later : List Item} (h : Ending later) :
    runs (run.map .field ++ later) = runs (run.map .field) ++ runs later := by
  rcases h with rfl | ⟨others, rfl⟩
  · rw [List.append_nil]
    exact (List.append_nil _).symm
  · rw [runs_append_stop]
    rfl

theorem runs_append_of_ended {earlier : List Item} (h : Ended earlier) (later : List Item) :
    runs (earlier ++ later) = runs earlier ++ runs later := by
  rcases h with rfl | ⟨others, rfl⟩
  · rfl
  · have hothers : runs (others ++ [.stop]) = runs others := by
      rw [runs_append_stop]
      exact List.append_nil _
    rw [List.append_assoc, List.singleton_append, runs_append_stop, hothers]

theorem runs_around {earlier later : List Item} (hearlier : Ended earlier) (hlater : Ending later)
    {run : List Field} (hne : run ≠ []) :
    runs (earlier ++ run.map .field ++ later) = runs earlier ++ run :: runs later := by
  have hrun : runs (run.map .field) = [run] := by
    rw [runs_fields, if_neg (by simpa using hne)]
  rw [List.append_assoc, runs_append_of_ended hearlier, runs_append_of_ending run hlater, hrun,
    List.singleton_append]

theorem Ended.append_stop {items : List Item} (h : Ended items) (earlier : List Item) :
    Ended (earlier ++ .stop :: items) := by
  rcases h with rfl | ⟨others, rfl⟩
  · exact .inr ⟨earlier, rfl⟩
  · exact .inr ⟨earlier ++ .stop :: others, by rw [List.append_assoc, List.cons_append]⟩

/-- Items begin with a run of fields, which may be empty and goes up to an end or to their own. -/
theorem exists_leading_run (items : List Item) :
    ∃ (run : List Field) (later : List Item), items = run.map .field ++ later ∧ Ending later := by
  induction items with
  | nil => exact ⟨[], [], rfl, .inl rfl⟩
  | cons item rest ih =>
    cases item with
    | stop => exact ⟨[], .stop :: rest, rfl, .inr ⟨rest, rfl⟩⟩
    | field f =>
      obtain ⟨run, later, rfl, hlater⟩ := ih
      exact ⟨f :: run, later, rfl, hlater⟩

theorem exists_around {items : List Item} {i : Nat} {run : List Field}
    (h : (runs items)[i]? = some run) :
    ∃ earlier later, items = earlier ++ run.map .field ++ later ∧ Ended earlier ∧ Ending later ∧
      (runs earlier).length = i := by
  obtain ⟨leading, later, hitems, hlater⟩ := exists_leading_run items
  rw [hitems, runs_append_of_ending leading hlater] at h
  by_cases hi : i < (runs (leading.map .field)).length
  · -- The run is the first one.
    rw [List.getElem?_append_left hi] at h
    rw [runs_fields] at h hi
    split at h
    next => cases h
    next hne =>
      rw [if_neg hne, List.length_singleton, Nat.lt_one_iff] at hi
      subst hi
      cases h
      exact ⟨[], later, hitems, .inl rfl, hlater, rfl⟩
  · rw [List.getElem?_append_right (Nat.not_lt.1 hi)] at h
    rcases hlater with rfl | ⟨others, rfl⟩
    · cases h
    · have hrun : (runs others)[i - (runs (leading.map .field)).length]? = some run := h
      -- What is in front of it behind the first end, with the first run in front of that.
      obtain ⟨earlier, behind, hothers, hearlier, hbehind, hindex⟩ := exists_around hrun
      refine ⟨leading.map .field ++ .stop :: earlier, behind, ?_, hearlier.append_stop _, hbehind,
        ?_⟩
      · rw [hitems, hothers]
        simp
      · rw [runs_append_stop, List.length_append, hindex]
        omega
termination_by items.length
decreasing_by
  subst hitems
  simp
  omega

/-! ## The place -/

/-- What stands around the value of a key: the items up to its record, the fields of its record
in front of it, the key, the other fields, and the items from the end of its record on. -/
structure Place where
  earlier : List Item
  start : List Field
  key : String
  rest : List Field
  later : List Item
  ended : Ended earlier
  ending : Ending later
  key_ne : key ≠ ""
  count : valueCount key = 1
  first : ∀ f ∈ start, lower f.key ≠ lower key
  ahead_plain : ∀ token ∈ itemTokens (earlier ++ start.map .field) ++ [key], ';' ∉ token.toList
  behind_plain : ∀ token ∈ itemTokens (rest.map .field ++ later), ';' ∉ token.toList

namespace Place

variable (place : Place)

def field (value : String) : Field :=
  ⟨place.key, [value], place.key_ne, place.count.symm⟩

/-- The fields of the record with a value at the place. -/
def run (value : String) : List Field :=
  place.start ++ place.field value :: place.rest

def items (value : String) : List Item :=
  place.earlier ++ (place.run value).map .field ++ place.later

def record (value : String) : Record :=
  ofRun (place.run value)

/-- How many records come before that of the place. -/
def index : Nat :=
  (runs place.earlier).length

/-- The tokens in front of the value, the last of which is its key. -/
def ahead : List String :=
  itemTokens (place.earlier ++ place.start.map .field) ++ [place.key]

/-- The tokens behind the value. -/
def behind : List String :=
  itemTokens (place.rest.map .field ++ place.later)

/-- The text with a value at the place. -/
def text (value : String) : String :=
  String.join (place.ahead.map (· ++ ";")) ++ value ++ String.join (place.behind.map (";" ++ ·))

variable {place} {value key : String}

theorem itemTokens_items (value : String) :
    itemTokens (place.items value) = place.ahead ++ value :: place.behind := by
  simp [items, run, ahead, behind, field]

/-! ## The text -/

theorem tokens_text (hvalue : ';' ∉ value.toList) :
    tokens (place.text value) = itemTokens (place.items value) := by
  have hahead : ∀ token ∈ place.ahead, ';' ∉ token.toList := place.ahead_plain
  have hbehind : ∀ token ∈ place.behind, ';' ∉ token.toList := place.behind_plain
  rw [text, String.append_assoc, tokens_join_append hahead, tokens_append_join hvalue hbehind,
    itemTokens_items]

theorem ofItems_items (value : String) :
    ofItems (place.items value) =
      ofItems place.earlier ++ place.record value :: ofItems place.later := by
  have hne : place.run value ≠ [] := by
    rw [run]
    exact List.append_ne_nil_of_right_ne_nil _ (List.cons_ne_nil _ _)
  rw [ofItems, items, runs_around place.ended place.ending hne, List.map_append]
  rfl

theorem split_text (hvalue : ';' ∉ value.toList) :
    split (place.text value) =
      .ok (ofItems place.earlier ++ place.record value :: ofItems place.later) := by
  rw [split_of_items (tokens_text hvalue), ofItems_items]

/-! ## The record -/

theorem firstValues_run (value key : String) :
    firstValues (place.run value) key =
      if lower place.key = lower key then some [value]
      else (firstValues place.start key).or (firstValues place.rest key) := by
  have hfield : firstValues (place.field value :: place.rest) key =
      if lower place.key = lower key then some [value] else firstValues place.rest key :=
    firstValues_cons _ _ _
  rw [run, firstValues_append, hfield]
  split
  next hkey =>
    have hstart : firstValues place.start key = none := by
      rw [firstValues, Option.map_eq_none_iff, List.find?_eq_none]
      intro f hf
      rw [decide_eq_true_eq, ← hkey]
      exact place.first f hf
    rw [hstart, Option.none_or]
  next => rfl

theorem first?_record (hkey : lower place.key = lower key) (value : String) :
    (place.record value).first? key = some value := by
  rw [first?, record, get?_ofRun, firstValues_run, if_pos hkey]
  rfl

/-- Another value changes nothing under other keys. -/
theorem get?_record_other (hkey : lower place.key ≠ lower key) (value other : String) :
    (place.record value).get? key = (place.record other).get? key := by
  rw [record, record, get?_ofRun, get?_ofRun, firstValues_run, firstValues_run, if_neg hkey,
    if_neg hkey]

end Place

/-! ## Every value has a place -/

theorem valueCount_congr {key other : String} (h : lower key = lower other) :
    valueCount key = valueCount other := by
  rw [valueCount, valueCount, h]

/-- The value that counts is that of a field with no such key in front of it. -/
theorem exists_first_field {run : List Field} {key old : String} (hcount : valueCount key = 1)
    (h : (ofRun run).first? key = some old) :
    ∃ start f rest, run = start ++ f :: rest ∧ lower f.key = lower key ∧ f.values = [old] ∧
      ∀ g ∈ start, lower g.key ≠ lower key := by
  rw [first?, get?_ofRun, firstValues] at h
  obtain ⟨values, hvalues, hhead⟩ := Option.bind_eq_some_iff.1 h
  obtain ⟨f, hfind, rfl⟩ := Option.map_eq_some_iff.1 hvalues
  obtain ⟨hkey, start, rest, hrun, hfirst⟩ := List.find?_eq_some_iff_append.1 hfind
  rw [decide_eq_true_eq] at hkey
  refine ⟨start, f, rest, hrun, hkey, ?_, ?_⟩
  · obtain ⟨value, hvalue⟩ := List.length_eq_one_iff.1
      (f.count.trans ((valueCount_congr hkey).trans hcount))
    rw [hvalue, List.head?_cons] at hhead
    rw [hvalue, Option.some.inj hhead]
  · intro g hg
    simpa using hfirst g hg

theorem exists_place {text key old : String} {records : List Record} {i : Nat} {record : Record}
    (hsplit : split text = .ok records) (hrecord : records[i]? = some record)
    (hcount : valueCount key = 1) (hold : record.first? key = some old) :
    ∃ place : Place, place.text old = text ∧ lower place.key = lower key ∧ place.index = i ∧
      place.record old = record := by
  obtain ⟨items, htokens, rfl⟩ := exists_items_of_split hsplit
  rw [ofItems, List.getElem?_map, Option.map_eq_some_iff] at hrecord
  obtain ⟨run, hrun, rfl⟩ := hrecord
  obtain ⟨earlier, later, rfl, hearlier, hlater, hindex⟩ := exists_around hrun
  obtain ⟨start, ⟨written, values, key_ne, count⟩, rest, rfl, hkey, hvalues, hfirst⟩ :=
    exists_first_field hcount hold
  dsimp only at hkey hvalues
  subst hvalues
  rw [← hkey] at hfirst
  have hplain : ∀ token ∈ (itemTokens (earlier ++ start.map .field) ++ [written]) ++
      old :: itemTokens (rest.map .field ++ later), ';' ∉ token.toList := by
    intro token htoken
    refine not_mem_of_mem_tokens (?_ : token ∈ tokens text)
    rw [htokens]
    simpa using htoken
  rw [List.forall_mem_append, List.forall_mem_cons] at hplain
  obtain ⟨hahead, hplainOld, hbehind⟩ := hplain
  let place : Place := {
    earlier
    start
    key := written
    rest
    later
    ended := hearlier
    ending := hlater
    key_ne
    count := count.symm
    first := hfirst
    ahead_plain := hahead
    behind_plain := hbehind }
  refine ⟨place, tokens_inj ?_, hkey, hindex, rfl⟩
  rw [Place.tokens_text hplainOld, htokens]
  rfl

end SqlResolution.Record
