import SqlResolution.Proofs.Record.Grammar
import SqlResolution.Response

/-!
# Records leave their neighbours alone

Two texts with an end between them are read as one after the other, whatever the second
is, if the first is accepted. For then the items of the first are complete, and the empty
token behind them stands where a key could: it ends the record, so nothing of the first
text is left when the second begins. The instances follow, as each is made of its own
record.

It does matter that the first text is accepted. A key that still takes a value takes the
end for it.
-/

namespace SqlResolution

open SqlResolution.Text

namespace Record

theorem tokens_append_end (text later : String) :
    tokens (text ++ ";;" ++ later) = tokens text ++ "" :: tokens later := by
  have hlist : (text ++ ";;" ++ later).toList = text.toList ++ ';' :: ';' :: later.toList := by
    simp
  have hsplit : splitOn ';' (text.toList ++ ';' :: ';' :: later.toList) =
      splitOn ';' text.toList ++ [] :: splitOn ';' later.toList := by
    rw [splitOn_eq_listSplitOn, List.splitOn_append_cons_self, ← splitOn_eq_listSplitOn,
      ← splitOn_eq_listSplitOn, splitOn_cons_self]
  rw [tokens, hlist, hsplit, List.map_append, List.map_cons]
  rfl

theorem split_append_end {text : String} {records : List Record} (h : split text = .ok records)
    (later : String) :
    split (text ++ ";;" ++ later) = (split later).map (records ++ ·) := by
  obtain ⟨items, htext, rfl⟩ := exists_items_of_split h
  have htokens : tokens (text ++ ";;" ++ later) =
      itemTokens (items ++ [.stop]) ++ tokens later := by
    rw [tokens_append_end, htext, itemTokens_append, List.append_assoc]
    rfl
  rcases exists_items (tokens later) with ⟨more, hlater⟩ | ⟨more, key, rest, hlater, hkey, hfew⟩
  · rw [hlater, ← itemTokens_append, List.append_assoc] at htokens
    rw [split_of_items htokens, split_of_items hlater, List.singleton_append, ofItems_append_stop]
    rfl
  · rw [hlater, ← List.append_assoc, ← itemTokens_append] at htokens
    rw [split_of_dangling htokens hkey hfew, split_of_dangling hlater hkey hfew]
    rfl

/-- A key that still takes a value takes the end for it. -/
example : (split "tcp").toOption = none ∧
    (split ("tcp" ++ ";;" ++ "a;b")).toOption =
      some [⟨[.ofKey "tcp" [""], .ofKey "a" ["b"]]⟩] := by
  decide +kernel

end Record

namespace Instance

theorem ofRecords_append {source : String} {records : List Record} {notices : List Notice}
    {made : List Instance} (h : ofRecords source records = (notices, .ok made))
    (later : List Record) :
    ofRecords source (records ++ later) =
      (notices ++ (ofRecords source later).1, (ofRecords source later).2.map (made ++ ·)) := by
  induction records generalizing notices made with
  | nil =>
    cases h
    cases hlater : (ofRecords source later).2 <;> simp [Except.map, ← hlater]
  | cons record rest ih =>
    rw [ofRecords] at h
    rw [List.cons_append, ofRecords]
    cases hone : (ofRecord source record).2 with
    | error fault =>
      rw [← Prod.eta (ofRecord source record), hone] at h
      cases h
    | ok one =>
      rw [← Prod.eta (ofRecord source record), hone] at h ⊢
      dsimp only at h ⊢
      cases hrest : (ofRecords source rest).2 with
      | error fault =>
        rw [hrest] at h
        cases h
      | ok others =>
        rw [hrest] at h
        cases h
        rw [ih (Prod.ext rfl hrest)]
        cases (ofRecords source later).2 <;> simp [Except.map]

end Instance

namespace Response

variable {source text later : String} {made more : List Instance}

theorem readText_of_split {records : List Record} {notices : List Notice}
    (hsplit : Record.split text = .ok records)
    (hmade : Instance.ofRecords source records = (notices, .ok made)) :
    readText source text = (notices, .ok made) := by
  rw [readText, hsplit]
  dsimp only
  rw [hmade]
  rfl

/-- A text that says anything has records, and these say it. -/
theorem exists_records_of_readText (h : (readText source text).2 = .ok made) :
    ∃ records, Record.split text = .ok records ∧
      Instance.ofRecords source records = ((readText source text).1, .ok made) := by
  rw [readText] at h ⊢
  cases hsplit : Record.split text with
  | error fault =>
    rw [hsplit] at h
    cases h
  | ok records =>
    rw [hsplit] at h
    dsimp only at h ⊢
    refine ⟨records, rfl, Prod.ext rfl ?_⟩
    cases hmade : (Instance.ofRecords source records).2 with
    | error fault =>
      rw [hmade] at h
      cases h
    | ok instances =>
      rw [hmade] at h
      cases h
      rfl

theorem readText_append_end (htext : (readText source text).2 = .ok made)
    (hlater : (readText source later).2 = .ok more) :
    readText source (text ++ ";;" ++ later) =
      ((readText source text).1 ++ (readText source later).1, .ok (made ++ more)) := by
  obtain ⟨records, hrecords, hmade⟩ := exists_records_of_readText htext
  obtain ⟨others, hothers, hmore⟩ := exists_records_of_readText hlater
  have hsplit : Record.split (text ++ ";;" ++ later) = .ok (records ++ others) := by
    rw [Record.split_append_end hrecords, hothers]
    rfl
  refine readText_of_split hsplit ?_
  rw [Instance.ofRecords_append hmade, hmore]
  rfl

/-- Behind an accepted text and an end, a text is refused as it is alone, and otherwise its records
follow those of the first. Two texts that say what instances there are say it one after the other,
with the same notices. -/
theorem neighbours_isolated (text later : String) :
    (∀ records, Record.split text = .ok records →
      (∀ fault, Record.split (text ++ ";;" ++ later) = .error fault ↔
        Record.split later = .error fault) ∧
      (∀ others, Record.split later = .ok others →
        Record.split (text ++ ";;" ++ later) = .ok (records ++ others))) ∧
    ∀ source made more, (readText source text).2 = .ok made → (readText source later).2 = .ok more →
      readText source (text ++ ";;" ++ later) =
        ((readText source text).1 ++ (readText source later).1, .ok (made ++ more)) := by
  refine ⟨?_, fun source made more htext hlater => readText_append_end htext hlater⟩
  intro records h
  have hsplit := Record.split_append_end h later
  constructor
  · intro fault
    rw [hsplit]
    cases Record.split later <;> simp [Except.map]
  · intro others hothers
    rw [hsplit, hothers]
    rfl

def crowdedText : String :=
  "tcp;1;;InstanceName;A;tcp;x;via;v;foo;1"

def bareInstance (name : String) : Instance where
  address := .v4 ⟨10, 0, 0, 1⟩
  serverName := ""
  name
  isClustered := false
  version := ""
  tcp := none
  pipe := none
  via := none
  rpc := none
  spx := none
  appleTalk := none
  vines := none

/-- A record without a name, ways that make no sense, an unknown key, and no end behind them; and
then a key without a value. -/
theorem neighbours_isolated_crowded :
    (readText "10.0.0.1" (crowdedText ++ ";;" ++ ";InstanceName;B;")).2 =
      .ok [bareInstance "A", bareInstance "B"] ∧
    Record.split (crowdedText ++ ";;" ++ ";tcp") = .error ⟨"tcp"⟩ := by
  have htext : (readText "10.0.0.1" crowdedText).2 = .ok [bareInstance "A"] :=
    eq_ok_of_toOption (by decide +kernel)
  have hlater : (readText "10.0.0.1" ";InstanceName;B;").2 = .ok [bareInstance "B"] :=
    eq_ok_of_toOption (by decide +kernel)
  obtain ⟨records, hrecords, -⟩ := exists_records_of_readText htext
  have hdangling : Record.split ";tcp" = .error ⟨"tcp"⟩ := by
    rfl
  constructor
  · rw [(neighbours_isolated crowdedText ";InstanceName;B;").2 _ _ _ htext hlater]
    rfl
  · exact (((neighbours_isolated crowdedText ";tcp").1 records hrecords).1 _).2 hdangling

end Response

end SqlResolution
