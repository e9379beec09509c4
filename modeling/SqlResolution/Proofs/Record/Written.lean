import SqlResolution.Proofs.Text.Split
import SqlResolution.Record

/-!
# Written records are split into the same records

A record can be written if its text says the same: it has a key, no key is empty or
occurs in two cases, every key has as many values as it takes, and no semicolon is
in any of them.

Writing puts a semicolon after every token, so the tokens of the text are those that
were written and an empty one behind the last semicolon. The splitter goes through
the fields of a record one after another; what it has gathered is the invariant of
that induction, and an empty value does not disturb it, because a value is passed
over with its key and never stands where a key could.
-/

namespace SqlResolution

open SqlResolution.Text

/-! ## Tables -/

namespace KeyTable

variable {α : Type}

/-- No key occurs twice, whatever its case. -/
def IsDistinct (table : KeyTable α) : Prop :=
  (table.entries.map (·.folded)).Nodup

theorem entry?_eq_none {table : KeyTable α} {key : String}
    (h : lower key ∉ table.entries.map (·.folded)) : table.entry? key = none := by
  refine List.find?_eq_none.2 fun entry hentry => ?_
  rw [decide_eq_true_eq]
  exact fun heq => h (List.mem_map.2 ⟨entry, hentry, heq⟩)

theorem contains_eq_false {table : KeyTable α} {key : String}
    (h : lower key ∉ table.entries.map (·.folded)) : table.contains key = false := by
  rw [contains, entry?_eq_none h]
  rfl

theorem get?_eq_none {table : KeyTable α} {key : String}
    (h : lower key ∉ table.entries.map (·.folded)) : table.get? key = none := by
  rw [get?, entry?_eq_none h]
  rfl

end KeyTable

namespace Record

/-- The record has a text that says the same. -/
structure IsWritable (record : Record) : Prop where
  entries_ne : record.entries ≠ []
  distinct : record.IsDistinct
  key_ne : ∀ entry ∈ record.entries, entry.key ≠ ""
  count : ∀ entry ∈ record.entries, entry.value.length = valueCount entry.key
  plain : ∀ entry ∈ record.entries, ∀ token ∈ entry.key :: entry.value, ';' ∉ token.toList

/-! ## Tokens -/

def fieldTokens (entries : List (KeyTable.Entry (List String))) : List String :=
  entries.flatMap fun entry => entry.key :: entry.value

/-- The tokens that a record is written as, the one that ends it included. -/
def writtenTokens (record : Record) : List String :=
  fieldTokens record.entries ++ [""]

theorem tokens_append {token : String} (h : ';' ∉ token.toList) (rest : String) :
    tokens (token ++ ";" ++ rest) = token :: tokens rest := by
  have hlist : (token ++ ";" ++ rest).toList = token.toList ++ ';' :: rest.toList := by
    simp
  rw [tokens, hlist, splitOn_append_cons h, List.map_cons, String.ofList_toList, tokens]

theorem tokens_join_append {written : List String} (h : ∀ token ∈ written, ';' ∉ token.toList)
    (rest : String) :
    tokens (String.join (written.map (· ++ ";")) ++ rest) = written ++ tokens rest := by
  induction written with
  | nil => rw [List.map_nil, String.join_nil, String.empty_append, List.nil_append]
  | cons token later ih =>
    rw [List.map_cons, String.join_cons, String.append_assoc,
      tokens_append (h token List.mem_cons_self),
      ih fun other hother => h other (List.mem_cons_of_mem _ hother), List.cons_append]

theorem tokens_join {written : List String} (h : ∀ token ∈ written, ';' ∉ token.toList) :
    tokens (String.join (written.map (· ++ ";"))) = written ++ [""] := by
  have hjoin := tokens_join_append h ""
  rw [String.append_empty] at hjoin
  exact hjoin

theorem write_eq_join (record : Record) :
    record.write = String.join (record.writtenTokens.map (· ++ ";")) := by
  rw [write, writtenTokens, fieldTokens, KeyTable.toList, List.map_map, List.map_append,
    String.join_append]
  congr 1
  induction record.entries with
  | nil => rfl
  | cons entry later ih =>
    rw [List.map_cons, String.join_cons, ih, List.flatMap_cons, List.map_append,
      String.join_append]
    rfl

theorem writeAll_eq_join (records : List Record) :
    writeAll records = String.join ((records.flatMap writtenTokens).map (· ++ ";")) := by
  induction records with
  | nil => rfl
  | cons record later ih =>
    rw [writeAll, List.map_cons, String.join_cons, List.flatMap_cons, List.map_append,
      String.join_append, ← ih, write_eq_join, writeAll]

theorem IsWritable.plain_of_mem_writtenTokens {record : Record} (h : record.IsWritable)
    {token : String} (htoken : token ∈ record.writtenTokens) : ';' ∉ token.toList := by
  rcases List.mem_append.1 htoken with hfield | hend
  · obtain ⟨entry, hentry, hmem⟩ := List.mem_flatMap.1 hfield
    exact h.plain entry hentry token hmem
  · rw [List.mem_singleton.1 hend]
    exact List.not_mem_nil

theorem tokens_writeAll {records : List Record} (h : ∀ record ∈ records, record.IsWritable) :
    tokens (writeAll records) = records.flatMap writtenTokens ++ [""] := by
  rw [writeAll_eq_join]
  refine tokens_join ?_
  intro token htoken
  obtain ⟨record, hrecord, hmem⟩ := List.mem_flatMap.1 htoken
  exact (h record hrecord).plain_of_mem_writtenTokens hmem

/-! ## Splitting -/

theorem splitTokens_end {current : Record} (h : current.entries ≠ []) (later : List String) :
    splitTokens current ("" :: later) = (splitTokens .empty later).map (current :: ·) := by
  have hempty : current.isEmpty = false := by
    rw [KeyTable.isEmpty, List.isEmpty_eq_false_iff]
    exact h
  rw [splitTokens.eq_def]
  dsimp only
  rw [if_pos rfl, hempty]
  rfl

theorem splitTokens_field {current : Record} {key : String} {values : List String}
    (hkey : key ≠ "") (hcount : values.length = valueCount key) (later : List String) :
    splitTokens current (key :: values ++ later) =
      splitTokens (current.offer key values) later := by
  rw [List.cons_append, splitTokens.eq_def]
  dsimp only
  rw [if_neg hkey]
  split
  next htriple =>
    rw [htriple] at hcount
    match values, hcount with
    | [first, second, third], _ => rfl
  next htriple =>
    have hone : valueCount key = 1 := by
      rw [valueCount] at htriple ⊢
      split
      next hlower => exact absurd (if_pos hlower) htriple
      next => rfl
    rw [hone] at hcount
    match values, hcount with
    | [value], _ => rfl

theorem offer_of_distinct {current : Record} {entry : KeyTable.Entry (List String)}
    (h : entry.folded ∉ current.entries.map (·.folded)) :
    current.offer entry.key entry.value = ⟨current.entries ++ [entry]⟩ := by
  rw [entry.folded_eq] at h
  rw [offer, KeyTable.contains_eq_false h, if_neg Bool.false_ne_true, KeyTable.push,
    ← KeyTable.Entry.eq_ofKey]

/-- Fields whose keys are new are gathered in their order. -/
theorem splitTokens_fields (current : Record) {entries : List (KeyTable.Entry (List String))}
    (hkey : ∀ entry ∈ entries, entry.key ≠ "")
    (hcount : ∀ entry ∈ entries, entry.value.length = valueCount entry.key)
    (hdistinct : KeyTable.IsDistinct ⟨current.entries ++ entries⟩)
    (later : List String) :
    splitTokens current (fieldTokens entries ++ later) =
      splitTokens ⟨current.entries ++ entries⟩ later := by
  induction entries generalizing current with
  | nil =>
    rw [List.append_nil]
    rfl
  | cons entry rest ih =>
    have hassoc : current.entries ++ entry :: rest = (current.entries ++ [entry]) ++ rest := by
      rw [List.append_assoc, List.singleton_append]
    have hnew : entry.folded ∉ current.entries.map (·.folded) := by
      intro hmem
      rw [KeyTable.IsDistinct, List.map_append, List.map_cons] at hdistinct
      exact (List.nodup_append.1 hdistinct).2.2 _ hmem _ List.mem_cons_self rfl
    rw [fieldTokens, List.flatMap_cons, List.append_assoc,
      splitTokens_field (hkey entry List.mem_cons_self) (hcount entry List.mem_cons_self),
      offer_of_distinct hnew, hassoc]
    rw [hassoc] at hdistinct
    exact ih _ (fun other hother => hkey other (List.mem_cons_of_mem _ hother))
      (fun other hother => hcount other (List.mem_cons_of_mem _ hother)) hdistinct

theorem splitTokens_writtenTokens {records : List Record}
    (h : ∀ record ∈ records, record.IsWritable) :
    splitTokens .empty (records.flatMap writtenTokens ++ [""]) = .ok records := by
  induction records with
  | nil => rfl
  | cons record later ih =>
    have hrecord := h record List.mem_cons_self
    rw [List.flatMap_cons, writtenTokens, List.append_assoc, List.append_assoc,
      splitTokens_fields .empty hrecord.key_ne hrecord.count hrecord.distinct,
      List.singleton_append]
    show splitTokens record _ = _
    rw [splitTokens_end hrecord.entries_ne,
      ih fun other hother => h other (List.mem_cons_of_mem _ hother)]
    rfl

theorem split_writeAll {records : List Record} (h : ∀ record ∈ records, record.IsWritable) :
    split (writeAll records) = .ok records := by
  rw [split, tokens_writeAll h, splitTokens_writtenTokens h]

end Record

end SqlResolution
