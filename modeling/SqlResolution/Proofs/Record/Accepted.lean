import SqlResolution.Proofs.Record.Grammar

/-!
# What is accepted can be written

The records of an accepted text can be written. A record is made of a run of fields, which is not
empty; every field has its key and all values; of each key one field is kept; and no token holds
the character at which the text was cut.

So writing and splitting are inverse to each other on the records that some text has: what is
written is split into itself, and whatever was split could have been written. The text itself does
not come back, for later values of a key, ends without a record and a missing last end leave no
trace in the records.
-/

namespace SqlResolution.Record

open SqlResolution.Text

theorem not_mem_of_mem_tokens {text token : String} (h : token ∈ tokens text) :
    ';' ∉ token.toList := by
  obtain ⟨cs, hcs, rfl⟩ := List.mem_map.1 h
  rw [String.toList_ofList]
  exact fun hmem => (of_mem_splitOn hcs hmem).2 rfl

theorem isWritable_ofRun {run : List Field} (hne : run ≠ [])
    (hplain : ∀ f ∈ run, ∀ token ∈ f.key :: f.values, ';' ∉ token.toList) :
    (ofRun run).IsWritable := by
  have hfield : ∀ entry ∈ (ofRun run).entries,
      ∃ f ∈ run, f.key = entry.key ∧ f.values = entry.value := by
    intro entry hentry
    obtain ⟨f, hf, heq⟩ := List.mem_map.1 (KeyTable.mem_of_mem_ofFirsts hentry)
    exact ⟨f, hf, Prod.mk.inj heq⟩
  constructor
  case entries_ne => exact KeyTable.ofFirsts_entries_ne (by simpa using hne)
  case distinct => exact KeyTable.isDistinct_ofFirsts _
  case key_ne =>
    intro entry hentry
    obtain ⟨f, -, hkey, -⟩ := hfield entry hentry
    exact hkey ▸ f.key_ne
  case count =>
    intro entry hentry
    obtain ⟨f, -, hkey, hvalues⟩ := hfield entry hentry
    rw [← hkey, ← hvalues]
    exact f.count
  case plain =>
    intro entry hentry
    obtain ⟨f, hf, hkey, hvalues⟩ := hfield entry hentry
    rw [← hkey, ← hvalues]
    exact hplain f hf

theorem isWritable_of_split {text : String} {records : List Record}
    (h : split text = .ok records) : ∀ record ∈ records, record.IsWritable := by
  obtain ⟨items, htokens, rfl⟩ := exists_items_of_split h
  intro record hrecord
  obtain ⟨run, hrun, rfl⟩ := List.mem_map.1 hrecord
  obtain ⟨hne, hmem⟩ := mem_runs hrun
  refine isWritable_ofRun hne ?_
  intro f hf token htoken
  have hmem : token ∈ tokens text := by
    rw [htokens]
    exact List.mem_flatMap.2 ⟨.field f, hmem f hf, htoken⟩
  exact not_mem_of_mem_tokens hmem

/-- Records that can be written are split from their text as they are, with their keys as written
and in their order; the records of any accepted text can be written; and so an accepted text and
what is written of its records have the same records. -/
theorem writeAll_inverts_split (records : List Record) (text : String) :
    ((∀ record ∈ records, record.IsWritable) → split (writeAll records) = .ok records) ∧
    (split text = .ok records →
      (∀ record ∈ records, record.IsWritable) ∧ split (writeAll records) = .ok records) := by
  refine ⟨split_writeAll, ?_⟩
  intro h
  have hwritable := isWritable_of_split h
  exact ⟨hwritable, split_writeAll hwritable⟩

/-- Empty values before an end, a value that equals a key, and a text with more in it than its
records. -/
theorem writeAll_inverts_split_emptied :
    split ";;a;;BV;;;;;;X;bv;x;c" =
      .ok [⟨[.ofKey "a" [""], .ofKey "BV" ["", "", ""]]⟩, ⟨[.ofKey "X" ["bv"]]⟩] ∧
    split "a;;BV;;;;;X;bv;;" =
      .ok [⟨[.ofKey "a" [""], .ofKey "BV" ["", "", ""]]⟩, ⟨[.ofKey "X" ["bv"]]⟩] := by
  have hsplit : split ";;a;;BV;;;;;;X;bv;x;c" =
      .ok [⟨[.ofKey "a" [""], .ofKey "BV" ["", "", ""]]⟩, ⟨[.ofKey "X" ["bv"]]⟩] :=
    eq_ok_of_toOption (by decide +kernel)
  have hwritten : writeAll [⟨[.ofKey "a" [""], .ofKey "BV" ["", "", ""]]⟩,
      ⟨[.ofKey "X" ["bv"]]⟩] = "a;;BV;;;;;X;bv;;" := by
    decide +kernel
  have hwritable := ((writeAll_inverts_split _ _).2 hsplit).1
  exact ⟨hsplit, hwritten ▸ (writeAll_inverts_split _ "").1 hwritable⟩

end SqlResolution.Record
