import SqlResolution.Proofs.Address
import SqlResolution.Proofs.Frame
import SqlResolution.Proofs.Instance.Read
import SqlResolution.Proofs.Record.Written
import SqlResolution.Proofs.Text.Utf8
import SqlResolution.Response

/-!
# What can be said of any bytes

Whatever a datagram holds, it either carries records or it does not. If it does not, the
frame, the encoding or the grammar of records is at fault, and the answer is malformed.
If it does, there is an instance for each record with a name, unless one of the records
is overlong.

The overlong record is the gap in this. It fits in a datagram, it has the form of a
record, and yet the failure that it causes is not that of a malformed answer. No other
failure is possible, and this one has no other cause.
-/

namespace SqlResolution.Response

open SqlResolution.Text

/-- The records that a datagram carries, if it carries any. -/
def records? (data : List UInt8) : Option (List Record) := do
  let payload ← (Frame.decode data).toOption
  let text ← (Utf8.decode payload).toOption
  (Record.split text).toOption

def isOverlong (data : List UInt8) : Bool :=
  ((records? data).getD []).any Record.isOverlong

variable {source : String} {address : Address} {data : List UInt8} {records : List Record}

theorem read_of_records?_eq_none (h : records? data = none) :
    ∃ fault, read source data = ([], .error (.malformed fault)) := by
  rw [records?] at h
  rw [read]
  cases hframe : Frame.decode data with
  | error fault => exact ⟨_, rfl⟩
  | ok payload =>
    rw [hframe] at h
    dsimp only
    cases htext : Utf8.decode payload with
    | error fault => exact ⟨_, rfl⟩
    | ok text =>
      have hsplit : (Record.split text).toOption = none := by
        simpa [Except.toOption, htext] using h
      dsimp only
      rw [readText]
      cases hrecords : Record.split text with
      | error fault => exact ⟨_, rfl⟩
      | ok records =>
        rw [hrecords] at hsplit
        cases hsplit

theorem read_of_records?_eq_some (h : records? data = some records) :
    read source data =
      ((Instance.ofRecords source records).1,
        (Instance.ofRecords source records).2.mapError .invalidValue) := by
  rw [records?] at h
  rw [read]
  cases hframe : Frame.decode data with
  | error fault =>
    rw [hframe] at h
    cases h
  | ok payload =>
    rw [hframe] at h
    dsimp only
    cases htext : Utf8.decode payload with
    | error fault => simp [Except.toOption, htext] at h
    | ok text =>
      have hsplit : (Record.split text).toOption = some records := by
        simpa [Except.toOption, htext] using h
      dsimp only
      rw [readText]
      cases hrecords : Record.split text with
      | error fault =>
        rw [hrecords] at hsplit
        cases hsplit
      | ok found =>
        rw [hrecords] at hsplit
        cases hsplit
        rfl

/-- Whatever is wrong with a datagram, or with where it came from, it is one of two kinds of
failure. -/
theorem read_error {failure : Failure} (h : (read source data).2 = .error failure) :
    (∃ fault, failure = .malformed fault) ∨ ∃ fault, failure = .invalidValue fault := by
  cases hrecords : records? data with
  | none =>
    obtain ⟨fault, hread⟩ := @read_of_records?_eq_none source data hrecords
    rw [hread] at h
    cases h
    exact .inl ⟨fault, rfl⟩
  | some records =>
    rw [read_of_records?_eq_some hrecords] at h
    dsimp only at h
    cases hmade : (Instance.ofRecords source records).2 with
    | error fault =>
      rw [hmade] at h
      cases h
      exact .inr ⟨fault, rfl⟩
    | ok instances =>
      rw [hmade] at h
      cases h

/-- A datagram that is not overlong is malformed, or its records are read one by one. -/
theorem read_of_not_overlong (hsource : Address.read? source = some address)
    (h : isOverlong data = false) :
    (records? data = none ∧ ∃ fault, (read source data).2 = .error (.malformed fault)) ∨
      ∃ records, records? data = some records ∧
        (read source data).2 = .ok (records.filterMap fun record =>
          (Instance.nameOf? record).map (Instance.described address record)) := by
  rw [isOverlong] at h
  cases hrecords : records? data with
  | none =>
    obtain ⟨fault, hread⟩ := @read_of_records?_eq_none source data hrecords
    exact .inl ⟨rfl, fault, by rw [hread]⟩
  | some records =>
    rw [hrecords, Option.getD_some, List.any_eq_false] at h
    have hmade := Instance.ofRecords_of_not_overlong hsource fun record hrecord =>
      Bool.not_eq_true _ ▸ h record hrecord
    refine .inr ⟨records, rfl, ?_⟩
    rw [read_of_records?_eq_some hrecords]
    dsimp only
    rw [hmade]
    rfl

theorem read_of_overlong (hsource : Address.read? source = some address)
    (h : isOverlong data = true) :
    ∃ count, Decimal.digitLimit < count ∧
      (read source data).2 = .error (.invalidValue (.tooManyDigits count)) := by
  rw [isOverlong] at h
  cases hrecords : records? data with
  | none =>
    rw [hrecords] at h
    cases h
  | some records =>
    rw [hrecords, Option.getD_some, List.any_eq_true] at h
    obtain ⟨count, hcount, hrefused⟩ := Instance.ofRecords_of_overlong hsource h
    refine ⟨count, hcount, ?_⟩
    rw [read_of_records?_eq_some hrecords]
    dsimp only
    rw [hrefused]
    rfl

theorem refused_iff_overlong (hsource : Address.read? source = some address) :
    (∃ failure, (read source data).2 = .error failure ∧ ∀ fault, failure ≠ .malformed fault) ↔
      isOverlong data = true := by
  constructor
  · rintro ⟨failure, hfailure, hother⟩
    cases hoverlong : isOverlong data with
    | true => rfl
    | false =>
      rcases read_of_not_overlong hsource hoverlong with ⟨-, fault, hread⟩ | ⟨records, -, hread⟩
      · rw [hread] at hfailure
        cases hfailure
        exact absurd rfl (hother fault)
      · rw [hread] at hfailure
        cases hfailure
  · intro hoverlong
    obtain ⟨count, -, hread⟩ := read_of_overlong hsource hoverlong
    refine ⟨_, hread, ?_⟩
    intro fault hfault
    cases hfault

/-! ## An overlong answer -/

/-- Records that can be written are those that the framed text carries. -/
theorem records?_of_encode (h : ∀ record ∈ records, record.IsWritable)
    (hframe : Frame.encode (Utf8.encode (Record.writeAll records)) = .ok data) :
    records? data = some records := by
  rw [records?, Frame.decode_of_encode hframe]
  simp [Except.toOption, Utf8.decode_encode, Record.split_writeAll h]

def zerosRecord (count : Nat) : Record :=
  ⟨[.ofKey "InstanceName" ["A"], .ofKey "tcp" [String.ofList (List.replicate count '0')]]⟩

theorem isWritable_zerosRecord (count : Nat) : (zerosRecord count).IsWritable where
  entries_ne := List.cons_ne_nil _ _
  distinct := by
    have hkeys : ([lower "InstanceName", lower "tcp"] : List String).Nodup := by decide
    exact hkeys
  key_ne := by simp [zerosRecord, KeyTable.Entry.ofKey]
  count := by
    have hkeys : Record.valueCount "InstanceName" = 1 ∧ Record.valueCount "tcp" = 1 := by decide
    simp [zerosRecord, KeyTable.Entry.ofKey, hkeys]
  plain := by simp [zerosRecord, KeyTable.Entry.ofKey, List.mem_replicate]

theorem isOverlong_zerosRecord (count : Nat) :
    (zerosRecord count).isOverlong = decide (4300 < count) := by
  have hkeys : lower "InstanceName" ≠ lower "tcp" := by decide
  have hname : (zerosRecord count).first? "InstanceName" = some "A" := by
    simp [zerosRecord, Record.first?, KeyTable.get?, KeyTable.entry?, KeyTable.Entry.ofKey]
  have htcp : (zerosRecord count).first? "tcp" =
      some (String.ofList (List.replicate count '0')) := by
    simp [zerosRecord, Record.first?, KeyTable.get?, KeyTable.entry?, KeyTable.Entry.ofKey, hkeys]
  rw [Record.isOverlong, Instance.nameOf?, hname, htcp]
  simp [Decimal.digitLimit, isAsciiDigit]

/-- The record, written in bytes. -/
def zerosPayload (count : Nat) : List UInt8 :=
  Utf8.encode "InstanceName;A;tcp;" ++ List.replicate count 0x30 ++ Utf8.encode ";;"

theorem length_zerosPayload (count : Nat) : (zerosPayload count).length = count + 21 := by
  have hliterals : (Utf8.encode "InstanceName;A;tcp;").length = 19 ∧
      (Utf8.encode ";;").length = 2 := by decide
  rw [zerosPayload, List.length_append, List.length_append, List.length_replicate]
  omega

theorem encode_writeAll_zerosRecord (count : Nat) :
    Utf8.encode (Record.writeAll [zerosRecord count]) = zerosPayload count := by
  have hwritten : Record.writeAll [zerosRecord count] =
      "InstanceName;A;tcp;" ++ String.ofList (List.replicate count '0') ++ ";;" := by
    refine String.toList_inj.1 ?_
    simp [Record.writeAll, Record.write, zerosRecord, KeyTable.toList, KeyTable.Entry.ofKey]
  rw [hwritten, Utf8.encode_append, Utf8.encode_append, Utf8.encode_replicate_zero, zerosPayload]

/-- A datagram with such a record. -/
def zerosData (count : Nat) : List UInt8 :=
  Protocol.responseOpcode :: Protocol.bytesOfWord (count + 21) ++ zerosPayload count

theorem records?_zerosData {count : Nat} (h : count + 21 ≤ 65535) :
    records? (zerosData count) = some [zerosRecord count] := by
  have hwritable : ∀ record ∈ [zerosRecord count], record.IsWritable := by
    intro record hrecord
    rw [List.mem_singleton.1 hrecord]
    exact isWritable_zerosRecord count
  refine records?_of_encode hwritable ?_
  rw [encode_writeAll_zerosRecord, Frame.encode_of_length_le (length_zerosPayload count ▸ h),
    length_zerosPayload]
  rfl

/-- Ports of more digits than a number may have have room in a datagram. -/
theorem isOverlong_zerosData {count : Nat} (h : count + 21 ≤ 65535) :
    isOverlong (zerosData count) = decide (4300 < count) := by
  rw [isOverlong, records?_zerosData h]
  simp [isOverlong_zerosRecord]

/-! ## All datagrams -/

/-- From a host whose address is known, a datagram that is not overlong is malformed if it carries
no records, and otherwise gives an instance for each record with a name, of which nothing is missing
but a port or VIA parameters that make no sense. Being overlong, and nothing else, makes it fail in
another way. -/
theorem read_refusal (hsource : Address.read? source = some address) (data : List UInt8) :
    (match records? data with
      | none => ∃ fault, (read source data).2 = .error (.malformed fault)
      | some records => isOverlong data = false →
        (read source data).2 = .ok (records.filterMap fun record =>
          (Instance.nameOf? record).map (Instance.described address record))) ∧
    ((∃ failure, (read source data).2 = .error failure ∧ ∀ fault, failure ≠ .malformed fault) ↔
      isOverlong data = true) ∧
    (isOverlong data = true → ∃ count, Decimal.digitLimit < count ∧
      (read source data).2 = .error (.invalidValue (.tooManyDigits count))) := by
  refine ⟨?_, refused_iff_overlong hsource, read_of_overlong hsource⟩
  split
  next hnone =>
    obtain ⟨fault, hread⟩ := @read_of_records?_eq_none source data hnone
    exact ⟨fault, by rw [hread]⟩
  next records hsome =>
    intro hoverlong
    rcases read_of_not_overlong hsource hoverlong with ⟨hnone, -⟩ | ⟨found, hfound, hread⟩
    · rw [hsome] at hnone
      cases hnone
    · rw [hsome] at hfound
      cases hfound
      exact hread

def privateAddress : Address :=
  .v4 ⟨192, 168, 1, 10⟩

/-- The third way to end is taken. -/
theorem read_refusal_zeros :
    ∃ data, isOverlong data = true ∧ ∃ count, Decimal.digitLimit < count ∧
      (read privateAddress.text data).2 = .error (.invalidValue (.tooManyDigits count)) := by
  have hoverlong : isOverlong (zerosData 4301) = true := isOverlong_zerosData (by decide)
  exact ⟨_, hoverlong, (read_refusal (Address.read?_text privateAddress) _).2.2 hoverlong⟩

end SqlResolution.Response
