import SqlResolution.Instance.OfRecord

/-!
# What becomes of a record

A record without a name is dropped. Of a record with a name every field is taken as it
stands, but for two that must have a form: a port or VIA parameters without theirs are
left out, and all else about the instance stays.

So a record of a host whose address is known becomes what `described` says, and there
is one exception. A text that is all digits is handed to the conversion of numbers as
it is, which refuses more digits than a number may have before it looks at the value.
Such a record is overlong: nothing in its neighbourhood is read at all.
-/

namespace SqlResolution

open SqlResolution.Text

/-- The record names an instance, and what stands for its port is a number with more digits than
a number may have. -/
def Record.isOverlong (record : Record) : Bool :=
  (Instance.nameOf? record).isSome && (record.first? "tcp").any fun text =>
    text.toList.all isAsciiDigit && Decimal.digitLimit < text.toList.length

namespace Instance

/-- The port that a text stands for: one or more ASCII digits, of a value up to 65535. -/
def port? (text : String) : Option Nat :=
  if text.toList ≠ [] ∧ text.toList.all isAsciiDigit ∧ Decimal.value text.toList ≤ 65535 then
    some (Decimal.value text.toList)
  else none

def described (address : Address) (record : Record) (name : String) : Instance :=
  { assemble record name .nothing (viaOf record) address with
    tcp := (record.first? "tcp").bind port? }

/-! ## The port -/

theorem readPort_of_overlong {text : String} (hdigits : text.toList.all isAsciiDigit)
    (hlong : Decimal.digitLimit < text.toList.length) :
    readPort text = .error (.tooManyDigits text.toList.length) := by
  have hne : text.toList ≠ [] := by
    intro hnil
    rw [hnil] at hlong
    exact Nat.not_lt_zero _ hlong
  rw [readPort]
  simp only [hne, hdigits, hlong, decide_false, Bool.not_true, Bool.or_self, if_true,
    Bool.false_eq_true, if_false]

/-- A text that is not overlong costs at most itself. -/
theorem readPort_of_not_overlong {text : String}
    (h : text.toList.all isAsciiDigit → text.toList.length ≤ Decimal.digitLimit) :
    ∃ said, readPort text = .ok said ∧ said.value? = port? text := by
  unfold readPort port?
  dsimp only
  split
  next hnone =>
    refine ⟨_, rfl, ?_⟩
    rw [if_neg]
    · rfl
    · rintro ⟨hne, hdigits, -⟩
      simp [hne, hdigits] at hnone
  next hsome =>
    obtain ⟨hne, hdigits⟩ : text.toList ≠ [] ∧ text.toList.all isAsciiDigit := by
      simpa using hsome
    rw [if_neg (Nat.not_lt.2 (h hdigits))]
    split
    next hlarge =>
      refine ⟨_, rfl, ?_⟩
      rw [if_neg]
      · rfl
      · rintro ⟨-, -, hsmall⟩
        exact Nat.not_lt.2 hsmall hlarge
    next hsmall =>
      refine ⟨_, rfl, ?_⟩
      rw [if_pos ⟨hne, hdigits, Nat.not_lt.1 hsmall⟩]
      rfl

/-! ## The record -/

variable {source : String} {address : Address}

theorem tcpOf_of_not_overlong {record : Record} (hname : (nameOf? record).isSome)
    (h : record.isOverlong = false) :
    ∃ said, tcpOf record = .ok said ∧ said.value? = (record.first? "tcp").bind port? := by
  rw [Record.isOverlong, hname, Bool.true_and] at h
  rw [tcpOf]
  cases htext : record.first? "tcp" with
  | none => exact ⟨_, rfl, rfl⟩
  | some text =>
    rw [htext, Option.any_some] at h
    have hshort : text.toList.all isAsciiDigit → text.toList.length ≤ Decimal.digitLimit := by
      intro hdigits
      rw [hdigits, Bool.true_and, decide_eq_false_iff_not] at h
      exact Nat.not_lt.1 h
    exact readPort_of_not_overlong hshort

theorem ofRecord_of_not_overlong {record : Record} (hsource : Address.read? source = some address)
    (h : record.isOverlong = false) :
    (ofRecord source record).2 = .ok ((nameOf? record).map (described address record)) := by
  rw [ofRecord]
  cases hname : nameOf? record with
  | none => rfl
  | some name =>
    obtain ⟨said, htcp, hvalue⟩ := tcpOf_of_not_overlong (by rw [hname]; rfl) h
    rw [htcp]
    dsimp only
    rw [hsource, Option.map_some, described, ← hvalue]
    rfl

theorem ofRecord_of_overlong {record : Record} (h : record.isOverlong = true) :
    ∃ count, Decimal.digitLimit < count ∧
      ofRecord source record = ([], .error (.tooManyDigits count)) := by
  rw [Record.isOverlong, Bool.and_eq_true, Option.any_eq_true] at h
  obtain ⟨hname, text, htext, hlong⟩ := h
  rw [Bool.and_eq_true, decide_eq_true_eq] at hlong
  obtain ⟨name, hname⟩ := Option.isSome_iff_exists.1 hname
  refine ⟨text.toList.length, hlong.2, ?_⟩
  rw [ofRecord, hname]
  dsimp only
  rw [tcpOf, htext]
  dsimp only
  rw [readPort_of_overlong hlong.1 hlong.2]

/-! ## The records -/

/-- Without an overlong record there is an instance for every record with a name. -/
theorem ofRecords_of_not_overlong {records : List Record}
    (hsource : Address.read? source = some address)
    (h : ∀ record ∈ records, record.isOverlong = false) :
    (ofRecords source records).2 =
      .ok (records.filterMap fun record => (nameOf? record).map (described address record)) := by
  induction records with
  | nil => rfl
  | cons record rest ih =>
    have hfirst := ofRecord_of_not_overlong hsource (h record List.mem_cons_self)
    have hrest := ih fun later hlater => h later (List.mem_cons_of_mem _ hlater)
    rw [ofRecords, ← Prod.eta (ofRecord source record), hfirst]
    dsimp only
    rw [hrest]
    cases hname : nameOf? record with
    | none => simp [Except.map, hname]
    | some name => simp [Except.map, hname]

/-- With one there is nothing at all. -/
theorem ofRecords_of_overlong {records : List Record}
    (hsource : Address.read? source = some address)
    (h : ∃ record ∈ records, record.isOverlong = true) :
    ∃ count, Decimal.digitLimit < count ∧
      (ofRecords source records).2 = .error (.tooManyDigits count) := by
  induction records with
  | nil =>
    obtain ⟨record, hmem, -⟩ := h
    cases hmem
  | cons record rest ih =>
    rw [ofRecords]
    cases hfirst : record.isOverlong with
    | true =>
      obtain ⟨count, hcount, hrecord⟩ := @ofRecord_of_overlong source record hfirst
      exact ⟨count, hcount, by rw [hrecord]⟩
    | false =>
      have hrest : ∃ later ∈ rest, later.isOverlong = true := by
        obtain ⟨later, hlater, hoverlong⟩ := h
        rcases List.mem_cons.1 hlater with rfl | hlater
        · rw [hfirst] at hoverlong
          cases hoverlong
        · exact ⟨later, hlater, hoverlong⟩
      obtain ⟨count, hcount, hrefused⟩ := ih hrest
      refine ⟨count, hcount, ?_⟩
      rw [← Prod.eta (ofRecord source record), ofRecord_of_not_overlong hsource hfirst]
      dsimp only
      rw [hrefused]
      rfl

end Instance

end SqlResolution
