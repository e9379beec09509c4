import SqlResolution.Proofs.Record.Place
import SqlResolution.Proofs.Response.Canonical
import SqlResolution.Proofs.Response.Firsts

/-!
# A value without its form costs one way and no more

Two ways to reach an instance have values with a form: the port, which is a number, and the
parameters of VIA, which are a machine and its cards. A value without its form is left out with a
notice. Any other value can be put in its place, with the form or without: there are as many
instances as before, the others are what they were, and the one whose value it is differs in this
way only. The notices stay the same too, but for the one about the value.

The port must not have more digits than a number may have, neither here nor in another record,
since that would stop the reading altogether.
-/

namespace SqlResolution

open SqlResolution.Text

namespace Instance

/-! ## Values with a form -/

theorem port?_eq_some_iff {text : String} {port : Nat} :
    port? text = some port ↔
      text ≠ "" ∧ text.toList.all isAsciiDigit ∧ Decimal.value text.toList = port ∧
        port ≤ 65535 := by
  have hempty : text.toList ≠ [] ↔ text ≠ "" := not_congr String.toList_eq_nil_iff
  rw [port?]
  split
  next hform =>
    obtain ⟨hne, hdigits, hsmall⟩ := hform
    rw [Option.some.injEq]
    constructor
    · rintro rfl
      exact ⟨hempty.1 hne, hdigits, rfl, hsmall⟩
    · rintro ⟨-, -, hvalue, -⟩
      exact hvalue
  next hform =>
    constructor
    · intro h
      cases h
    · rintro ⟨hne, hdigits, rfl, hsmall⟩
      exact absurd ⟨hempty.2 hne, hdigits, hsmall⟩ hform

theorem map_cardText {tokens : List (List Char)} {cards : List ViaAddress}
    (h : tokens.mapM readViaAddress? = some cards) : cards.map cardText = tokens := by
  induction tokens generalizing cards with
  | nil =>
    cases h
    rfl
  | cons token later ih =>
    rw [List.mapM_cons] at h
    obtain ⟨card, hcard, h⟩ := Option.bind_eq_some_iff.1 h
    obtain ⟨others, hothers, h⟩ := Option.bind_eq_some_iff.1 h
    cases h
    rw [List.map_cons, ih hothers, cardText, ← (of_readViaAddress? hcard).1]

/-- VIA parameters are what is written of a machine and one or more cards, whose parts hold none of
the characters at which the parameters are cut. -/
theorem readVia?_eq_some_iff {text : String} (hplain : Plain text) {via : Via} :
    readVia? text = some via ↔ via.IsWritable ∧ via.write = text := by
  constructor
  · intro h
    have hwritable := isWritable_of_readVia? hplain h
    refine ⟨hwritable, ?_⟩
    rw [readVia?] at h
    split at h
    next machine cards hcut =>
      obtain ⟨addresses, hread, rfl⟩ := Option.map_eq_some_iff.1 h
      rw [← String.toList_inj, toList_viaWrite hwritable.1, (of_cutAt_eq_some hcut).1,
        map_cardText hread, intercalate_splitOn, String.toList_ofList]
    next => cases h
  · rintro ⟨hwritable, rfl⟩
    exact readVia?_write hwritable

/-! ## Endpoints -/

/-- A way whose value has a form. -/
inductive Endpoint where
  | tcp
  | via
  deriving DecidableEq

namespace Endpoint

def key : Endpoint → String
  | tcp => "tcp"
  | via => "via"

/-- The known keys but that of this way. -/
def otherKeys (endpoint : Endpoint) : List String :=
  Record.knownKeys.filter (· ≠ endpoint.key)

theorem key_mem (endpoint : Endpoint) : endpoint.key ∈ Record.knownKeys := by
  cases endpoint <;> decide

/-- The instance with this way as a value has it. -/
def put : Endpoint → String → Instance → Instance
  | tcp, value, x => { x with tcp := port? value }
  | via, value, x => { x with via := readVia? value }

/-- The value does not have its form. -/
def isDropped : Endpoint → String → Bool
  | tcp, value => (port? value).isNone
  | via, value => (readVia? value).isNone

def notice : Endpoint → (value name source : String) → Notice
  | tcp => .invalidPort
  | via => .invalidVia

/-- A value is noticed if it is dropped. -/
def notices (endpoint : Endpoint) (value name source : String) : List Notice :=
  if endpoint.isDropped value then [endpoint.notice value name source] else []

/-- The notices about the value that a record has. -/
def noticesOf (endpoint : Endpoint) (record : Record) (name source : String) : List Notice :=
  ((record.first? endpoint.key).map fun value => endpoint.notices value name source).getD []

theorem level_of_mem_notices {endpoint : Endpoint} {value name source : String} {notice : Notice}
    (h : notice ∈ endpoint.notices value name source) : notice.level = .warning := by
  rw [notices] at h
  split at h
  · rw [List.mem_singleton.1 h]
    cases endpoint <;> rfl
  · cases h

end Endpoint

/-! ## What is noticed of a record -/

variable {source name : String} {address : Address} {record : Record}

theorem isOverlong_eq_false
    (h : ∀ text, record.first? "tcp" = some text → text.toList.length ≤ Decimal.digitLimit) :
    record.isOverlong = false := by
  rw [Record.isOverlong, Bool.and_eq_false_iff]
  right
  rw [← Bool.not_eq_true, Option.any_eq_true]
  rintro ⟨text, htext, hlong⟩
  rw [Bool.and_eq_true, decide_eq_true_eq] at hlong
  exact Nat.not_lt.2 (h text htext) hlong.2

theorem Endpoint.noticesOf_of_first? {endpoint : Endpoint} {value : String}
    (h : record.first? endpoint.key = some value) :
    endpoint.noticesOf record name source = endpoint.notices value name source := by
  rw [noticesOf, h]
  rfl

theorem Endpoint.noticesOf_congr {endpoint : Endpoint} {other : Record}
    (h : record.first? endpoint.key = other.first? endpoint.key) :
    endpoint.noticesOf record name source = endpoint.noticesOf other name source := by
  rw [noticesOf, noticesOf, h]

theorem nonsense?_of_readPort {text : String} {said : Said Nat} (h : readPort text = .ok said) :
    said.nonsense? = if said.value?.isNone then some text else none := by
  unfold readPort at h
  dsimp only at h
  split at h
  · cases h
    rfl
  · split at h
    · cases h
    · split at h
      · cases h
        rfl
      · cases h
        rfl

theorem noticesOf_tcp {said : Said Nat} (h : tcpOf record = .ok said)
    (hvalue : said.value? = (record.first? "tcp").bind port?) :
    (said.nonsense?.map fun text => Notice.invalidPort text name source).toList =
      Endpoint.tcp.noticesOf record name source := by
  rw [Endpoint.noticesOf, Endpoint.key]
  rw [tcpOf] at h
  cases htext : record.first? "tcp" with
  | none =>
    rw [htext] at h
    cases h
    rfl
  | some text =>
    rw [htext] at h hvalue
    rw [nonsense?_of_readPort h, hvalue, Option.bind_some, Option.map_some, Option.getD_some,
      Endpoint.notices, Endpoint.isDropped]
    split <;> rfl

theorem noticesOf_via :
    ((viaOf record).nonsense?.map fun text => Notice.invalidVia text name source).toList =
      Endpoint.via.noticesOf record name source := by
  rw [Endpoint.noticesOf, Endpoint.key, viaOf]
  cases htext : record.first? "via" with
  | none => rfl
  | some text =>
    rw [Option.map_some, Option.getD_some, Endpoint.notices, Endpoint.isDropped]
    dsimp only
    cases hread : readVia? text <;> rfl

theorem ofRecord_of_name (hsource : Address.read? source = some address)
    (hname : nameOf? record = some name) (h : record.isOverlong = false) :
    ofRecord source record =
      (Endpoint.tcp.noticesOf record name source ++ Endpoint.via.noticesOf record name source,
        .ok (some (described address record name))) := by
  obtain ⟨said, htcp, hvalue⟩ := tcpOf_of_not_overlong (by rw [hname]; rfl) h
  have hmade := ofRecord_of_not_overlong hsource h
  rw [hname, Option.map_some] at hmade
  refine Prod.ext ?_ hmade
  rw [ofRecord, hname]
  dsimp only
  rw [htcp, ← noticesOf_tcp htcp hvalue, ← noticesOf_via]
  rfl

/-- Records around one with a name make the same instances and notices whatever it is. -/
theorem exists_ofRecords_around (hsource : Address.read? source = some address)
    {earlier later : List Record} (hearlier : ∀ r ∈ earlier, r.isOverlong = false)
    (hlater : ∀ r ∈ later, r.isOverlong = false) :
    ∃ noticed before after behind, ∀ record name, nameOf? record = some name →
      record.isOverlong = false →
      ofRecords source (earlier ++ record :: later) =
        (noticed ++ (Endpoint.tcp.noticesOf record name source ++
          Endpoint.via.noticesOf record name source) ++ behind,
          .ok (before ++ described address record name :: after)) := by
  obtain ⟨before, hbefore⟩ : ∃ before, (ofRecords source earlier).2 = .ok before :=
    ⟨_, ofRecords_of_not_overlong hsource hearlier⟩
  obtain ⟨after, hafter⟩ : ∃ after, (ofRecords source later).2 = .ok after :=
    ⟨_, ofRecords_of_not_overlong hsource hlater⟩
  refine ⟨(ofRecords source earlier).1, before, after, (ofRecords source later).1, ?_⟩
  intro record name hname hrecord
  rw [ofRecords_append (Prod.ext rfl hbefore), ofRecords, ofRecord_of_name hsource hname hrecord]
  dsimp only
  rw [hafter]
  exact Prod.ext (List.append_assoc _ _ _).symm rfl

/-! ## Another value -/

theorem value?_viaOf : (viaOf record).value? = (record.first? "via").bind readVia? := by
  rw [viaOf]
  cases record.first? "via" with
  | none => rfl
  | some text =>
    rw [Option.bind_some]
    dsimp only
    cases readVia? text <;> rfl

/-- The two ways apart from everything else. -/
theorem described_eq : described address record name =
    { assemble record name .nothing .nothing address with
      tcp := (record.first? "tcp").bind port?
      via := (record.first? "via").bind readVia? } := by
  rw [described, ← value?_viaOf]
  rfl

variable {place : Record.Place} {endpoint : Endpoint}

theorem put_described {value : String} (h : record.first? endpoint.key = some value) :
    endpoint.put value (described address record name) = described address record name := by
  rw [described_eq]
  cases endpoint with
  | tcp =>
    have htcp : record.first? "tcp" = some value := h
    rw [htcp]
    rfl
  | via =>
    have hvia : record.first? "via" = some value := h
    rw [hvia]
    rfl

/-- With another value at its place a record has the same under all other keys. -/
theorem agreeOn_otherKeys (hkey : lower place.key = lower endpoint.key) (value other : String) :
    Record.AgreeOn endpoint.otherKeys (place.record value) (place.record other) := by
  intro key hmem
  obtain ⟨hknown, hne⟩ := List.mem_filter.1 hmem
  apply Record.Place.get?_record_other
  rw [hkey]
  intro hsame
  -- Known keys do not differ in their case only.
  have hself := Record.lower_inj_knownKeys endpoint.key_mem hknown hsame
  exact of_decide_eq_true hne hself.symm

theorem nameOf?_record (hkey : lower place.key = lower endpoint.key) (value other : String) :
    nameOf? (place.record value) = nameOf? (place.record other) :=
  nameOf?_congr ((agreeOn_otherKeys hkey value other).first? (by cases endpoint <;> decide))

theorem described_record (hkey : lower place.key = lower endpoint.key) (value other : String) :
    described address (place.record value) name =
      endpoint.put value (described address (place.record other) name) := by
  have hagree := agreeOn_otherKeys hkey value other
  have hvalue := Record.Place.first?_record hkey value
  rw [described_eq, described_eq, assemble_congr (hagree.mono (by cases endpoint <;> decide))]
  cases endpoint with
  | tcp =>
    have htcp : (place.record value).first? "tcp" = some value := hvalue
    have hvia : (place.record value).first? "via" = (place.record other).first? "via" :=
      hagree.first? (by decide)
    rw [htcp, hvia]
    rfl
  | via =>
    have hvia : (place.record value).first? "via" = some value := hvalue
    have htcp : (place.record value).first? "tcp" = (place.record other).first? "tcp" :=
      hagree.first? (by decide)
    rw [htcp, hvia]
    rfl

/-- The notices about the way stand between others that do not depend on it. -/
theorem exists_noticesOf_record (hkey : lower place.key = lower endpoint.key)
    (name source : String) :
    ∃ before after, ∀ value,
      Endpoint.tcp.noticesOf (place.record value) name source ++
          Endpoint.via.noticesOf (place.record value) name source =
        before ++ endpoint.notices value name source ++ after := by
  have hown : ∀ value, endpoint.noticesOf (place.record value) name source =
      endpoint.notices value name source :=
    fun value => Endpoint.noticesOf_of_first? (Record.Place.first?_record hkey value)
  have hother : ∀ other : Endpoint, other.key ∈ endpoint.otherKeys → ∀ value,
      other.noticesOf (place.record value) name source =
        other.noticesOf (place.record "") name source :=
    fun other hmem value =>
      Endpoint.noticesOf_congr ((agreeOn_otherKeys hkey value "").first? hmem)
  cases endpoint with
  | tcp =>
    refine ⟨[], Endpoint.via.noticesOf (place.record "") name source, fun value => ?_⟩
    rw [hown value, hother .via (by decide) value]
    rfl
  | via =>
    refine ⟨Endpoint.tcp.noticesOf (place.record "") name source, [], fun value => ?_⟩
    rw [hown value, hother .tcp (by decide) value, List.append_nil]

theorem isOverlong_record (hkey : lower place.key = lower endpoint.key) {value old : String}
    (hold : ∀ text, (place.record old).first? "tcp" = some text →
      text.toList.length ≤ Decimal.digitLimit)
    (hvalue : endpoint = .tcp → value.toList.length ≤ Decimal.digitLimit) :
    (place.record value).isOverlong = false := by
  apply isOverlong_eq_false
  intro text htext
  cases endpoint with
  | tcp =>
    have htcp : (place.record value).first? "tcp" = some value :=
      Record.Place.first?_record hkey value
    rw [htcp] at htext
    cases htext
    exact hvalue rfl
  | via =>
    rw [(agreeOn_otherKeys hkey value old).first? (by decide)] at htext
    exact hold text htext

end Instance

namespace Response

open Instance

variable {source text name : String} {address : Address} {endpoint : Endpoint}

/-- The text with a value at a place, for all values at once. -/
theorem exists_readText_place {place : Record.Place} {old : String}
    (hsource : Address.read? source = some address)
    (hkey : lower place.key = lower endpoint.key)
    (hname : nameOf? (place.record old) = some name)
    (hshort : ∀ r ∈ Record.ofItems (place.items old), ∀ value, r.first? "tcp" = some value →
      value.toList.length ≤ 4300) :
    ∃ noticed before after later, ∀ value, Plain value →
      (endpoint = .tcp → value.toList.length ≤ 4300) →
        readText source (place.text value) =
          (noticed ++ endpoint.notices value name source ++ later,
            .ok (before ++
              endpoint.put value (described address (place.record old) name) :: after)) := by
  rw [Record.Place.ofItems_items, List.forall_mem_append, List.forall_mem_cons] at hshort
  obtain ⟨hearlier, hown, hlater⟩ := hshort
  obtain ⟨noticed, before, after, behind, haround⟩ := exists_ofRecords_around hsource
    (fun r hr => isOverlong_eq_false (hearlier r hr))
    (fun r hr => isOverlong_eq_false (hlater r hr))
  obtain ⟨first, second, hnotices⟩ := exists_noticesOf_record hkey name source
  refine ⟨noticed ++ first, before, after, second ++ behind, fun value hvalue hlength => ?_⟩
  have hmade := haround (place.record value) name ((nameOf?_record hkey value old).trans hname)
    (isOverlong_record hkey hown hlength)
  -- Both depend on the value in one spot: the instance in its way, the notices in the middle.
  rw [hnotices, described_record hkey value old] at hmade
  rw [readText_of_split (Record.Place.split_text hvalue) hmade]
  simp

/-- Of an accepted text, any record that names an instance, and the value that it has for a way
with a form: there is a place in the text where any other value without a semicolon can be put.
The instances stay as they are, but for this way of the one that is named; and so do the notices,
but for a warning about the value, which there is exactly when it is dropped. -/
theorem endpoint_isolated {source text name old : String} {address : Address}
    {records : List Record} {i : Nat} {record : Record} (endpoint : Endpoint)
    (hsource : Address.read? source = some address) (hsplit : Record.split text = .ok records)
    (hrecord : records[i]? = some record) (hname : nameOf? record = some name)
    (hold : record.first? endpoint.key = some old)
    (hshort : ∀ r ∈ records, ∀ value, r.first? "tcp" = some value → value.toList.length ≤ 4300) :
    ∃ place : Record.Place,
      (place.text old = text ∧ lower place.key = lower endpoint.key ∧ place.index = i) ∧
      ∃ noticed before after later,
        readText source text =
          (noticed ++ endpoint.notices old name source ++ later,
            .ok (before ++ described address record name :: after)) ∧
        ∀ new, Plain new → (endpoint = .tcp → new.toList.length ≤ 4300) →
          readText source (place.text new) =
            (noticed ++ endpoint.notices new name source ++ later,
              .ok (before ++ endpoint.put new (described address record name) :: after)) ∧
          (∀ notice ∈ endpoint.notices new name source, notice.level = .warning) ∧
          (∀ port, port? new = some port ↔
            new ≠ "" ∧ new.toList.all isAsciiDigit ∧ Decimal.value new.toList = port ∧
              port ≤ 65535) ∧
          (∀ via, readVia? new = some via ↔ via.IsWritable ∧ via.write = new) := by
  have hcount : Record.valueCount endpoint.key = 1 := by
    cases endpoint <;> decide +kernel
  have hmem := List.mem_of_getElem? hrecord
  have hplain : Plain old := plain_of_first? (Record.isWritable_of_split hsplit record hmem) hold
  have hlength : endpoint = .tcp → old.toList.length ≤ 4300 := by
    rintro rfl
    exact hshort record hmem old hold
  obtain ⟨place, rfl, hkey, hindex, rfl⟩ := Record.exists_place hsplit hrecord hcount hold
  -- The items of an accepted text are unique, so its records are those around the place.
  obtain rfl : Record.ofItems (place.items old) = records := by
    rw [Record.split_of_items (Record.Place.tokens_text hplain)] at hsplit
    exact Except.ok.inj hsplit
  refine ⟨place, ⟨rfl, hkey, hindex⟩, ?_⟩
  obtain ⟨noticed, before, after, later, hread⟩ := exists_readText_place hsource hkey hname hshort
  refine ⟨noticed, before, after, later, ?_, ?_⟩
  · have hold := hread old hplain hlength
    rw [put_described (Record.Place.first?_record hkey old)] at hold
    exact hold
  · intro new hnew hlength
    exact ⟨hread new hnew hlength, fun notice => Endpoint.level_of_mem_notices,
      fun port => port?_eq_some_iff, fun via => readVia?_eq_some_iff hnew⟩

def crossedText : String :=
  "InstanceName;A;tcp;x;;VIA;m,n:1;InstanceName;B;via;q;Tcp;007"

def crossedRecord : Record :=
  ⟨[.ofKey "VIA" ["m,n:1"], .ofKey "InstanceName" ["B"], .ofKey "Tcp" ["007"]]⟩

def crossedRecords : List Record :=
  [⟨[.ofKey "InstanceName" ["A"], .ofKey "tcp" ["x"]]⟩, crossedRecord]

/-- VIA parameters of the second record, with another value of the same key behind them, and one
without its form put there. -/
theorem endpoint_isolated_crossed :
    ∃ place : Record.Place, place.text "m,n:1" = crossedText ∧ place.index = 1 ∧
      ∃ noticed before after later,
        readText "10.0.0.1" crossedText = (noticed ++ later,
          .ok (before ++
            { bareInstance "B" with tcp := some 7, via := some ⟨"m", [⟨"n", "1"⟩]⟩ } :: after)) ∧
        readText "10.0.0.1" (place.text "m") =
          (noticed ++ [.invalidVia "m" "B" "10.0.0.1"] ++ later,
            .ok (before ++ { bareInstance "B" with tcp := some 7 } :: after)) := by
  have hsource : Address.read? "10.0.0.1" = some (.v4 ⟨10, 0, 0, 1⟩) := by
    decide +kernel
  have hsplit : Record.split crossedText = .ok crossedRecords :=
    eq_ok_of_toOption (by decide +kernel)
  have hshort : ∀ r ∈ crossedRecords, ∀ value, r.first? "tcp" = some value →
      value.toList.length ≤ 4300 := by
    have hall : ∀ r ∈ crossedRecords, (r.first? "tcp").all (·.toList.length ≤ 4300) := by
      decide +kernel
    intro r hr value hvalue
    simpa [hvalue] using hall r hr
  have hdescribed : described (.v4 ⟨10, 0, 0, 1⟩) crossedRecord "B" =
      { bareInstance "B" with tcp := some 7, via := some ⟨"m", [⟨"n", "1"⟩]⟩ } := by
    decide +kernel
  have hform : Endpoint.via.notices "m,n:1" "B" "10.0.0.1" = [] :=
    if_neg (by decide +kernel)
  have hnoForm : Endpoint.via.notices "m" "B" "10.0.0.1" = [.invalidVia "m" "B" "10.0.0.1"] :=
    if_pos (by decide +kernel)
  have hplain : Plain "m" := by
    show ';' ∉ "m".toList
    decide
  obtain ⟨place, ⟨htext, -, hindex⟩, noticed, before, after, later, hread, hother⟩ :=
    endpoint_isolated .via hsource hsplit (rfl : crossedRecords[1]? = some crossedRecord)
      (by decide +kernel : nameOf? crossedRecord = some "B")
      (by decide +kernel : crossedRecord.first? Endpoint.via.key = some "m,n:1") hshort
  refine ⟨place, htext, hindex, noticed, before, after, later, ?_, ?_⟩
  · rw [hread, hform, hdescribed, List.append_nil]
  · rw [(hother "m" hplain (by decide)).1, hnoForm, hdescribed]
    rfl

end Response

end SqlResolution
