import SqlResolution.Proofs.Frame
import SqlResolution.Response

/-!
# What an answer says about an administration port

The record of an administration port has six bytes, and its size field says six. In a framed
answer the size field leaves the header out, so six bytes in all announce three. That is why no
datagram is both, and why the size field can be asked first: a datagram with six bytes that
announces six is the record, with the right version or not, and no frame.

Every other datagram is read as a frame. If it is one, the server knows no port; if it is not, the
answer is malformed. The reader asks for the opcode and the size field before it asks for the
frame, which changes the words of the complaint and not its kind.
-/

namespace SqlResolution.Response

/-- The record of an administration port, the port in two bytes. -/
def adminRecord (low high : UInt8) : List UInt8 :=
  [0x05, 0x06, 0x00, 0x01, low, high]

/-- The datagram is the record of a port that is not zero. -/
def NamesPort (data : List UInt8) (port : Nat) : Prop :=
  ∃ low high, data = adminRecord low high ∧ port = low.toNat + 256 * high.toNat ∧ port ≠ 0

/-- The datagram is the record of no port, or a framed answer. -/
def NamesNoPort (data : List UInt8) : Prop :=
  data = adminRecord 0 0 ∨ ∃ payload, Frame.decode data = .ok payload

/-! ## The two readings of the size field -/

theorem wordOfBytes_inj {low high low' high' : UInt8} :
    Protocol.wordOfBytes low high = Protocol.wordOfBytes low' high' ↔
      low = low' ∧ high = high' := by
  constructor
  · intro h
    have hbytes := congrArg Protocol.bytesOfWord h
    rw [Protocol.bytesOfWord_wordOfBytes, Protocol.bytesOfWord_wordOfBytes] at hbytes
    simpa using hbytes
  · rintro ⟨rfl, rfl⟩
    rfl

/-- Six bytes that announce six are three too few for a frame. -/
theorem decode_of_six (version low high : UInt8) :
    Frame.decode [0x05, 0x06, 0x00, version, low, high] = .error (.truncated 6 3) := rfl

/-! ## The record -/

theorem readAdminPort_of_six (version low high : UInt8) :
    readAdminPort [0x05, 0x06, 0x00, version, low, high] =
      if version ≠ Protocol.adminVersion then .error (.malformed (.adminVersion version))
      else if Protocol.wordOfBytes low high = 0 then .error (.notFound .zeroAdminPort)
      else .ok ⟨Protocol.wordOfBytes low high⟩ := rfl

/-- Any other datagram is taken for a frame. -/
theorem readAdminPort_of_not_six {data : List UInt8}
    (h : ∀ version low high, data ≠ [0x05, 0x06, 0x00, version, low, high]) :
    (∃ payload, Frame.decode data = .ok payload ∧
      readAdminPort data = .error (.notFound .noAdminPort)) ∨
    ∃ cause fault, Frame.decode data = .error cause ∧
      readAdminPort data = .error (.malformed fault) := by
  have hframe : readAdminPort data = .error (readNoAdminPort data) ∨
      ∃ cause fault, Frame.decode data = .error cause ∧
        readAdminPort data = .error (.malformed fault) := by
    match data with
    | [] => exact .inr ⟨_, _, rfl, rfl⟩
    | opcode :: rest =>
      by_cases hopcode : opcode = Protocol.responseOpcode
      · subst hopcode
        match rest with
        | [] => exact .inr ⟨_, _, rfl, rfl⟩
        | [_] => exact .inr ⟨_, _, rfl, rfl⟩
        | sizeLow :: sizeHigh :: body =>
          match body with
          | [version, low, high] =>
            have hsize : Protocol.wordOfBytes sizeLow sizeHigh ≠ 6 := by
              intro hsix
              have hword : Protocol.wordOfBytes sizeLow sizeHigh = Protocol.wordOfBytes 6 0 := hsix
              obtain ⟨rfl, rfl⟩ := wordOfBytes_inj.1 hword
              exact h version low high rfl
            refine .inl ?_
            simp [readAdminPort, Protocol.adminResponseSize, hsize]
          | [] => exact .inl rfl
          | [_] => exact .inl rfl
          | [_, _] => exact .inl rfl
          | _ :: _ :: _ :: _ :: _ => exact .inl rfl
      · refine .inr ⟨.opcode opcode, .frame (.opcode opcode), ?_, ?_⟩
        · simp [Frame.decode, hopcode]
        · simp [readAdminPort, hopcode]
  rcases hframe with hread | hmalformed
  · rw [hread, readNoAdminPort]
    cases hdecode : Frame.decode data with
    | ok payload => exact .inl ⟨payload, rfl, rfl⟩
    | error cause => exact .inr ⟨cause, .frame cause, rfl, rfl⟩
  · exact .inr hmalformed

/-! ## All datagrams -/

theorem readAdminPort_adminRecord (low high : UInt8) :
    readAdminPort (adminRecord low high) =
      if Protocol.wordOfBytes low high = 0 then .error (.notFound .zeroAdminPort)
      else .ok ⟨Protocol.wordOfBytes low high⟩ := rfl

theorem namesPort_adminRecord {low high : UInt8} {port : Nat} :
    NamesPort (adminRecord low high) port ↔
      port = Protocol.wordOfBytes low high ∧ port ≠ 0 := by
  constructor
  · rintro ⟨low', high', hrecord, hport⟩
    simp only [adminRecord, List.cons.injEq, true_and, and_true] at hrecord
    obtain ⟨rfl, rfl⟩ := hrecord
    exact hport
  · exact fun hport => ⟨low, high, rfl, hport⟩

theorem namesNoPort_adminRecord {low high : UInt8} :
    NamesNoPort (adminRecord low high) ↔ Protocol.wordOfBytes low high = 0 := by
  have hword : Protocol.wordOfBytes low high = Protocol.wordOfBytes 0 0 ↔ low = 0 ∧ high = 0 :=
    wordOfBytes_inj
  constructor
  · rintro (hrecord | ⟨payload, hdecode⟩)
    · simp only [adminRecord, List.cons.injEq, true_and, and_true] at hrecord
      exact hword.2 hrecord
    · cases hdecode
  · intro hzero
    obtain ⟨rfl, rfl⟩ := hword.1 hzero
    exact .inl rfl

theorem NamesPort.not_namesNoPort {data : List UInt8} {port : Nat} (h : NamesPort data port) :
    ¬NamesNoPort data := by
  obtain ⟨low, high, rfl, hport, hne⟩ := h
  rw [namesNoPort_adminRecord]
  exact fun hzero => hne (hport.trans hzero)

theorem readAdminPort_of_namesPort {data : List UInt8} {port : Nat} (h : NamesPort data port) :
    readAdminPort data = .ok ⟨port⟩ := by
  obtain ⟨low, high, rfl, hport, hne⟩ := h
  have hword : port = Protocol.wordOfBytes low high := hport
  rw [readAdminPort_adminRecord, ← hword, if_neg hne]

theorem readAdminPort_of_namesNoPort {data : List UInt8} (h : NamesNoPort data) :
    ∃ reason, readAdminPort data = .error (.notFound reason) := by
  rcases h with rfl | ⟨payload, hdecode⟩
  · exact ⟨.zeroAdminPort, rfl⟩
  · have hnot : ∀ version low high, data ≠ [0x05, 0x06, 0x00, version, low, high] := by
      rintro version low high rfl
      rw [decode_of_six] at hdecode
      cases hdecode
    rcases readAdminPort_of_not_six hnot with ⟨_, -, hread⟩ | ⟨cause, fault, hfault, -⟩
    · exact ⟨_, hread⟩
    · rw [hfault] at hdecode
      cases hdecode

theorem readAdminPort_of_neither {data : List UInt8} (hport : ∀ port, ¬NamesPort data port)
    (hnone : ¬NamesNoPort data) : ∃ fault, readAdminPort data = .error (.malformed fault) := by
  by_cases hsix : ∃ version low high, data = [0x05, 0x06, 0x00, version, low, high]
  · obtain ⟨version, low, high, rfl⟩ := hsix
    refine ⟨.adminVersion version, ?_⟩
    rw [readAdminPort_of_six, if_pos]
    -- With the right version the record would name a port, or none.
    rintro rfl
    by_cases hzero : Protocol.wordOfBytes low high = 0
    · exact hnone (namesNoPort_adminRecord.2 hzero)
    · exact hport _ (namesPort_adminRecord.2 ⟨rfl, hzero⟩)
  · have hnot : ∀ version low high, data ≠ [0x05, 0x06, 0x00, version, low, high] :=
      fun version low high hdata => hsix ⟨version, low, high, hdata⟩
    rcases readAdminPort_of_not_six hnot with ⟨payload, hdecode, -⟩ | ⟨_, fault, -, hread⟩
    · exact absurd (.inr ⟨payload, hdecode⟩) hnone
    · exact ⟨fault, hread⟩

theorem NamesPort.eq {data : List UInt8} {port other : Nat} (h : NamesPort data port)
    (hother : NamesPort data other) : port = other := by
  have hread := readAdminPort_of_namesPort h
  rw [readAdminPort_of_namesPort hother] at hread
  cases hread
  rfl

theorem read_of_decode_error {source : String} {data : List UInt8} {fault : Frame.Fault}
    (h : Frame.decode data = .error fault) :
    read source data = ([], .error (.malformed (.frame fault))) := by
  rw [read, h]

/-- What names a port is no framed answer, so no instances are read from it. -/
theorem NamesPort.not_instances {data : List UInt8} {port : Nat} (h : NamesPort data port) :
    (∀ payload, Frame.decode data ≠ .ok payload) ∧
      ∀ source instances, (read source data).2 ≠ .ok instances := by
  obtain ⟨low, high, rfl, -⟩ := h
  have hdecode := decode_of_six 0x01 low high
  constructor
  · intro payload hpayload
    rw [adminRecord, hdecode] at hpayload
    cases hpayload
  · intro source instances hread
    rw [adminRecord, read_of_decode_error hdecode] at hread
    cases hread

/-- A port is read from its record and from nothing else. That there is none is read from the record
of port zero and from every framed answer. All else is malformed. No datagram is of two of these
kinds, and what names a port says nothing about instances. -/
theorem readAdminPort_classifies (data : List UInt8) :
    (∀ port, readAdminPort data = .ok ⟨port⟩ ↔ NamesPort data port) ∧
    ((∃ reason, readAdminPort data = .error (.notFound reason)) ↔ NamesNoPort data) ∧
    ((∃ fault, readAdminPort data = .error (.malformed fault)) ↔
      (∀ port, ¬NamesPort data port) ∧ ¬NamesNoPort data) ∧
    ∀ port, NamesPort data port →
      ¬NamesNoPort data ∧ (∀ payload, Frame.decode data ≠ .ok payload) ∧
        ∀ source instances, (read source data).2 ≠ .ok instances := by
  by_cases hnone : NamesNoPort data
  · obtain ⟨reason, hread⟩ := readAdminPort_of_namesNoPort hnone
    have hport : ∀ port, ¬NamesPort data port := fun port h => h.not_namesNoPort hnone
    simp [hread, hnone, hport]
  · by_cases hnamed : ∃ port, NamesPort data port
    · obtain ⟨port, hport⟩ := hnamed
      have hread := readAdminPort_of_namesPort hport
      have hiff : ∀ other, NamesPort data other ↔ port = other :=
        fun other => ⟨hport.eq, fun heq => heq ▸ hport⟩
      simp [hread, hnone, hiff, hport.not_instances]
    · have hport : ∀ port, ¬NamesPort data port := fun port h => hnamed ⟨port, h⟩
      obtain ⟨fault, hread⟩ := readAdminPort_of_neither hport hnone
      simp [hread, hnone, hport]

/-- Six bytes each: the record of a port, the record of another version, and a framed text. -/
theorem readAdminPort_classifies_six :
    readAdminPort [0x05, 0x06, 0x00, 0x01, 0x9a, 0x05] = .ok ⟨1434⟩ ∧
    (∃ fault, readAdminPort [0x05, 0x06, 0x00, 0x02, 0x9a, 0x05] = .error (.malformed fault)) ∧
    ∃ reason, readAdminPort [0x05, 0x03, 0x00, 0x01, 0x9a, 0x05] = .error (.notFound reason) := by
  have hport : NamesPort [0x05, 0x06, 0x00, 0x01, 0x9a, 0x05] 1434 :=
    ⟨0x9a, 0x05, rfl, rfl, by decide⟩
  have hframe : NamesNoPort [0x05, 0x03, 0x00, 0x01, 0x9a, 0x05] := .inr ⟨_, rfl⟩
  refine ⟨((readAdminPort_classifies _).1 1434).2 hport, ?_,
    (readAdminPort_classifies _).2.1.2 hframe⟩
  refine (readAdminPort_classifies _).2.2.1.2 ⟨?_, ?_⟩
  · rintro port ⟨low, high, hrecord, -⟩
    simp [adminRecord] at hrecord
  · rintro (hrecord | ⟨payload, hdecode⟩)
    · simp [adminRecord] at hrecord
    · cases hdecode

end SqlResolution.Response
