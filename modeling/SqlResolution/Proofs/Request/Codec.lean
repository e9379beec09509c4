import SqlResolution.Proofs.Request

/-!
# What is read can be written

A datagram is a request if it has one of three forms: the opcode that asks for all instances and
nothing behind it, or the opcode for an instance or for an administration port with the bytes of a
name. The zero byte behind a name may be missing. Since no byte of a name is zero, a zero byte at
the end is never part of it, and taking off one is all the freedom there is: what is read as a
request and written again is the datagram itself, with the zero byte put where it was missing.

So a request has one form that is written and at most one other that is read, and two requests
have none in common.
-/

namespace SqlResolution.Request

/-- Bytes that spell a name: 1 to 32 of them, none of them zero and none beyond ASCII. -/
structure IsNameBytes (bytes : List UInt8) : Prop where
  nonempty : bytes ≠ []
  short : bytes.length ≤ 32
  inside : ∀ byte ∈ bytes, 0x01 ≤ byte ∧ byte ≤ 0x7f

/-- The datagrams that are requests. -/
inductive IsForm : List UInt8 → Prop where
  | enumerate : IsForm [0x02]
  | named {bytes : List UInt8} (h : IsNameBytes bytes) : IsForm (0x04 :: bytes)
  | namedEnded {bytes : List UInt8} (h : IsNameBytes bytes) : IsForm (0x04 :: bytes ++ [0x00])
  | adminPort {bytes : List UInt8} (h : IsNameBytes bytes) : IsForm (0x0f :: 0x01 :: bytes)
  | adminPortEnded {bytes : List UInt8} (h : IsNameBytes bytes) :
      IsForm (0x0f :: 0x01 :: bytes ++ [0x00])

/-- A datagram with the zero byte at its end, where one belongs. -/
def terminated (data : List UInt8) : List UInt8 :=
  if data = [0x02] ∨ data.getLast? = some 0x00 then data else data ++ [0x00]

/-! ## Bytes and characters -/

theorem inside_iff {byte : UInt8} : 0x01 ≤ byte ∧ byte ≤ 0x7f ↔ byte < 128 ∧ byte ≠ 0 := by
  rw [UInt8.le_iff_toNat_le, UInt8.le_iff_toNat_le, UInt8.lt_iff_toNat_lt, ne_eq, ← UInt8.toNat_inj]
  show 1 ≤ byte.toNat ∧ byte.toNat ≤ 127 ↔ byte.toNat < 128 ∧ ¬byte.toNat = 0
  omega

theorem toNat_ofNat_byte {byte : UInt8} (h : byte < 128) :
    (Char.ofNat byte.toNat).toNat = byte.toNat := by
  rw [UInt8.lt_iff_toNat_lt] at h
  have hvalid : byte.toNat.isValidChar := .inl (Nat.lt_trans h (by decide))
  rw [Char.ofNat, dif_pos hvalid]
  rfl

theorem isAscii_ofNat_byte {byte : UInt8} (h : byte < 128) :
    isAscii (Char.ofNat byte.toNat) = true := by
  rw [isAscii, toNat_ofNat_byte h, decide_eq_true_eq]
  exact UInt8.lt_iff_toNat_lt.1 h

theorem ofNat_byte_eq_zero_iff {byte : UInt8} (h : byte < 128) :
    Char.ofNat byte.toNat = '\x00' ↔ byte = 0 := by
  constructor
  · intro hzero
    have hnat := toNat_ofNat_byte h
    rw [hzero] at hnat
    exact UInt8.toNat_inj.1 hnat.symm
  · rintro rfl
    rfl

/-! ## Names -/

def nameOfBytes (bytes : List UInt8) : String :=
  String.ofList (bytes.map fun byte => Char.ofNat byte.toNat)

theorem bytesOfName_nameOfBytes {bytes : List UInt8} (h : ∀ byte ∈ bytes, byte < 128) :
    bytesOfName (nameOfBytes bytes) = bytes := by
  rw [bytesOfName, nameOfBytes, String.toList_ofList, List.map_map]
  conv_rhs => rw [← List.map_id bytes]
  refine List.map_congr_left ?_
  intro byte hbyte
  show (Char.ofNat byte.toNat).toNat.toUInt8 = byte
  rw [toNat_ofNat_byte (h byte hbyte)]
  simp

/-- The names that can be asked for are those that these bytes spell. -/
theorem isFitName_nameOfBytes {bytes : List UInt8} (h : ∀ byte ∈ bytes, byte < 128) :
    IsFitName (nameOfBytes bytes) ↔ IsNameBytes bytes := by
  have hlist : (nameOfBytes bytes).toList = bytes.map fun byte => Char.ofNat byte.toNat := by
    rw [nameOfBytes, String.toList_ofList]
  constructor
  · intro hfit
    obtain ⟨hnonempty, hshort, -, hzero⟩ := hfit
    rw [hlist] at hnonempty hshort hzero
    rw [List.length_map] at hshort
    refine ⟨by simpa using hnonempty, hshort, ?_⟩
    intro byte hbyte
    have hlt := h byte hbyte
    have hne : byte ≠ 0 := by
      intro heq
      refine hzero (List.mem_map.2 ⟨byte, hbyte, ?_⟩)
      exact (ofNat_byte_eq_zero_iff hlt).2 heq
    exact inside_iff.2 ⟨hlt, hne⟩
  · intro hbytes
    constructor
    case nonempty => simpa [hlist] using hbytes.nonempty
    case short =>
      rw [hlist, List.length_map]
      exact hbytes.short
    case ascii =>
      intro c hc
      rw [hlist] at hc
      obtain ⟨byte, hbyte, rfl⟩ := List.mem_map.1 hc
      exact isAscii_ofNat_byte (h byte hbyte)
    case noZero =>
      intro hmem
      rw [hlist] at hmem
      obtain ⟨byte, hbyte, hzero⟩ := List.mem_map.1 hmem
      rw [ofNat_byte_eq_zero_iff (h byte hbyte)] at hzero
      exact (inside_iff.1 (hbytes.inside byte hbyte)).2 hzero

theorem IsNameBytes.lt {bytes : List UInt8} (h : IsNameBytes bytes) :
    ∀ byte ∈ bytes, byte < 128 :=
  fun byte hbyte => (inside_iff.1 (h.inside byte hbyte)).1

theorem IsNameBytes.getLast?_ne {bytes : List UInt8} (h : IsNameBytes bytes) :
    bytes.getLast? ≠ some 0 := by
  intro hlast
  exact (inside_iff.1 (h.inside 0 (List.mem_of_getLast? hlast))).2 rfl

/-! ## Reading a name -/

theorem dropTerminator_of_isNameBytes {bytes : List UInt8} (h : IsNameBytes bytes) :
    dropTerminator bytes = bytes :=
  if_neg h.getLast?_ne

/-- One zero byte at the end makes no difference, and there is no other freedom. -/
theorem isNameBytes_dropTerminator {bytes : List UInt8} :
    IsNameBytes (dropTerminator bytes) ↔
      IsNameBytes bytes ∨ ∃ name, IsNameBytes name ∧ bytes = name ++ [0] := by
  constructor
  · intro h
    rw [dropTerminator] at h
    split at h
    next hlast =>
      obtain ⟨name, rfl⟩ := List.getLast?_eq_some_iff.1 hlast
      rw [List.dropLast_concat] at h
      exact .inr ⟨name, h, rfl⟩
    next => exact .inl h
  · rintro (h | ⟨name, h, rfl⟩)
    · rwa [dropTerminator_of_isNameBytes h]
    · rwa [dropTerminator_concat_zero]

theorem decodeName_of_isNameBytes {bytes : List UInt8} (h : IsNameBytes (dropTerminator bytes)) :
    decodeName bytes = .ok (nameOfBytes (dropTerminator bytes)) := by
  have hascii : (dropTerminator bytes).all (· < 128) = true :=
    List.all_eq_true.2 fun byte hbyte => decide_eq_true (h.lt byte hbyte)
  have hfit := (isFitName_nameOfBytes h.lt).2 h
  rw [decodeName]
  dsimp only
  rw [hascii, ← nameOfBytes, encodeName_of_isFitName hfit]
  rfl

theorem isNameBytes_of_decodeName {bytes : List UInt8} {name : String}
    (h : decodeName bytes = .ok name) : IsNameBytes (dropTerminator bytes) := by
  rw [decodeName] at h
  dsimp only at h
  cases hascii : (dropTerminator bytes).all (· < 128) with
  | false =>
    rw [hascii] at h
    cases h
  | true =>
    have hlt : ∀ byte ∈ dropTerminator bytes, byte < 128 :=
      fun byte hbyte => of_decide_eq_true (List.all_eq_true.1 hascii byte hbyte)
    rw [hascii, ← nameOfBytes] at h
    refine (isFitName_nameOfBytes hlt).1 ?_
    cases hencode : encodeName (nameOfBytes (dropTerminator bytes)) with
    | ok written => exact isFitName_of_encodeName hencode
    | error fault =>
      rw [hencode] at h
      cases h

theorem decodeName_eq_ok_iff {bytes : List UInt8} {name : String} :
    decodeName bytes = .ok name ↔
      IsNameBytes (dropTerminator bytes) ∧ name = nameOfBytes (dropTerminator bytes) := by
  constructor
  · intro h
    have hbytes := isNameBytes_of_decodeName h
    rw [decodeName_of_isNameBytes hbytes] at h
    exact ⟨hbytes, (Except.ok.inj h).symm⟩
  · rintro ⟨hbytes, rfl⟩
    exact decodeName_of_isNameBytes hbytes

theorem isFitName_iff {name : String} :
    IsFitName name ↔ ∃ bytes, IsNameBytes bytes ∧ name = nameOfBytes bytes := by
  constructor
  · intro h
    have hread := decodeName_eq_ok_iff.1 (decodeName_bytesOfName h)
    rw [dropTerminator_concat_zero] at hread
    exact ⟨_, hread⟩
  · rintro ⟨bytes, hbytes, rfl⟩
    exact (isFitName_nameOfBytes hbytes.lt).2 hbytes

/-! ## Reading a request -/

theorem map_eq_ok_iff {ε α β : Type} {f : α → β} {result : Except ε α} {value : β} :
    result.map f = .ok value ↔ ∃ found, result = .ok found ∧ value = f found := by
  cases result with
  | error fault => simp [Except.map]
  | ok found => simp [Except.map, eq_comm]

/-- Every opcode but three is refused, and every version but one. -/
theorem decode_eq_ok_iff {data : List UInt8} {request : Request} :
    decode data = .ok request ↔
      (data = [Protocol.enumerateOpcode] ∧ request = enumerate) ∨
      (∃ bytes name, data = Protocol.instanceOpcode :: bytes ∧ decodeName bytes = .ok name ∧
        request = named name) ∨
      ∃ bytes name, data = Protocol.adminOpcode :: Protocol.adminVersion :: bytes ∧
        decodeName bytes = .ok name ∧ request = adminPort name := by
  constructor
  · intro h
    match data with
    | [] => cases h
    | opcode :: rest =>
      rw [decode.eq_def] at h
      dsimp only at h
      split at h
      next hopcode =>
        split at h
        next hrest =>
          cases h
          exact .inl ⟨by rw [hopcode, hrest], rfl⟩
        next => cases h
      next =>
        split at h
        next hopcode =>
          obtain ⟨name, hname, hrequest⟩ := map_eq_ok_iff.1 h
          exact .inr (.inl ⟨rest, name, by rw [hopcode], hname, hrequest⟩)
        next =>
          split at h
          next hopcode =>
            match rest with
            | [] => cases h
            | version :: bytes =>
              dsimp only at h
              split at h
              next hversion =>
                obtain ⟨name, hname, hrequest⟩ := map_eq_ok_iff.1 h
                exact .inr (.inr ⟨bytes, name, by rw [hopcode, hversion], hname, hrequest⟩)
              next => cases h
          next => cases h
  · rintro (⟨rfl, rfl⟩ | ⟨bytes, name, rfl, hname, rfl⟩ | ⟨bytes, name, rfl, hname, rfl⟩)
    · rfl
    · exact map_eq_ok_iff.2 ⟨name, hname, rfl⟩
    · exact map_eq_ok_iff.2 ⟨name, hname, rfl⟩

theorem isForm_iff {data : List UInt8} :
    IsForm data ↔
      data = [Protocol.enumerateOpcode] ∨
      (∃ bytes, data = Protocol.instanceOpcode :: bytes ∧ IsNameBytes (dropTerminator bytes)) ∨
      ∃ bytes, data = Protocol.adminOpcode :: Protocol.adminVersion :: bytes ∧
        IsNameBytes (dropTerminator bytes) := by
  constructor
  · intro h
    cases h with
    | enumerate => exact .inl rfl
    | @named bytes h => exact .inr (.inl ⟨bytes, rfl, isNameBytes_dropTerminator.2 (.inl h)⟩)
    | @namedEnded bytes h =>
      exact .inr (.inl ⟨bytes ++ [0], rfl, isNameBytes_dropTerminator.2 (.inr ⟨bytes, h, rfl⟩)⟩)
    | @adminPort bytes h => exact .inr (.inr ⟨bytes, rfl, isNameBytes_dropTerminator.2 (.inl h)⟩)
    | @adminPortEnded bytes h =>
      exact .inr (.inr ⟨bytes ++ [0], rfl, isNameBytes_dropTerminator.2 (.inr ⟨bytes, h, rfl⟩)⟩)
  · rintro (rfl | ⟨bytes, rfl, hbytes⟩ | ⟨bytes, rfl, hbytes⟩)
    · exact .enumerate
    · rcases isNameBytes_dropTerminator.1 hbytes with h | ⟨name, h, rfl⟩
      · exact .named h
      · exact .namedEnded h
    · rcases isNameBytes_dropTerminator.1 hbytes with h | ⟨name, h, rfl⟩
      · exact .adminPort h
      · exact .adminPortEnded h

theorem exists_decode_iff {data : List UInt8} :
    (∃ request, decode data = .ok request) ↔ IsForm data := by
  simp only [decode_eq_ok_iff, isForm_iff, decodeName_eq_ok_iff]
  constructor
  · rintro ⟨_, ⟨hdata, -⟩ | ⟨bytes, name, hdata, ⟨hbytes, -⟩, -⟩ |
      ⟨bytes, name, hdata, ⟨hbytes, -⟩, -⟩⟩
    · exact .inl hdata
    · exact .inr (.inl ⟨bytes, hdata, hbytes⟩)
    · exact .inr (.inr ⟨bytes, hdata, hbytes⟩)
  · rintro (hdata | ⟨bytes, hdata, hbytes⟩ | ⟨bytes, hdata, hbytes⟩)
    · exact ⟨_, .inl ⟨hdata, rfl⟩⟩
    · exact ⟨_, .inr (.inl ⟨bytes, _, hdata, ⟨hbytes, rfl⟩, rfl⟩)⟩
    · exact ⟨_, .inr (.inr ⟨bytes, _, hdata, ⟨hbytes, rfl⟩, rfl⟩)⟩

/-! ## Writing it again -/

theorem terminated_append {front bytes : List UInt8} (hbytes : bytes ≠ [])
    (hfront : front ++ bytes ≠ [0x02]) :
    terminated (front ++ bytes) = front ++ (dropTerminator bytes ++ [0x00]) := by
  have hlast : (front ++ bytes).getLast? = bytes.getLast? := by
    rw [List.getLast?_append, List.getLast?_eq_some_getLast hbytes, Option.some_or]
  rw [terminated, hlast, dropTerminator]
  by_cases hzero : bytes.getLast? = some 0x00
  · rw [if_pos (.inr hzero), if_pos hzero]
    obtain ⟨name, rfl⟩ := List.getLast?_eq_some_iff.1 hzero
    rw [List.dropLast_concat]
  · rw [if_neg, if_neg hzero, List.append_assoc]
    rintro (h | h)
    · exact hfront h
    · exact hzero h

theorem encodeName_of_decodeName {bytes : List UInt8} {name : String}
    (h : decodeName bytes = .ok name) :
    bytes ≠ [] ∧ encodeName name = .ok (dropTerminator bytes ++ [0x00]) := by
  obtain ⟨hbytes, rfl⟩ := decodeName_eq_ok_iff.1 h
  constructor
  · rintro rfl
    exact hbytes.nonempty rfl
  · rw [encodeName_of_isFitName (isFitName_iff.2 ⟨_, hbytes, rfl⟩),
      bytesOfName_nameOfBytes hbytes.lt]

theorem encode_of_decode {data : List UInt8} {request : Request} (h : decode data = .ok request) :
    encode request = .ok (terminated data) := by
  rcases decode_eq_ok_iff.1 h with ⟨rfl, rfl⟩ | ⟨bytes, name, rfl, hname, rfl⟩ |
    ⟨bytes, name, rfl, hname, rfl⟩
  · rfl
  · obtain ⟨hne, hwritten⟩ := encodeName_of_decodeName hname
    have hdata : terminated ([Protocol.instanceOpcode] ++ bytes) = _ :=
      terminated_append hne (by simp [hne])
    rw [encode, hwritten]
    exact congrArg Except.ok hdata.symm
  · obtain ⟨hne, hwritten⟩ := encodeName_of_decodeName hname
    have hdata : terminated ([Protocol.adminOpcode, Protocol.adminVersion] ++ bytes) = _ :=
      terminated_append hne (by simp)
    rw [encode, hwritten]
    exact congrArg Except.ok hdata.symm

theorem exists_encode_iff {request : Request} :
    (∃ written, request.encode = .ok written) ↔ request.IsFit := by
  constructor
  · rintro ⟨written, hwritten⟩
    by_contra hunfit
    obtain ⟨fault, hfault⟩ := encode_of_not_isFit hunfit
    rw [hwritten] at hfault
    cases hfault
  · intro hfit
    obtain ⟨written, hwritten, -⟩ := decode_encode_of_isFit hfit
    exact ⟨written, hwritten⟩

theorem decode_of_encode {request : Request} {written : List UInt8}
    (h : request.encode = .ok written) : decode written = .ok request := by
  obtain ⟨other, hother, hread⟩ := decode_encode_of_isFit (exists_encode_iff.1 ⟨written, h⟩)
  rw [h] at hother
  cases hother
  exact hread

theorem isFit_iff {request : Request} :
    request.IsFit ↔ request = enumerate ∨ ∃ bytes, IsNameBytes bytes ∧
      (request = named (nameOfBytes bytes) ∨ request = adminPort (nameOfBytes bytes)) := by
  cases request with
  | enumerate => simp [IsFit, name?]
  | named name => simp [IsFit, name?, isFitName_iff]
  | adminPort name => simp [IsFit, name?, isFitName_iff]

/-- A request is written if it asks for all instances, or for something about a name of 1 to 32
bytes from 0x01 to 0x7f; what is written is read as that request and is written for no other. A
datagram is read if it has one of the forms of a request, and is refused otherwise; what is read
and written again is the datagram with the zero byte at its end. -/
theorem decode_inverts_encode (request other : Request) (data : List UInt8) :
    ((∃ written, request.encode = .ok written) ↔
      request = enumerate ∨ ∃ bytes, IsNameBytes bytes ∧
        (request = named (nameOfBytes bytes) ∨ request = adminPort (nameOfBytes bytes))) ∧
    (request.encode = .ok data → decode data = .ok request) ∧
    (request.encode = .ok data → other.encode = .ok data → request = other) ∧
    ((∃ asked, decode data = .ok asked) ↔ IsForm data) ∧
    (¬IsForm data ↔ ∃ fault, decode data = .error fault) ∧
    (decode data = .ok request → request.encode = .ok (terminated data)) := by
  refine ⟨exists_encode_iff.trans isFit_iff, decode_of_encode, ?_, exists_decode_iff, ?_,
    encode_of_decode⟩
  · intro hrequest hother
    have hread := decode_of_encode hrequest
    rw [decode_of_encode hother] at hread
    cases hread
    rfl
  · rw [← exists_decode_iff]
    cases decode data <;> simp

/-- A name of 32 bytes that ends where the datagram does: it is read, and gets its zero byte when it
is written. One byte more, and it is no request. -/
theorem decode_inverts_encode_unended :
    (∃ asked, decode (0x0f :: 0x01 :: List.replicate 32 0x41) = .ok asked ∧
      asked.encode = .ok (0x0f :: 0x01 :: List.replicate 32 0x41 ++ [0x00])) ∧
    ∃ fault, decode (0x0f :: 0x01 :: List.replicate 33 0x41) = .error fault := by
  have hname : IsNameBytes (List.replicate 32 0x41) := by
    refine ⟨by decide, by decide, ?_⟩
    intro byte hbyte
    rw [List.eq_of_mem_replicate hbyte]
    decide
  obtain ⟨asked, hasked⟩ :=
    (decode_inverts_encode .enumerate .enumerate _).2.2.2.1.2 (.adminPort hname)
  refine ⟨⟨asked, hasked, (decode_inverts_encode asked .enumerate _).2.2.2.2.2 hasked⟩, ?_⟩
  refine (decode_inverts_encode .enumerate .enumerate _).2.2.2.2.1.1 ?_
  rw [isForm_iff]
  rintro (h | ⟨bytes, h, -⟩ | ⟨bytes, h, hbytes⟩)
  · cases h
  · cases h
  · cases h
    exact absurd hbytes.short (by decide)

end SqlResolution.Request
