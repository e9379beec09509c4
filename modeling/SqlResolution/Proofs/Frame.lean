import SqlResolution.Frame

/-!
# Frames

A frame is the opcode, the length of the data in two bytes, and the data. Data of at
most 65535 bytes has one, longer data has none, and what reads frames takes nothing
else. The length is compared with what is there and must be met exactly, so a frame
that was cut short is refused wherever it was cut, and so is one that goes on.
-/

namespace SqlResolution.Frame

/-! ## What a frame is -/

theorem encode_of_length_le {payload : List UInt8} (h : payload.length ≤ 65535) :
    encode payload =
      .ok (Protocol.responseOpcode :: Protocol.bytesOfWord payload.length ++ payload) :=
  if_neg (show ¬ 65535 < payload.length by omega)

theorem encode_eq_error_iff {payload : List UInt8} {fault : TooLarge} :
    encode payload = .error fault ↔ 65535 < payload.length ∧ fault = ⟨payload.length⟩ := by
  by_cases hsize : 65535 < payload.length
  · have hencode : encode payload = .error ⟨payload.length⟩ := if_pos hsize
    rw [hencode, Except.error.injEq, eq_comm]
    exact (and_iff_right hsize).symm
  · rw [encode_of_length_le (by omega)]
    exact iff_of_false nofun fun h => hsize h.1

theorem encode_eq_ok_iff {payload data : List UInt8} :
    encode payload = .ok data ↔
      ∃ low high, Protocol.wordOfBytes low high = payload.length ∧
        data = Protocol.responseOpcode :: low :: high :: payload := by
  constructor
  · intro h
    have hsize : payload.length ≤ 65535 := by
      refine Nat.le_of_not_lt fun hlarge => ?_
      rw [encode_eq_error_iff.2 ⟨hlarge, rfl⟩] at h
      cases h
    rw [encode_of_length_le hsize] at h
    obtain ⟨low, high, hbytes, hword⟩ :=
      Protocol.wordOfBytes_bytesOfWord (Nat.lt_succ_of_le hsize)
    rw [hbytes] at h
    cases h
    exact ⟨low, high, hword, rfl⟩
  · rintro ⟨low, high, hword, rfl⟩
    have hlt := Protocol.wordOfBytes_lt low high
    rw [encode_of_length_le (by omega), ← hword, Protocol.bytesOfWord_wordOfBytes]
    rfl

/-! ## Reading it -/

/-- Behind the size field, everything depends on how much follows. -/
theorem decode_cons (low high : UInt8) (body : List UInt8) :
    decode (Protocol.responseOpcode :: low :: high :: body) =
      if body.length < Protocol.wordOfBytes low high then
        .error (.truncated (Protocol.wordOfBytes low high) body.length)
      else if Protocol.wordOfBytes low high < body.length then
        .error (.surplus (Protocol.wordOfBytes low high) body.length)
      else .ok body := rfl

theorem decode_of_encode {payload data : List UInt8} (h : encode payload = .ok data) :
    decode data = .ok payload := by
  obtain ⟨low, high, hword, rfl⟩ := encode_eq_ok_iff.1 h
  rw [decode_cons, if_neg (by omega), if_neg (by omega)]

theorem encode_of_decode {payload data : List UInt8} (h : decode data = .ok payload) :
    encode payload = .ok data := by
  match data with
  | [] => cases h
  | opcode :: rest =>
    by_cases hopcode : opcode = Protocol.responseOpcode
    · subst hopcode
      match rest with
      | [] | [_] => cases h
      | low :: high :: body =>
        rw [decode_cons] at h
        split at h
        · cases h
        split at h
        · cases h
        cases h
        exact encode_eq_ok_iff.2 ⟨low, high, by omega, rfl⟩
    · have hrefused : decode (opcode :: rest) = .error (.opcode opcode) := if_pos hopcode
      rw [hrefused] at h
      cases h

/-- What is wrong with the first so many bytes of a frame, by the length of its data. -/
def Fault.ofCut (size : Nat) : Nat → Fault
  | 0 => .empty
  | 1 | 2 => .noSize
  | carried + 3 => .truncated size carried

theorem decode_of_cut {payload data short : List UInt8} (h : encode payload = .ok data)
    (hshort : short <+: data) (hne : short ≠ data) :
    decode short = .error (.ofCut payload.length short.length) := by
  obtain ⟨low, high, hword, rfl⟩ := encode_eq_ok_iff.1 h
  have hlt := Nat.lt_of_le_of_ne hshort.length_le (mt hshort.eq_of_length hne)
  match short, hshort with
  | [], _ => rfl
  | [_], hshort | [_, _], hshort =>
    obtain ⟨rfl, -⟩ := List.cons_prefix_cons.1 hshort
    rfl
  | _ :: _ :: _ :: body, hshort =>
    simp only [List.cons_prefix_cons] at hshort
    obtain ⟨rfl, rfl, rfl, -⟩ := hshort
    simp only [List.length_cons] at hlt
    rw [decode_cons, if_pos (by omega), hword]
    rfl

theorem decode_append {payload data rest : List UInt8} (h : encode payload = .ok data)
    (hrest : rest ≠ []) :
    decode (data ++ rest) =
      .error (.surplus payload.length (payload.length + rest.length)) := by
  obtain ⟨low, high, hword, rfl⟩ := encode_eq_ok_iff.1 h
  have hpos := List.length_pos_iff.2 hrest
  simp only [List.cons_append]
  rw [decode_cons, if_neg (by simp; omega), if_pos (by simp; omega), hword, List.length_append]

/-! ## The two together -/

/-- Frames and data of at most 65535 bytes stand for each other, one for one. Whatever is no frame
is refused, and a frame that was cut or that goes on is none. -/
theorem frames_biject (payload data : List UInt8) :
    (decode data = .ok payload ↔ encode payload = .ok data) ∧
    (∀ fault, encode payload = .error fault ↔
      65535 < payload.length ∧ fault = ⟨payload.length⟩) ∧
    ((∃ fault, decode data = .error fault) ↔ ∀ other, encode other ≠ .ok data) ∧
    (encode payload = .ok data →
      (∀ short, short <+: data → short ≠ data →
        decode short = .error (.ofCut payload.length short.length)) ∧
      ∀ rest, rest ≠ [] → decode (data ++ rest) =
        .error (.surplus payload.length (payload.length + rest.length))) := by
  refine ⟨⟨encode_of_decode, decode_of_encode⟩, fun fault => encode_eq_error_iff, ?_, ?_⟩
  · constructor
    · rintro ⟨fault, hfault⟩ other hother
      rw [decode_of_encode hother] at hfault
      cases hfault
    · intro hnone
      cases hdecode : decode data with
      | ok other => exact absurd (encode_of_decode hdecode) (hnone other)
      | error fault => exact ⟨fault, rfl⟩
  · intro h
    exact ⟨fun short => decode_of_cut h, fun rest => decode_append h⟩

/-- A frame of one byte of data: whole, without that byte, and with another one behind it; and data
that is one byte too long for a frame. -/
theorem frames_biject_oneByte :
    decode [0x05, 0x01, 0x00, 0x41] = .ok [0x41] ∧
    decode [0x05, 0x01, 0x00] = .error (.truncated 1 0) ∧
    decode [0x05, 0x01, 0x00, 0x41, 0x42] = .error (.surplus 1 2) ∧
    encode (List.replicate 65536 0x41) = .error ⟨65536⟩ := by
  have hencode : encode [0x41] = .ok [0x05, 0x01, 0x00, 0x41] := rfl
  obtain ⟨hiff, -, -, hframe⟩ := frames_biject [0x41] [0x05, 0x01, 0x00, 0x41]
  obtain ⟨hcut, hmore⟩ := hframe hencode
  obtain ⟨-, hlong, -, -⟩ := frames_biject (List.replicate 65536 0x41) []
  refine ⟨hiff.2 hencode, ?_, ?_, (hlong ⟨65536⟩).2 ⟨?_, ?_⟩⟩
  · exact hcut [0x05, 0x01, 0x00] (by decide) (by decide)
  · exact hmore [0x42] (by decide)
  · rw [List.length_replicate]
    decide
  · rw [List.length_replicate]

end SqlResolution.Frame
