import Mathlib.Tactic.ByContra
import SqlResolution.Request

/-!
# What is written is what was asked

A name is fit to be asked for if it has 1 to 32 characters, each of them ASCII and none of
them the zero character. Just these names are written, a byte for each character and the zero
byte behind the last. There is no other zero byte among them, and so whoever takes it off the
end has the bytes of the name, and reads the request that was asked.
-/

namespace SqlResolution.Request

/-- A name that can be asked for. -/
structure IsFitName (name : String) : Prop where
  nonempty : name.toList ≠ []
  short : name.toList.length ≤ Protocol.maxNameLength
  ascii : ∀ c ∈ name.toList, isAscii c = true
  noZero : '\x00' ∉ name.toList

/-- A request that can be asked: if it has a name, that is fit. -/
def IsFit (request : Request) : Prop :=
  ∀ name, request.name? = some name → IsFitName name

/-! ## Writing a name -/

def bytesOfName (name : String) : List UInt8 :=
  name.toList.map (·.toNat.toUInt8)

theorem encodeName_of_isFitName {name : String} (h : IsFitName name) :
    encodeName name = .ok (bytesOfName name ++ [0]) := by
  have hascii : name.toList.all isAscii = true := List.all_eq_true.2 h.ascii
  have hzero : name.toList.contains '\x00' = false := by
    rw [Bool.eq_false_iff, ne_eq, List.contains_iff_mem]
    exact h.noZero
  rw [encodeName, if_neg h.nonempty, if_neg (Nat.not_lt.2 h.short), hascii, hzero]
  rfl

/-- What is written was fit, and each of the four things that can be wrong with a name is found. -/
theorem isFitName_of_encodeName {name : String} {bytes : List UInt8}
    (h : encodeName name = .ok bytes) : IsFitName name := by
  rw [encodeName] at h
  split at h
  · cases h
  next hnonempty =>
    split at h
    · cases h
    next hshort =>
      split at h
      · cases h
      next hascii =>
        split at h
        · cases h
        next hzero =>
          rw [Bool.not_eq_true, Bool.not_eq_false'] at hascii
          refine ⟨hnonempty, Nat.not_lt.1 hshort, List.all_eq_true.1 hascii, ?_⟩
          exact fun hmem => hzero (List.contains_iff_mem.2 hmem)

theorem encodeName_of_not_isFitName {name : String} (h : ¬IsFitName name) :
    ∃ fault, encodeName name = .error fault := by
  cases hencode : encodeName name with
  | ok bytes => exact absurd (isFitName_of_encodeName hencode) h
  | error fault => exact ⟨fault, rfl⟩

/-! ## Reading it back -/

theorem byte_lt_of_isAscii {c : Char} (h : isAscii c = true) : c.toNat.toUInt8 < 128 := by
  have hlt : c.toNat < 128 := of_decide_eq_true h
  rw [UInt8.lt_iff_toNat_lt, UInt8.toNat_ofNat']
  show c.toNat % 256 < 128
  omega

theorem ofNat_byte_of_isAscii {c : Char} (h : isAscii c = true) :
    Char.ofNat c.toNat.toUInt8.toNat = c := by
  have hlt : c.toNat < 128 := of_decide_eq_true h
  have hbyte : c.toNat.toUInt8.toNat = c.toNat := by
    rw [UInt8.toNat_ofNat']
    omega
  rw [hbyte, Char.ofNat_toNat]

theorem dropTerminator_concat_zero (bytes : List UInt8) :
    dropTerminator (bytes ++ [0]) = bytes := by
  rw [dropTerminator, List.getLast?_concat, if_pos rfl, List.dropLast_concat]

theorem decodeName_bytesOfName {name : String} (h : IsFitName name) :
    decodeName (bytesOfName name ++ [0]) = .ok name := by
  have hascii : (bytesOfName name).all (· < 128) = true := by
    refine List.all_eq_true.2 ?_
    intro byte hmem
    obtain ⟨c, hc, rfl⟩ := List.mem_map.1 hmem
    exact decide_eq_true (byte_lt_of_isAscii (h.ascii c hc))
  have hname : String.ofList ((bytesOfName name).map fun byte => Char.ofNat byte.toNat) = name := by
    rw [bytesOfName, List.map_map, List.map_congr_left (g := id), List.map_id, String.ofList_toList]
    exact fun c hc => ofNat_byte_of_isAscii (h.ascii c hc)
  rw [decodeName]
  dsimp only
  rw [dropTerminator_concat_zero, hascii, hname, encodeName_of_isFitName h]
  rfl

/-! ## Requests -/

/-- A request that is fit is written, and what is written is read as the request that it was. -/
theorem decode_encode_of_isFit {request : Request} (h : request.IsFit) :
    ∃ data, request.encode = .ok data ∧ decode data = .ok request := by
  cases request with
  | enumerate => exact ⟨_, rfl, rfl⟩
  | named name =>
    have hfit := h name rfl
    refine ⟨_, by rw [encode, encodeName_of_isFitName hfit]; rfl, ?_⟩
    show (decodeName _).map named = _
    rw [decodeName_bytesOfName hfit]
    rfl
  | adminPort name =>
    have hfit := h name rfl
    refine ⟨_, by rw [encode, encodeName_of_isFitName hfit]; rfl, ?_⟩
    show (decodeName _).map adminPort = _
    rw [decodeName_bytesOfName hfit]
    rfl

/-- Only what is fit is written. -/
theorem encode_of_not_isFit {request : Request} (h : ¬request.IsFit) :
    ∃ fault, request.encode = .error fault := by
  cases request with
  | enumerate => exact absurd (fun name hname => by cases hname) h
  | named name =>
    have hname : ¬IsFitName name := fun hfit => h fun _ heq => Option.some.inj heq ▸ hfit
    obtain ⟨fault, hfault⟩ := encodeName_of_not_isFitName hname
    exact ⟨fault, by rw [encode, hfault]; rfl⟩
  | adminPort name =>
    have hname : ¬IsFitName name := fun hfit => h fun _ heq => Option.some.inj heq ▸ hfit
    obtain ⟨fault, hfault⟩ := encodeName_of_not_isFitName hname
    exact ⟨fault, by rw [encode, hfault]; rfl⟩

end SqlResolution.Request
