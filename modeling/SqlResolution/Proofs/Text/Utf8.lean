import SqlResolution.Text.Utf8

/-!
# What is encoded is decoded

The encoding of a character takes its value apart into groups of six bits, and
the decoder puts them together again. The bounds that a first byte sets for the
second are met because the value is neither too small for its length nor a
surrogate nor beyond the last code point.

One lemma for each of the four lengths says what the decoder does with an encoded
character; a text is decoded by induction on its characters.
-/

namespace SqlResolution.Text.Utf8

variable {start v : Nat} {done : List Char} {rest : List UInt8}

theorem ofNat_lt_iff {n : Nat} (h : n < 256) (bound : UInt8) :
    UInt8.ofNat n < bound ↔ n < bound.toNat := by
  rw [UInt8.lt_iff_toNat_lt, UInt8.toNat_ofNat_of_lt' h]

theorem ofNat_eq_iff {n : Nat} (h : n < 256) (byte : UInt8) :
    UInt8.ofNat n = byte ↔ n = byte.toNat := by
  rw [← UInt8.toNat_inj, UInt8.toNat_ofNat_of_lt' h]

/-! ## First bytes -/

theorem lead?_two {n : Nat} (low : 0xc2 ≤ n) (high : n < 0xe0) :
    lead? (UInt8.ofNat n) = some ⟨1, 0x80, 0xbf, n % 0x20⟩ := by
  have h : n < 256 := by omega
  rw [lead?, if_neg (by rw [ofNat_lt_iff h]; show ¬ n < 0xc2; omega),
    if_pos (by rw [ofNat_lt_iff h]; exact high), UInt8.toNat_ofNat_of_lt' h]

theorem lead?_three {n : Nat} (low : 0xe0 ≤ n) (high : n < 0xf0) :
    lead? (UInt8.ofNat n) =
      some ⟨2, if n = 0xe0 then 0xa0 else 0x80, if n = 0xed then 0x9f else 0xbf, n % 0x10⟩ := by
  have h : n < 256 := by omega
  rw [lead?, if_neg (by rw [ofNat_lt_iff h]; show ¬ n < 0xc2; omega),
    if_neg (by rw [ofNat_lt_iff h]; show ¬ n < 0xe0; omega),
    if_pos (by rw [ofNat_lt_iff h]; exact high), UInt8.toNat_ofNat_of_lt' h]
  simp only [ofNat_eq_iff h]
  rfl

theorem lead?_four {n : Nat} (low : 0xf0 ≤ n) (high : n < 0xf5) :
    lead? (UInt8.ofNat n) =
      some ⟨3, if n = 0xf0 then 0x90 else 0x80, if n = 0xf4 then 0x8f else 0xbf, n % 0x08⟩ := by
  have h : n < 256 := by omega
  rw [lead?, if_neg (by rw [ofNat_lt_iff h]; show ¬ n < 0xc2; omega),
    if_neg (by rw [ofNat_lt_iff h]; show ¬ n < 0xe0; omega),
    if_neg (by rw [ofNat_lt_iff h]; show ¬ n < 0xf0; omega),
    if_pos (by rw [ofNat_lt_iff h]; exact high), UInt8.toNat_ofNat_of_lt' h]
  simp only [ofNat_eq_iff h]
  rfl

/-! ## One byte -/

theorem decodeFrom_ascii {n : Nat} (h : n < 0x80) :
    decodeFrom start done .between (UInt8.ofNat n :: rest) =
      decodeFrom (start + 1) (Char.ofNat n :: done) .between rest := by
  have hn : n < 256 := by omega
  rw [decodeFrom, if_pos (by rw [ofNat_lt_iff hn]; exact h), UInt8.toNat_ofNat_of_lt' hn]

theorem decodeFrom_lead {n : Nat} {pending : Pending} (low : 0x80 ≤ n) (high : n < 256)
    (h : lead? (UInt8.ofNat n) = some pending) :
    decodeFrom start done .between (UInt8.ofNat n :: rest) =
      decodeFrom start done (.inside (UInt8.ofNat n) 1 pending) rest := by
  rw [decodeFrom, if_neg (by rw [ofNat_lt_iff high]; show ¬ n < 0x80; omega), h]

theorem decodeFrom_inside {first : UInt8} {taken n : Nat} {pending : Pending}
    (low : pending.low.toNat ≤ 0x80 + n) (high : 0x80 + n ≤ pending.high.toNat) (h : n < 0x40) :
    decodeFrom start done (.inside first taken pending) (UInt8.ofNat (n + 0x80) :: rest) =
      if pending.more ≤ 1 then
        decodeFrom (start + taken + 1) (Char.ofNat (pending.value * 0x40 + n) :: done) .between rest
      else
        decodeFrom start done
          (.inside first (taken + 1) ⟨pending.more - 1, 0x80, 0xbf, pending.value * 0x40 + n⟩)
          rest := by
  have hn : n + 0x80 < 256 := by omega
  have hvalue : (n + 0x80) % 0x40 = n := by omega
  have hbounds : (pending.low ≤ UInt8.ofNat (n + 0x80) &&
      UInt8.ofNat (n + 0x80) ≤ pending.high) = true := by
    rw [Bool.and_eq_true, decide_eq_true_eq, decide_eq_true_eq, UInt8.le_iff_toNat_le,
      UInt8.le_iff_toNat_le, UInt8.toNat_ofNat_of_lt' hn]
    omega
  rw [decodeFrom, if_pos hbounds, UInt8.toNat_ofNat_of_lt' hn, hvalue]

/-! ## One character -/

theorem decodeFrom_two (low : 0x80 ≤ v) (high : v ≤ 0x7ff) :
    decodeFrom start done .between
        (UInt8.ofNat (v / 64 % 0x20 + 0xc0) :: UInt8.ofNat (v % 0x40 + 0x80) :: rest) =
      decodeFrom (start + 2) (Char.ofNat v :: done) .between rest := by
  have hv : (v / 64 % 0x20 + 0xc0) % 0x20 * 0x40 + v % 0x40 = v := by omega
  rw [decodeFrom_lead (by omega) (by omega) (lead?_two (by omega) (by omega)),
    decodeFrom_inside (by show 0x80 ≤ _; omega) (by show _ ≤ 0xbf; omega) (by omega)]
  dsimp only
  rw [if_pos (Nat.le_refl 1), hv]

theorem decodeFrom_three (low : 0x800 ≤ v) (high : v ≤ 0xffff)
    (surrogate : v < 0xd800 ∨ 0xdfff < v) :
    decodeFrom start done .between
        (UInt8.ofNat (v / 4096 % 0x10 + 0xe0) :: UInt8.ofNat (v / 64 % 0x40 + 0x80) ::
          UInt8.ofNat (v % 0x40 + 0x80) :: rest) =
      decodeFrom (start + 3) (Char.ofNat v :: done) .between rest := by
  have hv : ((v / 4096 % 0x10 + 0xe0) % 0x10 * 0x40 + v / 64 % 0x40) * 0x40 + v % 0x40 = v := by
    omega
  rw [decodeFrom_lead (by omega) (by omega) (lead?_three (by omega) (by omega)),
    decodeFrom_inside ?_ ?_ (by omega)]
  · dsimp only
    rw [if_neg (by decide),
      decodeFrom_inside (by show 0x80 ≤ _; omega) (by show _ ≤ 0xbf; omega) (by omega)]
    dsimp only
    rw [if_pos (Nat.le_refl 1), hv]
  · dsimp only
    split
    · show 0xa0 ≤ _
      omega
    · show 0x80 ≤ _
      omega
  · dsimp only
    split
    · show _ ≤ 0x9f
      omega
    · show _ ≤ 0xbf
      omega

theorem decodeFrom_four (low : 0x10000 ≤ v) (high : v < 0x110000) :
    decodeFrom start done .between
        (UInt8.ofNat (v / 262144 % 0x08 + 0xf0) :: UInt8.ofNat (v / 4096 % 0x40 + 0x80) ::
          UInt8.ofNat (v / 64 % 0x40 + 0x80) :: UInt8.ofNat (v % 0x40 + 0x80) :: rest) =
      decodeFrom (start + 4) (Char.ofNat v :: done) .between rest := by
  have hv : (((v / 262144 % 0x08 + 0xf0) % 0x08 * 0x40 + v / 4096 % 0x40) * 0x40 +
      v / 64 % 0x40) * 0x40 + v % 0x40 = v := by
    omega
  rw [decodeFrom_lead (by omega) (by omega) (lead?_four (by omega) (by omega)),
    decodeFrom_inside ?_ ?_ (by omega)]
  · dsimp only
    rw [if_neg (by decide),
      decodeFrom_inside (by show 0x80 ≤ _; omega) (by show _ ≤ 0xbf; omega) (by omega)]
    dsimp only
    rw [if_neg (by decide),
      decodeFrom_inside (by show 0x80 ≤ _; omega) (by show _ ≤ 0xbf; omega) (by omega)]
    dsimp only
    rw [if_pos (Nat.le_refl 1), hv]
  · dsimp only
    split
    · show 0x90 ≤ _
      omega
    · show 0x80 ≤ _
      omega
  · dsimp only
    split
    · show _ ≤ 0x8f
      omega
    · show _ ≤ 0xbf
      omega

theorem decodeFrom_utf8EncodeChar (c : Char) :
    decodeFrom start done .between (String.utf8EncodeChar c ++ rest) =
      decodeFrom (start + (String.utf8EncodeChar c).length) (c :: done) .between rest := by
  have hchar : Char.ofNat c.val.toNat = c := Char.ofNat_toNat c
  have hvalid : c.val.toNat < 0xd800 ∨ 0xdfff < c.val.toNat ∧ c.val.toNat < 0x110000 := c.valid
  fun_cases String.utf8EncodeChar c with
  | case1 v one =>
    have h := @decodeFrom_ascii start done rest v (by omega)
    rwa [hchar] at h
  | case2 v one two =>
    have h := @decodeFrom_two start v done rest (by omega) two
    rwa [hchar] at h
  | case3 v one two three =>
    have h := @decodeFrom_three start v done rest (by omega) three (by omega)
    rwa [hchar] at h
  | case4 v one two three =>
    have h := @decodeFrom_four start v done rest (by omega) (by omega)
    rwa [hchar] at h

/-! ## Texts -/

theorem decodeFrom_encode (cs : List Char) :
    decodeFrom start done .between (cs.flatMap String.utf8EncodeChar) =
      .ok (done.reverse ++ cs) := by
  induction cs generalizing start done with
  | nil => rw [List.flatMap_nil, decodeFrom, List.append_nil]
  | cons c cs ih =>
    rw [List.flatMap_cons, decodeFrom_utf8EncodeChar, ih, List.reverse_cons, List.append_assoc,
      List.singleton_append]

theorem decode_encode (text : String) : decode (encode text) = .ok text := by
  rw [decode, encode, decodeFrom_encode, List.reverse_nil, List.nil_append, Except.map,
    String.ofList_toList]

theorem encode_append (text other : String) :
    encode (text ++ other) = encode text ++ encode other := by
  rw [encode, encode, encode, String.toList_append, List.flatMap_append]

theorem encode_replicate_zero (count : Nat) :
    encode (String.ofList (List.replicate count '0')) = List.replicate count 0x30 := by
  rw [encode, String.toList_ofList]
  induction count with
  | zero => rfl
  | succ count ih =>
    rw [List.replicate_succ, List.flatMap_cons, ih]
    rfl

end SqlResolution.Text.Utf8
