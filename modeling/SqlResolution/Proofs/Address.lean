import Mathlib.Data.List.TakeWhile
import SqlResolution.Address
import SqlResolution.Proofs.Text.Decimal
import SqlResolution.Proofs.Text.Split

/-!
# Addresses are read back from their texts

The normal form of an address is one of the texts that reading accepts, and reading
gives the address again. For IPv4 this is the round trip of four decimal numerals.
For IPv6 the groups come back from their hexadecimal numerals, and those left out
are as many as are missing to eight: they were zeros, and nothing else was left out.

A text of IPv6 is never taken for one of IPv4, because it has a colon.
-/

namespace SqlResolution.Address

open SqlResolution.Text

/-! ## IPv4 -/

theorem readOctet_digits (octet : UInt8) :
    readOctet (Decimal.digits octet.toNat) = .ok octet := by
  have hlt : octet.toNat < 256 := octet.toNat_lt
  have hlength : (Decimal.digits octet.toNat).length ≤ 3 :=
    Decimal.length_digits_le (by omega) (by omega)
  have hzero : ¬ (Decimal.digits octet.toNat ≠ ['0'] &&
      (Decimal.digits octet.toNat).head? = some '0') = true := by
    rcases Nat.eq_zero_or_pos octet.toNat with h | h
    · rw [h, Decimal.digits_zero]
      decide
    · simp [Decimal.head?_digits h]
  rw [readOctet, if_neg (Decimal.digits_ne_nil _),
    if_neg (by rw [Decimal.all_isAsciiDigit_digits]; decide), if_neg (by omega), if_neg hzero]
  dsimp only
  rw [Decimal.value_digits, if_neg (by omega)]
  exact congrArg Except.ok (UInt8.toNat_inj.1 (UInt8.toNat_ofNat_of_lt' hlt))

theorem toList_v4Text (address : V4) :
    address.text.toList = ['.'].intercalate
      ([address.a, address.b, address.c, address.d].map fun octet => Decimal.digits octet.toNat) :=
  String.toList_ofList

theorem mem_v4Text {address : V4} {c : Char} (h : c ∈ address.text.toList) :
    c = '.' ∨ isAsciiDigit c = true := by
  rw [toList_v4Text] at h
  rcases mem_of_mem_intercalate h with hpoint | ⟨token, htoken, hc⟩
  · exact .inl hpoint
  · obtain ⟨octet, -, rfl⟩ := List.mem_map.1 htoken
    exact .inr (Decimal.isAsciiDigit_of_mem_digits hc)

theorem V4.read_text (address : V4) : V4.read address.text = .ok address := by
  have hslash : ¬ address.text.toList.contains '/' = true := by
    intro h
    exact absurd (mem_v4Text (List.contains_iff_mem.1 h)) (by decide)
  have hsplit : splitOn '.' address.text.toList =
      [address.a, address.b, address.c, address.d].map fun octet => Decimal.digits octet.toNat := by
    rw [toList_v4Text]
    refine splitOn_intercalate (by simp) ?_
    intro token htoken hmem
    obtain ⟨octet, -, rfl⟩ := List.mem_map.1 htoken
    exact Decimal.ne_of_mem_digits rfl hmem rfl
  have hne : ¬ address.text.toList = [] := by
    intro h
    rw [h, splitOn_nil] at hsplit
    exact absurd (congrArg List.length hsplit) (by simp)
  rw [V4.read, if_neg hslash, if_neg hne, hsplit]
  simp only [List.map_cons, List.map_nil, readOctet_digits]
  rfl

theorem isAsciiDigit_of_readOctet {cs : List Char} {octet : UInt8} (h : readOctet cs = .ok octet) :
    ∀ c ∈ cs, isAsciiDigit c = true := by
  rw [readOctet] at h
  split at h
  · cases h
  · split at h
    · cases h
    · next hdigits =>
      rw [Bool.not_eq_true', Bool.not_eq_false] at hdigits
      exact List.all_eq_true.1 hdigits

theorem eq_digits_of_readOctet {cs : List Char} {octet : UInt8} (h : readOctet cs = .ok octet) :
    cs = Decimal.digits octet.toNat := by
  have hdigits := isAsciiDigit_of_readOctet h
  rw [readOctet] at h
  split at h
  · cases h
  next hne =>
    split at h
    · cases h
    · split at h
      · cases h
      · split at h
        · cases h
        next hzero =>
          dsimp only at h
          split at h
          · cases h
          next hsmall =>
            have hoctet : octet.toNat = Decimal.value cs := by
              rw [← Except.ok.inj h]
              exact UInt8.toNat_ofNat_of_lt' (by show _ < 256; omega)
            have hleading : cs = ['0'] ∨ cs.head? ≠ some '0' := by
              by_contra hboth
              rw [not_or, ne_eq, not_not] at hboth
              exact hzero (by simp [hboth.1, hboth.2])
            rw [hoctet, Decimal.digits_value hne hdigits hleading]

/-- A text that is an IPv4 address is the normal form of the address. -/
theorem V4.text_of_read {text : String} {address : V4} (h : V4.read text = .ok address) :
    address.text = text := by
  rw [V4.read] at h
  split at h
  · cases h
  · split at h
    · cases h
    · split at h
      next a b d e htokens =>
        cases ha : readOctet a with
        | error => rw [ha] at h; cases h
        | ok =>
          cases hb : readOctet b with
          | error => rw [ha, hb] at h; cases h
          | ok =>
            cases hd : readOctet d with
            | error => rw [ha, hb, hd] at h; cases h
            | ok =>
              cases he : readOctet e with
              | error => rw [ha, hb, hd, he] at h; cases h
              | ok =>
                rw [ha, hb, hd, he] at h
                cases h
                apply String.toList_inj.1
                rw [toList_v4Text, ← intercalate_splitOn '.' text.toList, htokens,
                  eq_digits_of_readOctet ha, eq_digits_of_readOctet hb, eq_digits_of_readOctet hd,
                  eq_digits_of_readOctet he]
                rfl
      next => cases h

/-- A text that is an IPv4 address has digits and points only. -/
theorem mem_of_v4Read {text : String} {address : V4} (h : V4.read text = .ok address) {c : Char}
    (hc : c ∈ text.toList) : c = '.' ∨ isAsciiDigit c = true := by
  rw [← V4.text_of_read h] at hc
  exact mem_v4Text hc

/-! ## Groups -/

theorem hexDigitValue?_digitChar {d : Nat} (h : d < 16) : hexDigitValue? d.digitChar = some d := by
  have : d = 0 ∨ d = 1 ∨ d = 2 ∨ d = 3 ∨ d = 4 ∨ d = 5 ∨ d = 6 ∨ d = 7 ∨ d = 8 ∨ d = 9 ∨
      d = 10 ∨ d = 11 ∨ d = 12 ∨ d = 13 ∨ d = 14 ∨ d = 15 := by
    omega
  rcases this with rfl | rfl | rfl | rfl | rfl | rfl | rfl | rfl | rfl | rfl | rfl | rfl | rfl |
    rfl | rfl | rfl <;> rfl

theorem hexDigitValue?_of_mem_toDigits {n : Nat} {c : Char} (h : c ∈ Nat.toDigits 16 n) :
    ∃ d, hexDigitValue? c = some d := by
  induction n using Nat.strongRecOn with
  | ind n ih =>
    rw [Nat.toDigits_eq_if (by omega)] at h
    split at h
    next hlt =>
      rw [List.mem_singleton.1 h]
      exact ⟨n, hexDigitValue?_digitChar hlt⟩
    next hge =>
      rcases List.mem_append.1 h with hearlier | hlast
      · exact ih (n / 16) (by omega) hearlier
      · rw [List.mem_singleton.1 hlast]
        exact ⟨n % 16, hexDigitValue?_digitChar (by omega)⟩

theorem ne_of_mem_toDigits {n : Nat} {c d : Char} (hd : hexDigitValue? d = none)
    (h : c ∈ Nat.toDigits 16 n) : c ≠ d := by
  rintro rfl
  obtain ⟨value, hvalue⟩ := hexDigitValue?_of_mem_toDigits h
  rw [hd] at hvalue
  cases hvalue

theorem mapM_hexDigitValue?_toDigits (n : Nat) :
    ∃ ds, (Nat.toDigits 16 n).mapM hexDigitValue? = some ds ∧ ds.foldl (16 * · + ·) 0 = n := by
  induction n using Nat.strongRecOn with
  | ind n ih =>
    rw [Nat.toDigits_eq_if (by omega)]
    split
    next hlt =>
      exact ⟨[n], by simp [hexDigitValue?_digitChar hlt], by simp⟩
    next hge =>
      obtain ⟨ds, hds, hvalue⟩ := ih (n / 16) (by omega)
      refine ⟨ds ++ [n % 16], ?_, ?_⟩
      · simp [hds, hexDigitValue?_digitChar (Nat.mod_lt n (by omega : 16 > 0))]
      · rw [List.foldl_append, hvalue]
        show 16 * (n / 16) + n % 16 = n
        omega

theorem readGroup?_toDigits (group : UInt16) :
    readGroup? (Nat.toDigits 16 group.toNat) = some group := by
  have hlt : group.toNat < 65536 := group.toNat_lt
  have hlength : (Nat.toDigits 16 group.toNat).length ≤ 4 :=
    (Nat.length_toDigits_le_iff (by omega) (by omega)).2 (by omega)
  obtain ⟨ds, hds, hvalue⟩ := mapM_hexDigitValue?_toDigits group.toNat
  rw [readGroup?, if_neg (by simp; omega), hds, Option.map_some, hvalue]
  exact congrArg some (UInt16.toNat_inj.1 (UInt16.toNat_ofNat_of_lt' hlt))

theorem readGroups?_toDigits (tail : Bool) (groups : List UInt16) :
    readGroups? tail (groups.map fun group => Nat.toDigits 16 group.toNat) = some groups := by
  induction groups with
  | nil => rfl
  | cons group later ih =>
    cases later with
    | nil =>
      have hpoint : ¬ (tail && (Nat.toDigits 16 group.toNat).contains '.') = true := by
        rw [Bool.and_eq_true, List.contains_iff_mem]
        exact fun h => ne_of_mem_toDigits rfl h.2 rfl
      rw [List.map_cons, List.map_nil, readGroups?, if_neg hpoint, readGroup?_toDigits]
      rfl
    | cons next others =>
      rw [List.map_cons] at ih
      rw [List.map_cons, List.map_cons, readGroups?, readGroup?_toDigits, ih]
      · rfl
      · simp

/-! ## Groups with colons between them -/

theorem groupsText_cons_cons (group next : UInt16) (others : List UInt16) :
    groupsText (group :: next :: others) =
      Nat.toDigits 16 group.toNat ++ ':' :: groupsText (next :: others) := by
  rw [groupsText, List.map_cons, List.map_cons, List.intercalate_cons_cons, List.append_assoc,
    List.singleton_append]
  rfl

theorem groupsText_singleton (group : UInt16) :
    groupsText [group] = Nat.toDigits 16 group.toNat := by
  rw [groupsText, List.map_cons, List.map_nil, List.intercalate_singleton]

theorem groupsText_cons (group : UInt16) (later : List UInt16) :
    ∃ d rest, groupsText (group :: later) = d :: rest ∧ d ≠ ':' := by
  cases hdigits : Nat.toDigits 16 group.toNat with
  | nil => exact absurd hdigits Nat.toDigits_ne_nil
  | cons d ds =>
    have hd : d ≠ ':' := ne_of_mem_toDigits rfl (hdigits ▸ List.mem_cons_self)
    cases later with
    | nil => exact ⟨d, ds, by rw [groupsText_singleton, hdigits], hd⟩
    | cons next others =>
      exact ⟨d, _, by rw [groupsText_cons_cons, hdigits, List.cons_append], hd⟩

theorem mem_groupsText {groups : List UInt16} {c : Char} (h : c ∈ groupsText groups) :
    c = ':' ∨ ∃ d, hexDigitValue? c = some d := by
  rcases mem_of_mem_intercalate h with hcolon | ⟨token, htoken, hc⟩
  · exact .inl hcolon
  · obtain ⟨group, -, rfl⟩ := List.mem_map.1 htoken
    exact .inr (hexDigitValue?_of_mem_toDigits hc)

theorem splitOn_groupsText {groups : List UInt16} (h : groups ≠ []) :
    splitOn ':' (groupsText groups) = groups.map fun group => Nat.toDigits 16 group.toNat := by
  refine splitOn_intercalate (by simpa using h) ?_
  intro token htoken hmem
  obtain ⟨group, -, rfl⟩ := List.mem_map.1 htoken
  exact ne_of_mem_toDigits rfl hmem rfl

theorem readSide?_groupsText (tail : Bool) (groups : List UInt16) :
    readSide? tail (groupsText groups) = some groups := by
  cases groups with
  | nil => rfl
  | cons group later =>
    obtain ⟨d, rest, htext, -⟩ := groupsText_cons group later
    rw [readSide?, if_neg (by rw [htext]; exact List.cons_ne_nil _ _),
      splitOn_groupsText (List.cons_ne_nil _ _), readGroups?_toDigits]

theorem cutDoubleColon?_append {token : List Char} (h : ':' ∉ token) (rest : List Char) :
    cutDoubleColon? (token ++ rest) =
      (cutDoubleColon? rest).map fun parts => (token ++ parts.1, parts.2) := by
  induction token with
  | nil => simp
  | cons c cs ih =>
    rw [List.mem_cons, not_or] at h
    obtain ⟨hc, hcs⟩ := h
    rw [List.cons_append, cutDoubleColon?, ih hcs, Option.map_map]
    · rfl
    · rintro tail rfl
      exact absurd rfl hc

/-- No two colons stand together within the text of groups: the first that do are after it. -/
theorem cutDoubleColon?_groupsText (groups : List UInt16) (rest : List Char) :
    cutDoubleColon? (groupsText groups ++ rest) =
      (cutDoubleColon? rest).map fun parts => (groupsText groups ++ parts.1, parts.2) := by
  induction groups with
  | nil => exact cutDoubleColon?_append (List.not_mem_nil) rest
  | cons group later ih =>
    have hdigits : ':' ∉ Nat.toDigits 16 group.toNat := fun h => ne_of_mem_toDigits rfl h rfl
    cases later with
    | nil =>
      rw [groupsText_singleton]
      exact cutDoubleColon?_append hdigits rest
    | cons next others =>
      obtain ⟨d, ds, htext, hd⟩ := groupsText_cons next others
      have hcolon : cutDoubleColon? (':' :: (groupsText (next :: others) ++ rest)) =
          (cutDoubleColon? (groupsText (next :: others) ++ rest)).map fun parts =>
            (':' :: parts.1, parts.2) := by
        rw [htext, List.cons_append, cutDoubleColon?]
        rintro tail - heq
        exact hd (List.cons.inj heq).1
      rw [groupsText_cons_cons, List.append_assoc, List.cons_append,
        cutDoubleColon?_append hdigits, hcolon, ih, Option.map_map, Option.map_map]
      congr 1
      funext parts
      simp

/-! ## IPv6 -/

/-- The zeros counted at a place are those of the groups there. -/
theorem take_append_replicate_zerosAt (groups : List UInt16) (place : Nat) :
    groups.take place ++ List.replicate (zerosAt groups place) 0 ++
      groups.drop (place + zerosAt groups place) = groups := by
  have hsplit : (groups.drop place).takeWhile (· = 0) ++ (groups.drop place).dropWhile (· = 0) =
      groups.drop place :=
    List.takeWhile_append_dropWhile
  have hzeros : (groups.drop place).takeWhile (· = 0) =
      List.replicate (zerosAt groups place) 0 :=
    List.eq_replicate_iff.2 ⟨rfl, fun group hgroup => by simpa using List.mem_takeWhile_imp hgroup⟩
  have hrest : groups.drop (place + zerosAt groups place) =
      (groups.drop place).dropWhile (· = 0) := by
    rw [← List.drop_drop, ← hsplit, List.takeWhile_append_dropWhile]
    conv => lhs; rw [← hsplit]
    exact List.drop_left
  rw [← hzeros, hrest, List.append_assoc, List.takeWhile_append_dropWhile, List.take_append_drop]

/-- The text of the groups, with the longest run of zeros left out. -/
def shortText (groups : List UInt16) : List Char :=
  let place := longestZeros groups
  let zeros := zerosAt groups place
  if zeros < 2 then groupsText groups
  else groupsText (groups.take place) ++ ':' :: ':' :: groupsText (groups.drop (place + zeros))

theorem mem_shortText {groups : List UInt16} {c : Char} (h : c ∈ shortText groups) :
    c = ':' ∨ ∃ d, hexDigitValue? c = some d := by
  unfold shortText at h
  dsimp only at h
  split at h
  · exact mem_groupsText h
  · rw [List.mem_append, List.mem_cons, List.mem_cons] at h
    rcases h with h | h | h | h
    · exact mem_groupsText h
    · exact .inl h
    · exact .inl h
    · exact mem_groupsText h

theorem colon_mem_shortText {groups : List UInt16} (h : 2 ≤ groups.length) :
    ':' ∈ shortText groups := by
  unfold shortText
  dsimp only
  split
  · match groups with
    | group :: next :: others =>
      rw [groupsText_cons_cons]
      exact List.mem_append_right _ List.mem_cons_self
  · exact List.mem_append_right _ List.mem_cons_self

theorem readAllGroups?_shortText {groups : List UInt16} (h : groups.length = 8) :
    readAllGroups? (shortText groups) = some groups := by
  unfold shortText
  dsimp only
  split
  · have hcut := cutDoubleColon?_groupsText groups []
    rw [List.append_nil] at hcut
    rw [readAllGroups?, hcut]
    show readGroups? true (splitOn ':' (groupsText groups)) = _
    rw [splitOn_groupsText (List.ne_nil_of_length_pos (by omega)), readGroups?_toDigits]
  next hzeros =>
    generalize hplace : longestZeros groups = place at hzeros ⊢
    have hgroups := take_append_replicate_zerosAt groups place
    have hlength := congrArg List.length hgroups
    rw [List.length_append, List.length_append, List.length_replicate, h] at hlength
    have hmissing : 8 - (groups.take place).length -
        (groups.drop (place + zerosAt groups place)).length = zerosAt groups place := by
      omega
    rw [readAllGroups?, cutDoubleColon?_groupsText]
    simp only [cutDoubleColon?, Option.map_some, List.append_nil, readSide?_groupsText]
    show (if _ then some _ else none) = _
    rw [if_pos (by omega), hmissing, hgroups]

theorem toList_v6Text (address : V6) :
    address.text.toList = shortText address.groups ++
      match address.zone with
      | none => []
      | some zone => '%' :: zone.name := by
  rw [V6.text]
  cases address.zone with
  | none => exact String.toList_ofList.trans (List.append_nil _).symm
  | some zone => exact String.toList_ofList

theorem ofGroups?_groups (address : V6) :
    V6.ofGroups? address.groups address.zone = some address := by
  rw [V6.ofGroups?, dif_pos address.length_groups]

theorem V6.read?_text (address : V6) : V6.read? address.text = some address := by
  have hpercent : '%' ∉ shortText address.groups := by
    intro h
    rcases mem_shortText h with hcolon | ⟨d, hd⟩
    · exact absurd hcolon (by decide)
    · cases hd
  have hgroups := readAllGroups?_shortText address.length_groups
  have hmade := ofGroups?_groups address
  rw [V6.read?, toList_v6Text]
  cases hzone : address.zone with
  | none =>
    rw [hzone] at hmade
    dsimp only
    rw [List.append_nil, cutAt_eq_none hpercent]
    simpa [hgroups] using hmade
  | some zone =>
    have hname : Zone.ofList? zone.name = some zone := dif_pos ⟨zone.ne_nil, zone.plain⟩
    rw [hzone] at hmade
    dsimp only
    rw [cutAt_append_cons hpercent]
    simpa [hname, hgroups] using hmade

/-! ## Both versions -/

theorem read?_text (address : Address) : read? address.text = some address := by
  cases address with
  | v4 address =>
    have hread : V4.read (v4 address).text = .ok address := V4.read_text address
    rw [read?, hread]
  | v6 address =>
    rw [read?]
    cases hread : V4.read (v6 address).text with
    | ok other =>
      have hcolon : ':' ∈ address.text.toList := by
        rw [toList_v6Text]
        exact List.mem_append_left _ (colon_mem_shortText (by rw [address.length_groups]; decide))
      exact absurd (mem_of_v4Read hread hcolon) (by decide)
    | error fault =>
      have hread : V6.read? (v6 address).text = some address := V6.read?_text address
      rw [hread]
      rfl

end SqlResolution.Address
