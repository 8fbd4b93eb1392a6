import NmDaemon.NetworkEntries
import NmDaemon.WifiShare

/-!
# What the decoder of network keys accepts

`ssid_for_network_key` (`model.rs`) reads the digits of a key two at a time, by the parser for
numbers of the standard library. That parser takes a plus sign before a number.

* `pairs_of_mapM` — what is read as bytes is pairs of digits, or of a plus sign and a digit;
* `accepted` — the shape of an accepted key;
* `lower_digitRun` — without a plus sign the digits are those of the SSID, but for their case;
* `network_keys_strict_iff` — keys are read strictly exactly when they have no plus sign.
-/

namespace NmDaemon

namespace Networks

open NmDaemon.Connection (isHexDigit)
open NmDaemon.Runtime (SsidBytes)
open Wifi (hexValue addDigit parseHexByte)

/-! ## Digits -/

/-- The value of a digit; a sign counts nothing. -/
def digitValue (c : Char) : ℕ := (hexValue c).getD 0

theorem isHexDigit_of_hexValue {c : Char} {n : ℕ} (h : hexValue c = some n) :
    isHexDigit c = true := by
  unfold hexValue at h
  unfold isHexDigit
  split_ifs at h <;> simp_all

/-- A digit in lower case is the one its value is written with. -/
theorem toLower_of_isHexDigit {c : Char} (h : isHexDigit c = true) :
    c.toLower = Connect.hexDigit 'a' (digitValue c) ∧ digitValue c < 16 ∧
      String.utf8EncodeChar c = [UInt8.ofNat c.toNat] := by
  have hall : ∀ n ∈ List.range' 48 10 ++ List.range' 97 6 ++ List.range' 65 6,
      (Char.ofNat n).toLower = Connect.hexDigit 'a' (digitValue (Char.ofNat n)) ∧
        digitValue (Char.ofNat n) < 16 ∧
        String.utf8EncodeChar (Char.ofNat n) = [UInt8.ofNat (Char.ofNat n).toNat] := by
    decide
  have hmem : c.toNat ∈ List.range' 48 10 ++ List.range' 97 6 ++ List.range' 65 6 := by
    have hle : ∀ a b : Char, a ≤ b ↔ a.toNat ≤ b.toNat := fun _ _ => Iff.rfl
    simp only [isHexDigit, Bool.or_eq_true, Bool.and_eq_true, decide_eq_true_eq, hle] at h
    simp only [List.mem_append, List.mem_range'_1]
    rcases h with (h | h) | h
    · exact .inl (.inl ⟨h.1, Nat.lt_succ_of_le h.2⟩)
    · exact .inl (.inr ⟨h.1, Nat.lt_succ_of_le h.2⟩)
    · exact .inr ⟨h.1, Nat.lt_succ_of_le h.2⟩
  have := hall _ hmem
  rwa [Char.ofNat_toNat] at this

/-! ## Pairs -/

/-- Two characters that are read as a byte. -/
def IsPair (p : Char × Char) (b : UInt8) : Prop :=
  (p.1 = '+' ∨ isHexDigit p.1 = true) ∧ isHexDigit p.2 = true ∧
    b = UInt8.ofNat (digitValue p.1 * 16 + digitValue p.2)

theorem addDigit_eq_some {n m : ℕ} {c : Char} (h : addDigit n c = some m) :
    isHexDigit c = true ∧ m = n * 16 + digitValue c := by
  obtain ⟨d, hd, hsum⟩ := Option.bind_eq_some_iff.mp h
  split_ifs at hsum
  refine ⟨isHexDigit_of_hexValue hd, ?_⟩
  rw [digitValue, hd, Option.getD_some]
  exact (Option.some.inj hsum).symm

theorem isHexDigit_of_foldlM {ds : List Char} {n m : ℕ} (h : ds.foldlM addDigit n = some m) :
    ∀ d ∈ ds, isHexDigit d = true := by
  induction ds generalizing n with
  | nil => exact fun d hd => absurd hd List.not_mem_nil
  | cons c ds ih =>
    rw [List.foldlM_cons] at h
    obtain ⟨k, hk, hrest⟩ := Option.bind_eq_some_iff.mp h
    exact List.forall_mem_cons.mpr ⟨(addDigit_eq_some hk).1, ih hrest⟩

theorem chars_of_parseHexByte {cs : List Char} {b : UInt8} (h : parseHexByte cs = some b) :
    ∀ c ∈ cs, c = '+' ∨ isHexDigit c = true := by
  unfold parseHexByte at h
  dsimp only at h
  split at h
  · rename_i rest
    split_ifs at h
    obtain ⟨n, hn, -⟩ := Option.map_eq_some_iff.mp h
    exact List.forall_mem_cons.mpr ⟨.inl rfl, fun c hc => .inr (isHexDigit_of_foldlM hn c hc)⟩
  · split_ifs at h
    obtain ⟨n, hn, -⟩ := Option.map_eq_some_iff.mp h
    exact fun c hc => .inr (isHexDigit_of_foldlM hn c hc)

theorem length_utf8EncodeChar {c : Char} (h : c = '+' ∨ isHexDigit c = true) :
    (String.utf8EncodeChar c).length = 1 := by
  rcases h with rfl | h
  · rfl
  · rw [(toLower_of_isHexDigit h).2.2, List.length_singleton]

theorem pair_of_parseHexByte {cs : List Char} {b : UInt8} (h : parseHexByte cs = some b)
    (hsize : (cs.flatMap String.utf8EncodeChar).length = 2) :
    ∃ p : Char × Char, cs = [p.1, p.2] ∧ IsPair p b := by
  have hchars := chars_of_parseHexByte h
  have hlength : cs.length = 2 := by
    rw [List.length_flatMap, List.map_congr_left fun c hc => length_utf8EncodeChar (hchars c hc),
      List.map_const', List.sum_replicate_nat, mul_one] at hsize
    exact hsize
  obtain ⟨c, d, rfl⟩ := List.length_eq_two.mp hlength
  refine ⟨(c, d), rfl, hchars c List.mem_cons_self, ?_⟩
  unfold parseHexByte at h
  dsimp only at h
  split at h
  · -- a sign: the number has one digit
    rename_i heq
    obtain ⟨rfl, rfl⟩ := List.cons.inj heq
    rw [if_neg (List.cons_ne_nil _ _), List.foldlM_cons] at h
    obtain ⟨n, hn, rfl⟩ := Option.map_eq_some_iff.mp h
    obtain ⟨m, hm, hnil⟩ := Option.bind_eq_some_iff.mp hn
    obtain ⟨hd, rfl⟩ := addDigit_eq_some hm
    cases hnil
    exact ⟨hd, rfl⟩
  · rw [if_neg (List.cons_ne_nil _ _), List.foldlM_cons] at h
    obtain ⟨n, hn, rfl⟩ := Option.map_eq_some_iff.mp h
    obtain ⟨high, hhigh, hrest⟩ := Option.bind_eq_some_iff.mp hn
    obtain ⟨-, rfl⟩ := addDigit_eq_some hhigh
    rw [List.foldlM_cons] at hrest
    obtain ⟨m, hm, hnil⟩ := Option.bind_eq_some_iff.mp hrest
    obtain ⟨hd, rfl⟩ := addDigit_eq_some hm
    cases hnil
    rw [Nat.zero_mul, Nat.zero_add]
    exact ⟨hd, rfl⟩

theorem pair_of_parseOctet {x y b : UInt8} (h : parseOctet [x, y] = .ok b) :
    ∃ p : Char × Char, [x, y] = [p.1, p.2].flatMap String.utf8EncodeChar ∧ IsPair p b := by
  unfold parseOctet at h
  cases hread : (String.fromUTF8? ⟨[x, y].toArray⟩).bind fun octet => parseHexByte octet.toList with
  | none =>
    rw [hread] at h
    cases h
  | some b' =>
    rw [hread] at h
    cases h
    obtain ⟨octet, htext, hbyte⟩ := Option.bind_eq_some_iff.mp hread
    have hbytes := Utf8.fromUTF8_eq_some.mp htext
    rw [← String.ofList_toList (s := octet), Utf8.toUTF8_ofList] at hbytes
    obtain ⟨p, hp, hpair⟩ := pair_of_parseHexByte hbyte (by rw [← hbytes]; rfl)
    exact ⟨p, by rw [hbytes, hp], hpair⟩

/-- The characters of pairs. -/
def unpaired (pairs : List (Char × Char)) : List Char := pairs.flatMap fun p => [p.1, p.2]

/-- What is read as bytes two at a time is written in pairs. -/
theorem pairs_of_mapM {text : List UInt8} {bytes : SsidBytes} (heven : text.length % 2 = 0)
    (h : (chunksOfTwo text).mapM parseOctet = .ok bytes) :
    ∃ pairs, text = (unpaired pairs).flatMap String.utf8EncodeChar ∧
      List.Forall₂ IsPair pairs bytes := by
  induction text using chunksOfTwo.induct generalizing bytes with
  | case1 x y rest ih =>
    rw [chunksOfTwo, List.mapM_cons] at h
    obtain ⟨b, hb, htail⟩ := Fallible.bind_eq_ok.mp h
    obtain ⟨bs, hbs, hpure⟩ := Fallible.bind_eq_ok.mp htail
    obtain rfl := Except.ok.inj hpure
    obtain ⟨p, hp, hpair⟩ := pair_of_parseOctet hb
    rw [List.length_cons, List.length_cons] at heven
    obtain ⟨pairs, hrest, hpairs⟩ := ih (by omega) hbs
    refine ⟨p :: pairs, ?_, .cons hpair hpairs⟩
    rw [unpaired, List.flatMap_cons, List.flatMap_append, ← hp, ← unpaired, ← hrest]
    rfl
  | case2 text hshort =>
    match text, hshort with
    | [], _ =>
      obtain rfl := Except.ok.inj h
      exact ⟨[], rfl, .nil⟩
    | [_], _ => exact absurd heven one_ne_zero
    | x :: y :: rest, hshort => exact absurd rfl (hshort x y rest)

/-- Without a sign the pairs are the digits of the bytes, but for their case. -/
theorem digits_of_pairs {pairs : List (Char × Char)} {bytes : SsidBytes}
    (h : List.Forall₂ IsPair pairs bytes) (hplus : '+' ∉ unpaired pairs) :
    (∀ c ∈ unpaired pairs, isHexDigit c = true) ∧
      (unpaired pairs).map Char.toLower = bytes.flatMap (Connect.hexPair 'a') := by
  induction h with
  | nil => exact ⟨fun c hc => absurd hc List.not_mem_nil, rfl⟩
  | @cons p b pairs bytes hpair hpairs ih =>
    obtain ⟨hfirst, hsecond, rfl⟩ := hpair
    rw [unpaired, List.flatMap_cons, ← unpaired, List.mem_append, not_or] at hplus
    obtain ⟨hdigits, hlower⟩ := ih hplus.2
    replace hfirst := hfirst.resolve_left fun heq => hplus.1 (heq ▸ List.mem_cons_self)
    obtain ⟨hhigh, hhigh', -⟩ := toLower_of_isHexDigit hfirst
    obtain ⟨hlow, hlow', -⟩ := toLower_of_isHexDigit hsecond
    have hvalue : (UInt8.ofNat (digitValue p.1 * 16 + digitValue p.2)).toNat =
        digitValue p.1 * 16 + digitValue p.2 := UInt8.toNat_ofNat_of_lt' (show _ < 256 by omega)
    have hdiv : (digitValue p.1 * 16 + digitValue p.2) / 16 = digitValue p.1 := by omega
    have hmod : (digitValue p.1 * 16 + digitValue p.2) % 16 = digitValue p.2 := by omega
    rw [unpaired, List.flatMap_cons, ← unpaired]
    refine ⟨List.forall_mem_append.mpr ⟨?_, hdigits⟩, ?_⟩
    · exact List.forall_mem_cons.mpr ⟨hfirst, List.forall_mem_singleton.mpr hsecond⟩
    · rw [List.map_append, hlower, List.flatMap_cons, Connect.hexPair, hvalue, hdiv, hmod, ← hhigh, ← hlow]
      rfl

/-! ## Keys -/

/-- What stands between the beginning of a key and the first separator. -/
def digitRun (key : String) : List Char :=
  (key.toList.drop "ssid-hex:".length).takeWhile (· ≠ '|')

/-- The beginning, an even number of up to 64 digits, and nothing or a suffix. -/
def Strict (key : String) : Prop :=
  (∃ rest, key.toList = "ssid-hex:".toList ++ digitRun key ++ rest ∧
    (rest = [] ∨ ∃ suffix, rest = '|' :: suffix)) ∧
  digitRun key ≠ [] ∧ (digitRun key).length % 2 = 0 ∧ (digitRun key).length ≤ 64 ∧
  ∀ c ∈ digitRun key, isHexDigit c = true

section Accepted

variable {displaySsid : SsidBytes → String} {key key' : String} {ssid ssid' : Ssid}

theorem ssidFromBytes_eq_ok {bytes : SsidBytes} (h : ssidFromBytes displaySsid bytes = .ok ssid) :
    ssid.bytes = bytes ∧ ssid.display = displaySsid bytes := by
  unfold ssidFromBytes at h
  split_ifs at h
  cases h
  exact ⟨rfl, rfl⟩

/-- The shape of an accepted key. -/
theorem accepted (h : ssidForNetworkKey displaySsid key = .ok ssid) :
    (∃ rest, key.toList = "ssid-hex:".toList ++ digitRun key ++ rest ∧
      (rest = [] ∨ ∃ suffix, rest = '|' :: suffix)) ∧
    ssid.display = displaySsid ssid.bytes ∧
    ∃ pairs, digitRun key = unpaired pairs ∧ List.Forall₂ IsPair pairs ssid.bytes := by
  unfold ssidForNetworkKey at h
  obtain ⟨run, hrun, h⟩ := Fallible.bind_eq_ok.mp h
  dsimp only at h
  split_ifs at h with heven
  obtain ⟨bytes, hbytes, hssid⟩ := Fallible.bind_eq_ok.mp h
  obtain ⟨rfl, hdisplay⟩ := ssidFromBytes_eq_ok hssid
  obtain ⟨pairs, htext, hpairs⟩ := pairs_of_mapM (not_not.mp heven) hbytes
  have hstart : "ssid-hex:".toList.isPrefixOf key.toList = true ∧ run = digitRun key := by
    rw [Qr.stripPrefix] at hrun
    split_ifs at hrun with hstart
    · exact ⟨hstart, (Except.ok.inj hrun).symm⟩
    · cases hrun
  obtain ⟨hstart, rfl⟩ := hstart
  obtain ⟨value, hvalue⟩ := List.isPrefixOf_iff_prefix.mp hstart
  have hrun : digitRun key = value.takeWhile (· ≠ '|') := by
    rw [digitRun, ← hvalue]
    rfl
  refine ⟨⟨value.dropWhile (· ≠ '|'), ?_, ?_⟩, hdisplay, pairs, ?_, hpairs⟩
  · rw [hrun, List.append_assoc, List.takeWhile_append_dropWhile, hvalue]
  · cases hrest : value.dropWhile (· ≠ '|') with
    | nil => exact .inl rfl
    | cons c suffix =>
      have hc := List.head_dropWhile_not (p := (· ≠ '|')) (l := value)
        (by rw [hrest]; exact List.cons_ne_nil _ _)
      simp only [hrest, List.head_cons, decide_eq_false_iff_not, not_not] at hc
      exact .inr ⟨suffix, by rw [hc]⟩
  · -- texts with the same bytes are the same
    rw [← Utf8.toUTF8_ofList] at htext
    have := String.toByteArray_inj.mp (ByteArray.ext (Array.toList_inj.mp htext))
    exact String.ofList_injective this

theorem strict_iff (h : ssidForNetworkKey displaySsid key = .ok ssid) :
    Strict key ↔ '+' ∉ digitRun key := by
  obtain ⟨hshape, -, pairs, hrun, hpairs⟩ := accepted h
  have hlength : (digitRun key).length = 2 * ssid.bytes.length := by
    rw [hrun, unpaired, List.length_flatMap, ← hpairs.length_eq]
    simp [Nat.mul_comm]
  have hsize := ssid.size
  have hpos := List.length_pos_iff.mpr ssid.nonempty
  refine ⟨fun hstrict hplus => absurd (hstrict.2.2.2.2 _ hplus) (by decide), fun hplus => ?_⟩
  have hdigits := (digits_of_pairs hpairs (hrun ▸ hplus)).1
  refine ⟨hshape, List.length_pos_iff.mp (by omega), by omega, by omega, ?_⟩
  rwa [hrun]

/-- The digits are those of the SSID, but for their case. -/
theorem lower_digitRun (h : ssidForNetworkKey displaySsid key = .ok ssid)
    (hplus : '+' ∉ digitRun key) :
    (digitRun key).map Char.toLower = (Connect.ssidHex ssid.bytes).toList := by
  obtain ⟨-, -, pairs, hrun, hpairs⟩ := accepted h
  rw [hrun] at hplus ⊢
  rw [(digits_of_pairs hpairs hplus).2, ssidHex_toList]

/-- Accepted keys are made of digits, and name the same SSID if and only if the digits are the
same but for their case: this holds exactly of keys without a plus sign among the digits. -/
theorem network_keys_strict_iff (h : ssidForNetworkKey displaySsid key = .ok ssid)
    (h' : ssidForNetworkKey displaySsid key' = .ok ssid') :
    (Strict key ∧ Strict key' ∧ (ssid = ssid' ↔
      (digitRun key).map Char.toLower = (digitRun key').map Char.toLower)) ↔
    ('+' ∉ digitRun key ∧ '+' ∉ digitRun key') := by
  rw [strict_iff h, strict_iff h', ← and_assoc]
  refine and_iff_left_of_imp fun ⟨hplus, hplus'⟩ => ?_
  rw [lower_digitRun h hplus, lower_digitRun h' hplus', String.toList_inj,
    ssidHex_injective.eq_iff]
  refine ⟨congrArg Ssid.bytes, fun hbytes => ?_⟩
  have hdisplay : ssid.display = ssid'.display := by
    rw [(accepted h).2.1, (accepted h').2.1, hbytes]
  cases ssid
  cases ssid'
  obtain rfl : _ = _ := hbytes
  obtain rfl : _ = _ := hdisplay
  rfl

end Accepted

theorem network_keys_strict_home :
    ∃ ssid, ssidForNetworkKey Share.lossy "ssid-hex:486f6D65|security:open" = .ok ssid ∧
      ssidForNetworkKey Share.lossy "ssid-hex:486F6d65" = .ok ssid ∧
      Strict "ssid-hex:486f6D65|security:open" ∧ Strict "ssid-hex:486F6d65" := by
  have h : ssidForNetworkKey Share.lossy "ssid-hex:486f6D65|security:open" =
      .ok ⟨[72, 111, 109, 101], "Home", by decide, by decide⟩ := by decide
  have h' : ssidForNetworkKey Share.lossy "ssid-hex:486F6d65" =
      .ok ⟨[72, 111, 109, 101], "Home", by decide, by decide⟩ := by decide
  obtain ⟨hstrict, hstrict', -⟩ := (network_keys_strict_iff h h').mpr (by decide)
  exact ⟨_, h, h', hstrict, hstrict'⟩

/-- A plus sign stands for a zero. -/
theorem plus_sign_accepted :
    ∃ ssid, ssidForNetworkKey Share.lossy "ssid-hex:+A" = .ok ssid ∧
      ssidForNetworkKey Share.lossy "ssid-hex:0A" = .ok ssid ∧ ¬Strict "ssid-hex:+A" ∧
      (digitRun "ssid-hex:+A").map Char.toLower ≠ (digitRun "ssid-hex:0A").map Char.toLower := by
  have h : ssidForNetworkKey Share.lossy "ssid-hex:+A" =
      .ok ⟨[10], "\n", by decide, by decide⟩ := by decide
  refine ⟨_, h, by decide, fun hstrict => ?_, by decide⟩
  exact absurd (hstrict.2.2.2.2 '+' (by decide)) (by decide)

end Networks

end NmDaemon
