import Mathlib.Data.String.Basic
import NmDaemon.WifiRadio

/-!
# Addresses of access points as text

* `colon_of_target` and `target_of_colon` — the texts that equal the address of a connect target,
  whatever the case of their letters, are the addresses with colons (`isColonAddress`);
* `colon_size` — six bytes are not the text of an address;
* `parseBssid_format` — every six bytes are the address of an access point.
-/

namespace NmDaemon

namespace Wifi

open NmDaemon.Connect (hexDigit hexPair)
open NmDaemon.Connection (isHexDigit looksLikeBssid)

/-! ## Letters -/

variable {c : Char}

/-- A property of upper case letters is one of twenty-six characters. -/
theorem forall_upper {P : Char → Prop} (h : ∀ n ∈ List.range' 65 26, P (Char.ofNat n))
    (hlower : 'A'.val ≤ c.val) (hupper : c.val ≤ 'Z'.val) : P c := by
  have := h c.toNat (List.mem_range'_1.mpr ⟨hlower, Nat.lt_succ_of_le hupper⟩)
  rwa [Char.ofNat_toNat] at this

theorem forall_lower {P : Char → Prop} (h : ∀ n ∈ List.range' 97 26, P (Char.ofNat n))
    (hlower : 'a'.val ≤ c.val) (hupper : c.val ≤ 'z'.val) : P c := by
  have := h c.toNat (List.mem_range'_1.mpr ⟨hlower, Nat.lt_succ_of_le hupper⟩)
  rwa [Char.ofNat_toNat] at this

theorem toLower_eq_self (h : ¬(c.val ≥ 'A'.val ∧ c.val ≤ 'Z'.val)) : c.toLower = c :=
  dif_neg h

theorem toUpper_eq_self (h : ¬('a'.val ≤ c.val ∧ c.val ≤ 'z'.val)) : c.toUpper = c :=
  dif_neg h

theorem toLower_separator (c : Char) : isSeparator c.toLower = isSeparator c := by
  by_cases h : c.val ≥ 'A'.val ∧ c.val ≤ 'Z'.val
  · exact forall_upper (P := fun c => isSeparator c.toLower = isSeparator c) (by decide) h.1 h.2
  · rw [toLower_eq_self h]

theorem toLower_hexDigit (c : Char) : isHexDigit c.toLower = isHexDigit c := by
  by_cases h : c.val ≥ 'A'.val ∧ c.val ≤ 'Z'.val
  · exact forall_upper (P := fun c => isHexDigit c.toLower = isHexDigit c) (by decide) h.1 h.2
  · rw [toLower_eq_self h]

theorem toUpper_separator (c : Char) : isSeparator c.toUpper = isSeparator c := by
  by_cases h : 'a'.val ≤ c.val ∧ c.val ≤ 'z'.val
  · exact forall_lower (P := fun c => isSeparator c.toUpper = isSeparator c) (by decide) h.1 h.2
  · rw [toUpper_eq_self h]

theorem toUpper_hexDigit (c : Char) : isHexDigit c.toUpper = isHexDigit c := by
  by_cases h : 'a'.val ≤ c.val ∧ c.val ≤ 'z'.val
  · exact forall_lower (P := fun c => isHexDigit c.toUpper = isHexDigit c) (by decide) h.1 h.2
  · rw [toUpper_eq_self h]

theorem toLower_toUpper (c : Char) : c.toUpper.toLower = c.toLower := by
  by_cases h : 'a'.val ≤ c.val ∧ c.val ≤ 'z'.val
  · exact forall_lower (P := fun c => c.toUpper.toLower = c.toLower) (by decide) h.1 h.2
  · rw [toUpper_eq_self h]

theorem toLower_dash (h : c.toLower = '-') : c = '-' := by
  by_cases hupper : c.val ≥ 'A'.val ∧ c.val ≤ 'Z'.val
  · exact forall_upper (P := fun c => c.toLower = '-' → c = '-') (by decide) hupper.1 hupper.2 h
  · rwa [toLower_eq_self hupper] at h

/-! ## The shape of an address -/

theorem splitOnP_map {α : Type} (p : α → Bool) (f : α → α) (hf : ∀ x, p (f x) = p x) (xs : List α) :
    (xs.map f).splitOnP p = (xs.splitOnP p).map (List.map f) := by
  induction xs with
  | nil => rfl
  | cons x xs ih =>
    rw [List.map_cons, List.splitOnP_cons_eq_if_modifyHead, List.splitOnP_cons_eq_if_modifyHead,
      hf, ih]
    split
    · rfl
    · cases xs.splitOnP p <;> rfl

/-- The parts and the separators of a text. -/
theorem length_splitOnP {α : Type} (p : α → Bool) (xs : List α) :
    (xs.splitOnP p).flatten.length + xs.countP p = xs.length ∧
      (xs.splitOnP p).length = xs.countP p + 1 := by
  induction xs with
  | nil => exact ⟨rfl, rfl⟩
  | cons x xs ih =>
    rw [List.splitOnP_cons_eq_if_modifyHead, List.countP_cons, List.length_cons]
    split
    · simp only [List.flatten_cons, List.nil_append, List.length_cons]
      omega
    · obtain ⟨part, parts, hparts⟩ := List.exists_cons_of_ne_nil (List.splitOnP_ne_nil p xs)
      rw [hparts] at ih ⊢
      simp only [List.modifyHead_cons, List.flatten_cons, List.length_append,
        List.length_cons] at ih ⊢
      omega

/-- A change of characters that keeps separators and digits keeps the shape. -/
theorem looksLikeBssid_map (f : Char → Char) (hseparator : ∀ c, isSeparator (f c) = isSeparator c)
    (hdigit : ∀ c, isHexDigit (f c) = isHexDigit c) (t : List Char) :
    looksLikeBssid (String.ofList (t.map f)) = looksLikeBssid (String.ofList t) := by
  simp only [looksLikeBssid, String.toList_ofList]
  have hcount : (t.map f).countP isSeparator = t.countP isSeparator := by
    rw [List.countP_map]
    exact congrArg (fun p => t.countP p) (funext hseparator)
  have hall : ((t.map f).splitOnP isSeparator).all (fun part => part.length = 2 && part.all isHexDigit)
      = (t.splitOnP isSeparator).all (fun part => part.length = 2 && part.all isHexDigit) := by
    rw [splitOnP_map _ f hseparator, List.all_map]
    refine congrArg (fun p => List.all _ p) (funext fun part => ?_)
    have hdigits : (fun c => isHexDigit (f c)) = isHexDigit := funext hdigit
    simp only [Function.comp_apply, List.length_map, List.all_map, Function.comp_def, hdigits]
  exact congrArg₂ (fun n b => decide (n = 5) && b) hcount hall

/-- An address that has no separators but colons. -/
def isColonAddress (t : String) : Bool := looksLikeBssid t && !t.toList.contains '-'

/-- The change that gives the normal form of an address. -/
def normalChar (c : Char) : Char := (if c = '-' then ':' else c).toUpper

theorem normalChar_separator (c : Char) : isSeparator (normalChar c) = isSeparator c := by
  rw [normalChar, toUpper_separator]
  split
  · rename_i h
    rw [h]
    rfl
  · rfl

theorem normalChar_hexDigit (c : Char) : isHexDigit (normalChar c) = isHexDigit c := by
  rw [normalChar, toUpper_hexDigit]
  split
  · rename_i h
    rw [h]
    decide
  · rfl

theorem parseTargetBssid_ok {value y : String} (h : parseTargetBssid value = .ok y) :
    looksLikeBssid value = true ∧ y.toList = value.toList.map normalChar := by
  rw [parseTargetBssid] at h
  split at h
  · rename_i hlooks
    cases h
    exact ⟨hlooks, String.toList_ofList⟩
  · cases h

variable {t : String}

/-- What equals the address of a target is an address with colons. -/
theorem colon_of_target {value y : String} (hy : parseTargetBssid value = .ok y)
    (heq : eqIgnoreAsciiCase y t = true) : isColonAddress t = true := by
  obtain ⟨hlooks, hlist⟩ := parseTargetBssid_ok hy
  have hsame : (value.toList.map normalChar).map Char.toLower = t.toList.map Char.toLower := by
    rw [← hlist]
    exact of_decide_eq_true heq
  have hshape : looksLikeBssid t = true := by
    have hlower := looksLikeBssid_map Char.toLower toLower_separator toLower_hexDigit t.toList
    rw [String.ofList_toList, ← hsame, looksLikeBssid_map _ toLower_separator toLower_hexDigit,
      looksLikeBssid_map _ normalChar_separator normalChar_hexDigit, String.ofList_toList,
      hlooks] at hlower
    exact hlower.symm
  have hdash : '-' ∉ t.toList := by
    intro hmem
    have hlower : '-' ∈ t.toList.map Char.toLower := List.mem_map.mpr ⟨'-', hmem, rfl⟩
    rw [← hsame, List.map_map] at hlower
    obtain ⟨c, -, hc⟩ := List.mem_map.mp hlower
    have hnormal := hc
    rw [Function.comp_apply, normalChar, toLower_toUpper] at hnormal
    split at hnormal
    · exact absurd hnormal (by decide)
    · rename_i hne
      exact hne (toLower_dash hnormal)
  rw [isColonAddress, hshape, Bool.true_and, Bool.not_eq_true', ← Bool.not_eq_true,
    List.contains_iff_mem]
  exact hdash

/-- And each of these equals the address of a target. -/
theorem target_of_colon (h : isColonAddress t = true) :
    ∃ y, parseTargetBssid t = .ok y ∧ eqIgnoreAsciiCase y t = true := by
  rw [isColonAddress, Bool.and_eq_true, Bool.not_eq_true', ← Bool.not_eq_true,
    List.contains_iff_mem] at h
  refine ⟨_, by rw [parseTargetBssid, if_pos h.1], decide_eq_true ?_⟩
  rw [String.toList_ofList, List.map_map]
  refine List.map_congr_left fun c hc => ?_
  rw [Function.comp_apply, toLower_toUpper, if_neg]
  rintro rfl
  exact h.2 hc

/-! ## Bytes -/

theorem length_le_utf8Len (t : List Char) : t.length ≤ String.utf8Len t := by
  induction t with
  | nil => exact le_rfl
  | cons c t ih =>
    rw [List.length_cons, String.utf8Len_cons]
    exact Nat.add_le_add ih c.utf8Size_pos

/-- Six bytes are too few for the text of an address. -/
theorem colon_size (h : isColonAddress t = true) : 6 < t.utf8ByteSize := by
  rw [isColonAddress, Bool.and_eq_true, looksLikeBssid, Bool.and_eq_true, decide_eq_true_eq,
    List.all_eq_true] at h
  obtain ⟨⟨hcount, hparts⟩, -⟩ := h
  obtain ⟨hlength, hnumber⟩ := length_splitOnP isSeparator t.toList
  -- six parts of two digits
  have hflat : (t.toList.splitOnP isSeparator).flatten.length = 12 := by
    have htwo : ∀ part ∈ t.toList.splitOnP isSeparator, part.length = 2 := by
      intro part hpart
      have := hparts part hpart
      rw [Bool.and_eq_true, decide_eq_true_eq] at this
      exact this.1
    rw [List.length_flatten, List.map_congr_left htwo, List.map_const', hnumber,
      show t.toList.countP isSeparator = 5 from hcount]
    rfl
  calc 6 < t.toList.length := by omega
    _ ≤ String.utf8Len t.toList := length_le_utf8Len _
    _ = t.utf8ByteSize := String.utf8Len_toList t

variable {bytes : List UInt8}

/-- The size of text that was read from bytes. -/
theorem utf8ByteSize_of_bytes (h : String.fromUTF8? ⟨bytes.toArray⟩ = some t) :
    t.utf8ByteSize = bytes.length := by
  rw [String.fromUTF8?] at h
  split at h <;> cases h
  rfl

/-- The parts of an address with colons between them. -/
def joinColons : List (List Char) → List Char
  | [] => []
  | [part] => part
  | part :: parts => part ++ ':' :: joinColons parts

/-- The text of an address. -/
def formatBssid (bytes : List UInt8) : String := String.ofList (joinColons (bytes.map (hexPair 'A')))

/-- A digit as it is written, as bytes and as a number. -/
theorem hexDigit_spec {a : Char} (ha : a ∈ ['a', 'A']) : ∀ n < 16,
    isHexDigit (hexDigit a n) = true ∧ isSeparator (hexDigit a n) = false ∧ hexDigit a n ≠ '+' ∧
    hexDigit a n ≠ '|' ∧ hexValue (hexDigit a n) = some n ∧
    String.utf8EncodeChar (hexDigit a n) = [UInt8.ofNat (hexDigit a n).toNat] := by
  rcases List.mem_pair.mp ha with rfl | rfl <;> decide

/-- In a byte the specification can be used for both digits. -/
theorem hexPair_spec {a : Char} (ha : a ∈ ['a', 'A']) (byte : UInt8) : ∀ c ∈ hexPair a byte,
    isHexDigit c = true ∧ isSeparator c = false ∧ c ≠ '+' ∧ c ≠ '|' := by
  have hsize := byte.toNat_lt
  intro c hc
  rw [hexPair, List.mem_pair] at hc
  obtain ⟨n, hn, rfl⟩ : ∃ n < 16, c = hexDigit a n := by
    rcases hc with rfl | rfl
    · exact ⟨_, by omega, rfl⟩
    · exact ⟨_, by omega, rfl⟩
  obtain ⟨hdigit, hseparator, hplus, hbar, -⟩ := hexDigit_spec ha n hn
  exact ⟨hdigit, hseparator, hplus, hbar⟩

/-- Two digits are one byte. -/
theorem parseHexByte_pair {d : Char} {high low : ℕ} (hplus : c ≠ '+') (hc : hexValue c = some high)
    (hd : hexValue d = some low) (hsize : high * 16 + low < 256) :
    parseHexByte [c, d] = some (UInt8.ofNat (high * 16 + low)) := by
  have hfirst : addDigit 0 c = some high := by
    rw [addDigit, hc, Option.bind_some, if_pos (by omega), Nat.zero_mul, Nat.zero_add]
  have hsecond : addDigit high d = some (high * 16 + low) := by
    rw [addDigit, hd, Option.bind_some, if_pos hsize]
  rw [parseHexByte, if_neg (by exact List.cons_ne_nil _ _), List.foldlM_cons, hfirst,
    Option.bind_eq_bind, Option.bind_some, List.foldlM_cons, hsecond, Option.bind_eq_bind,
    Option.bind_some, List.foldlM_nil, Option.pure_def, Option.map_some]
  -- there is no sign before the digits
  intro rest heq
  exact hplus (List.cons.inj heq).1

theorem parseHexByte_hexPair {a : Char} (ha : a ∈ ['a', 'A']) (byte : UInt8) :
    parseHexByte (hexPair a byte) = some byte := by
  have hsize := byte.toNat_lt
  obtain ⟨-, -, hplus, -, hhigh, -⟩ := hexDigit_spec ha (byte.toNat / 16) (by omega)
  obtain ⟨-, -, -, -, hlow, -⟩ := hexDigit_spec ha (byte.toNat % 16) (by omega)
  rw [hexPair, parseHexByte_pair hplus hhigh hlow (by omega),
    show byte.toNat / 16 * 16 + byte.toNat % 16 = byte.toNat by omega, UInt8.ofNat_toNat]

theorem upper_mem : 'A' ∈ ['a', 'A'] := List.mem_cons_of_mem _ (List.mem_singleton_self _)

theorem hexPair_separator (byte : UInt8) : ∀ c ∈ hexPair 'A' byte, isSeparator c = false :=
  fun c hc => (hexPair_spec upper_mem byte c hc).2.1

/-- Splitting undoes the joining, and there is one colon less than there are parts. -/
theorem splitOnP_joinColons (byte : UInt8) (bytes : List UInt8) :
    (joinColons ((byte :: bytes).map (hexPair 'A'))).splitOnP isSeparator =
      (byte :: bytes).map (hexPair 'A') := by
  induction bytes generalizing byte with
  | nil => exact List.splitOnP_eq_singleton (hexPair_separator byte)
  | cons next bytes ih =>
    rw [List.map_cons, List.map_cons, joinColons, ← List.map_cons,
      List.splitOnP_append_cons_of_forall_mem (hexPair_separator byte) ':' rfl, ih]
    exact List.cons_ne_nil _ _

/-- Six bytes are an address. -/
theorem looksLikeBssid_format (h : bytes.length = 6) :
    looksLikeBssid (formatBssid bytes) = true := by
  obtain ⟨byte, rest, rfl⟩ := List.exists_cons_of_length_eq_add_one h
  have hsplit := splitOnP_joinColons byte rest
  have hnumber := (length_splitOnP isSeparator (joinColons ((byte :: rest).map (hexPair 'A')))).2
  rw [hsplit, List.length_map, h] at hnumber
  rw [looksLikeBssid, formatBssid, String.toList_ofList, Bool.and_eq_true, decide_eq_true_eq,
    List.all_eq_true]
  refine ⟨(Nat.succ.inj hnumber).symm, fun part hpart => ?_⟩
  obtain ⟨b, -, rfl⟩ := List.mem_map.mp (hsplit ▸ hpart)
  rw [Bool.and_eq_true]
  exact ⟨rfl, List.all_eq_true.mpr fun c hc => (hexPair_spec upper_mem b c hc).1⟩

/-- And they are read back. -/
theorem parseBssid_format (h : bytes.length = 6) : parseBssid (formatBssid bytes) = some bytes := by
  obtain ⟨byte, rest, rfl⟩ := List.exists_cons_of_length_eq_add_one h
  have hparts : ∀ bytes : List UInt8, (bytes.map (hexPair 'A')).mapM parseHexByte = some bytes := by
    intro bytes
    induction bytes with
    | nil => rfl
    | cons byte bytes ih =>
      rw [List.map_cons, List.mapM_cons, parseHexByte_hexPair upper_mem, ih]
      rfl
  rw [parseBssid, formatBssid, String.toList_ofList, splitOnP_joinColons, hparts, Option.filter_some,
    if_pos (decide_eq_true h)]

end Wifi

end NmDaemon
