import NmDaemon.Base.Distinct
import NmDaemon.Base.Fallible
import NmDaemon.Base.Grouping
import NmDaemon.Base.Utf8
import NmDaemon.WifiAddresses
import NmDaemon.WifiProfiles
import NmDaemon.WifiQr
import NmDaemon.WifiSecurity

/-!
# Network entries

`network_entries_with_profile_matches` (`model.rs`): the access points of a scan, put together
into the networks that a frontend shows. Access points are one network if they have one name,
one security class and one device; the name alone is no identity, since anyone may use it. An
entry has a key that frontends select it by, one of its access points to stand for it, and the
saved profiles that its access points match.

* `entries_eq` — an entry is made of all access points of one identity;
* `identityKey_injective`, `ssidForNetworkKey_key` — the key tells the identity, and gives
  back the name;
* `preferred_spec` — the access point shown;
* `profilesForAccessPointGroup_eq` — the profiles, each once, those of active access points
  first;
* `entries_partition` — all of it, for every scan.
-/

namespace NmDaemon

namespace Networks

open Wifi Grouping
open NmDaemon.Connect (hexDigit hexPair)
open NmDaemon.Runtime (SsidBytes)

/-- An access point as it is listed and cached. -/
structure ListedAccessPoint : Type extends ScannedAccessPoint where
  active : Bool
  security : Security
  mode : String
  maxBitrateMbps : ℕ
  bandwidthMhz : ℕ
  ssidHex : String
  wpaFlagsLabel : String
  rsnFlagsLabel : String
  lastSeen : ℤ
  lastSeenAgeMs : Option ℕ
  path : String
  devicePath : String

/-! ## Groups -/

/-- What makes access points one network. -/
abbrev Identity : Type := SsidBytes × SecurityClass × String

def identity (ap : ListedAccessPoint) : Identity :=
  (ap.exactSsid, ap.securityClass, ap.deviceIface)

/-- The order of the variants. -/
def classRank : SecurityClass → ℕ
  | .opened => 0
  | .enhancedOpen => 1
  | .legacy => 2
  | .personal => 3
  | .enterprise => 4
  | .unknown => 5

/-- The order of byte strings, and of texts by their bytes. -/
def compareBytes : List UInt8 → List UInt8 → Ordering
  | [], [] => .eq
  | [], _ :: _ => .lt
  | _ :: _, [] => .gt
  | a :: as, b :: bs => (compare a.toNat b.toNat).then (compareBytes as bs)

def identityLe (a b : Identity) : Bool :=
  ((compareBytes a.1 b.1).then ((compare (classRank a.2.1) (classRank b.2.1)).then
    (compareBytes a.2.2.toUTF8.data.toList b.2.2.toUTF8.data.toList))).isLE

def groupedAccessPoints (accessPoints : List ListedAccessPoint) : List (List ListedAccessPoint) :=
  (sortedGroups identity identityLe accessPoints).map Prod.snd

/-! ## Keys -/

def securityClassKey : SecurityClass → String
  | .opened => "open"
  | .enhancedOpen => "enhanced-open"
  | .legacy => "legacy"
  | .personal => "personal"
  | .enterprise => "enterprise"
  | .unknown => "unknown"

/-- The key of an identity. -/
def identityKey (i : Identity) : String :=
  "ssid-hex:" ++ Connect.ssidHex i.1 ++ "|security:" ++ securityClassKey i.2.1 ++ "|ifname:" ++
    Connect.ssidHex i.2.2.toUTF8.data.toList

def networkKeyFor (ap : ListedAccessPoint) : String := identityKey (identity ap)

/-- `chunks_exact(2)` -/
def chunksOfTwo : List UInt8 → List (List UInt8)
  | a :: b :: rest => [a, b] :: chunksOfTwo rest
  | _ => []

/-- `Ssid::from_bytes` -/
def ssidFromBytes (displaySsid : SsidBytes → String) (bytes : SsidBytes) : Except String Ssid :=
  if h : bytes ≠ [] ∧ bytes.length ≤ 32 then .ok ⟨bytes, displaySsid bytes, h.1, h.2⟩
  else .error (ssidSizeMessage bytes)

def parseOctet (pair : List UInt8) : Except String UInt8 :=
  ((String.fromUTF8? ⟨pair.toArray⟩).bind fun octet => parseHexByte octet.toList).elim
    (.error "invalid Wi-Fi network key") .ok

def ssidForNetworkKey (displaySsid : SsidBytes → String) (key : String) : Except String Ssid := do
  let encoded ← (Qr.stripPrefix "ssid-hex:".toList key.toList).elim
    (.error "invalid Wi-Fi network key") fun value => .ok (value.takeWhile (· ≠ '|'))
  let encoded := (String.ofList encoded).toUTF8.data.toList
  if encoded.length % 2 ≠ 0 then .error "invalid Wi-Fi network key"
  else
    let bytes ← (chunksOfTwo encoded).mapM parseOctet
    ssidFromBytes displaySsid bytes

/-! ## Entries -/

def better (left right : ListedAccessPoint) : Ordering :=
  (compare left.active.toNat right.active.toNat).then (compare left.strength right.strength)

/-- The better of two, and the later one if they are equal. -/
def choose (best ap : ListedAccessPoint) : ListedAccessPoint :=
  if better best ap = .gt then best else ap

/-- `max_by`: the last of the greatest. -/
def preferredAccessPoint : List ListedAccessPoint → Option ListedAccessPoint
  | [] => none
  | ap :: aps => some (aps.foldl choose ap)

/-- The profiles that an access point matches. -/
abbrev ProfileMatches : Type := Table String (List SavedWifiConnection)

def profilesForAccessPointGroup (accessPoints : List ListedAccessPoint)
    (profileMatches : ProfileMatches) : List SavedWifiConnection :=
  Distinct.firsts SavedWifiConnection.path []
    ((accessPoints.filter (·.active) ++ accessPoints.filter (!·.active)).filterMap
      (fun ap => profileMatches.lookup ap.path)).flatten

inductive ConnectionReadiness : Type where
  | ready
  | needsPassword
  | needsEnterpriseCredentials
  | unsupported (reason : Option String)

def unsupportedAuthReason (ap : ListedAccessPoint) : String :=
  "unsupported authentication flags for '" ++ ap.ssid ++ "': flags=" ++ toString ap.flags.toNat ++
    ", wpa='" ++ ap.wpaFlagsLabel ++ "', rsn='" ++ ap.rsnFlagsLabel ++
    "'; supported profile creation covers open/OWE, WEP, WPA/SAE-Personal, WPA-Enterprise, and " ++
    "saved profiles"

def connectionReadiness (ap : ListedAccessPoint) (hasProfile : Bool) : ConnectionReadiness :=
  if ap.exactSsid = [] then .unsupported (some "network has no usable SSID")
  else if hasProfile then .ready
  else
    match classify ap.flags ap.wpaFlags ap.rsnFlags with
    | .opened | .owe => .ready
    | .personal | .wep => .needsPassword
    | .enterprise => .needsEnterpriseCredentials
    | .unsupported => .unsupported (some (unsupportedAuthReason ap))

/-- A network. The hints for its display (sharing, prompts, authentication) are left out. -/
structure NetworkEntry : Type where
  accessPoint : ListedAccessPoint
  securityClass : SecurityClass
  key : String
  accessPoints : List ListedAccessPoint
  primaryProfile : Option SavedWifiConnection
  profiles : List SavedWifiConnection
  readiness : ConnectionReadiness
  hasProfile : Bool

/-- A network as it is listed: its best access point stands for it. -/
def networkEntryWithProfiles (accessPoints : List ListedAccessPoint)
    (profiles : List SavedWifiConnection) : Option NetworkEntry :=
  (preferredAccessPoint accessPoints).map fun accessPoint =>
    let primaryProfile := profiles.head?
    let hasProfile := primaryProfile.isSome
    { accessPoint
      securityClass := accessPoint.securityClass
      key := networkKeyFor accessPoint
      accessPoints
      primaryProfile
      profiles
      readiness := connectionReadiness accessPoint hasProfile
      hasProfile }

def networkEntriesWithProfileMatches (accessPoints : List ListedAccessPoint)
    (profileMatches : ProfileMatches) : List NetworkEntry :=
  (groupedAccessPoints accessPoints).filterMap fun group =>
    networkEntryWithProfiles group (profilesForAccessPointGroup group profileMatches)

/-! ## The access point shown -/

/-- Active before inactive, and then by strength. -/
def AtLeast (best ap : ListedAccessPoint) : Prop :=
  ap.active.toNat < best.active.toNat ∨
    (ap.active.toNat = best.active.toNat ∧ ap.strength ≤ best.strength)

theorem AtLeast.trans {a b c : ListedAccessPoint} (hab : AtLeast a b) (hbc : AtLeast b c) :
    AtLeast a c := by
  unfold AtLeast at *
  omega

theorem better_iff {a b : ListedAccessPoint} : better a b = .gt ↔ ¬AtLeast b a := by
  unfold better AtLeast
  rw [Ordering.then_eq_gt, Nat.compare_eq_gt, Nat.compare_eq_eq, Nat.compare_eq_gt]
  omega

theorem choose_spec (best ap : ListedAccessPoint) :
    (choose best ap = best ∨ choose best ap = ap) ∧ AtLeast (choose best ap) best ∧
      AtLeast (choose best ap) ap := by
  unfold choose
  by_cases h : better best ap = .gt
  · have hnot := better_iff.mp h
    rw [if_pos h]
    refine ⟨.inl rfl, .inr ⟨rfl, Nat.le_refl _⟩, ?_⟩
    unfold AtLeast at *
    omega
  · rw [if_neg h]
    exact ⟨.inr rfl, not_not.mp (mt better_iff.mpr h), .inr ⟨rfl, Nat.le_refl _⟩⟩

theorem foldl_choose_spec (aps : List ListedAccessPoint) (ap : ListedAccessPoint) :
    aps.foldl choose ap ∈ ap :: aps ∧ ∀ member ∈ ap :: aps, AtLeast (aps.foldl choose ap) member := by
  induction aps generalizing ap with
  | nil =>
    refine ⟨List.mem_cons_self, fun member hmember => ?_⟩
    obtain rfl := List.mem_singleton.mp hmember
    exact .inr ⟨rfl, Nat.le_refl _⟩
  | cons next aps ih =>
    rw [List.foldl_cons]
    obtain ⟨hmem, hbest⟩ := ih (choose ap next)
    obtain ⟨hone, hap, hnext⟩ := choose_spec ap next
    have hchosen := hbest _ List.mem_cons_self
    constructor
    · rcases List.mem_cons.mp hmem with heq | hlater
      · rw [heq]
        rcases hone with hone | hone
        · rw [hone]
          exact List.mem_cons_self
        · rw [hone]
          exact List.mem_cons_of_mem _ List.mem_cons_self
      · exact List.mem_cons_of_mem _ (List.mem_cons_of_mem _ hlater)
    · intro member hmember
      rcases List.mem_cons.mp hmember with rfl | hmember
      · exact hchosen.trans hap
      rcases List.mem_cons.mp hmember with rfl | hmember
      · exact hchosen.trans hnext
      · exact hbest member (List.mem_cons_of_mem _ hmember)

/-- The access point shown is one of the group, and none is better. -/
theorem preferred_spec {aps : List ListedAccessPoint} {ap : ListedAccessPoint}
    (h : preferredAccessPoint aps = some ap) : ap ∈ aps ∧ ∀ member ∈ aps, AtLeast ap member := by
  cases aps with
  | nil => cases h
  | cons first aps =>
    obtain rfl := Option.some.inj h
    exact foldl_choose_spec aps first

theorem preferred_isSome {aps : List ListedAccessPoint} (h : aps ≠ []) :
    ∃ ap, preferredAccessPoint aps = some ap := by
  cases aps with
  | nil => exact absurd rfl h
  | cons first aps => exact ⟨_, rfl⟩

/-! ## Entries and groups -/

theorem identity_of_mem_filter {aps : List ListedAccessPoint} {i : Identity} {ap : ListedAccessPoint}
    (h : ap ∈ aps.filter fun ap => identity ap = i) : identity ap = i :=
  of_decide_eq_true (List.mem_filter.mp h).2

/-- The entry of an identity. -/
structure EntryOf (aps : List ListedAccessPoint) (profileMatches : ProfileMatches) (i : Identity)
    (entry : NetworkEntry) : Prop where
  members : entry.accessPoints = aps.filter fun ap => identity ap = i
  shown : entry.accessPoint ∈ entry.accessPoints
  best : ∀ member ∈ entry.accessPoints, AtLeast entry.accessPoint member
  key : entry.key = identityKey i
  profiles : entry.profiles = profilesForAccessPointGroup entry.accessPoints profileMatches
  securityClass : entry.securityClass = i.2.1

theorem entryOf_group {aps : List ListedAccessPoint} {profileMatches : ProfileMatches}
    {i : Identity} {entry : NetworkEntry}
    (h : networkEntryWithProfiles (aps.filter fun ap => identity ap = i)
      (profilesForAccessPointGroup (aps.filter fun ap => identity ap = i) profileMatches) =
        some entry) : EntryOf aps profileMatches i entry := by
  obtain ⟨ap, hap, rfl⟩ := Option.map_eq_some_iff.mp h
  obtain ⟨hmem, hbest⟩ := preferred_spec hap
  have hidentity : identity ap = i := identity_of_mem_filter hmem
  exact ⟨rfl, hmem, hbest, congrArg identityKey hidentity, rfl, congrArg (·.2.1) hidentity⟩

theorem forall₂_groups {aps : List ListedAccessPoint} (profileMatches : ProfileMatches)
    {groups : List (Identity × List ListedAccessPoint)}
    (h : ∀ g ∈ groups, g.2 = aps.filter (fun ap => identity ap = g.1) ∧ g.2 ≠ []) :
    List.Forall₂ (EntryOf aps profileMatches) (groups.map Prod.fst)
      ((groups.map Prod.snd).filterMap fun group =>
        networkEntryWithProfiles group (profilesForAccessPointGroup group profileMatches)) := by
  induction groups with
  | nil => exact .nil
  | cons g groups ih =>
    obtain ⟨hmembers, hne⟩ := h g List.mem_cons_self
    obtain ⟨ap, hap⟩ := preferred_isSome hne
    -- no group is empty, so none is left out
    obtain ⟨entry, hentry⟩ : ∃ entry, networkEntryWithProfiles g.2
        (profilesForAccessPointGroup g.2 profileMatches) = some entry :=
      ⟨_, Option.map_eq_some_iff.mpr ⟨ap, hap, rfl⟩⟩
    rw [List.map_cons, List.map_cons, List.filterMap_cons, hentry]
    refine .cons (entryOf_group ?_) (ih fun g hg => h g (List.mem_cons_of_mem _ hg))
    rw [← hmembers]
    exact hentry

/-- The entries are those of the identities that occur, one for each. -/
theorem entries_eq (aps : List ListedAccessPoint) (profileMatches : ProfileMatches) :
    ∃ identities : List Identity, identities.Nodup ∧
      (∀ i, i ∈ identities ↔ ∃ ap ∈ aps, identity ap = i) ∧
      List.Forall₂ (EntryOf aps profileMatches) identities
        (networkEntriesWithProfileMatches aps profileMatches) := by
  refine ⟨(sortedGroups identity identityLe aps).map Prod.fst,
    nodup_sortedGroups identity identityLe aps, fun i => ?_,
    forall₂_groups profileMatches fun g hg => (mem_sortedGroups identity identityLe).mp hg⟩
  constructor
  · intro hi
    obtain ⟨⟨_, group⟩, hg, rfl⟩ := List.mem_map.mp hi
    obtain ⟨rfl, hne⟩ := (mem_sortedGroups identity identityLe).mp hg
    obtain ⟨ap, hap⟩ := List.exists_mem_of_ne_nil _ hne
    exact ⟨ap, (List.mem_filter.mp hap).1, identity_of_mem_filter hap⟩
  · rintro ⟨ap, hap, rfl⟩
    exact List.mem_map.mpr ⟨_, exists_group identity identityLe hap, rfl⟩

section Entries

variable {aps : List ListedAccessPoint} {profileMatches : ProfileMatches} {i : Identity}
  {identities : List Identity} {entry : NetworkEntry} {entries : List NetworkEntry}

theorem EntryOf.mem_iff (h : EntryOf aps profileMatches i entry) {ap : ListedAccessPoint} :
    ap ∈ entry.accessPoints ↔ ap ∈ aps ∧ identity ap = i := by
  rw [h.members, List.mem_filter, decide_eq_true_eq]

variable (h : List.Forall₂ (EntryOf aps profileMatches) identities entries)

include h

theorem exists_identity (hentry : entry ∈ entries) : ∃ i, EntryOf aps profileMatches i entry := by
  induction h with
  | nil => cases hentry
  | cons hfirst _ ih =>
    rcases List.mem_cons.mp hentry with rfl | hentry
    · exact ⟨_, hfirst⟩
    · exact ih hentry

theorem exists_entry
    (hi : i ∈ identities) : ∃ entry ∈ entries, EntryOf aps profileMatches i entry := by
  induction h with
  | nil => cases hi
  | cons hfirst _ ih =>
    rcases List.mem_cons.mp hi with rfl | hi
    · exact ⟨_, List.mem_cons_self, hfirst⟩
    · obtain ⟨entry, hentry, hof⟩ := ih hi
      exact ⟨entry, List.mem_cons_of_mem _ hentry, hof⟩

theorem keys_eq : entries.map NetworkEntry.key = identities.map identityKey := by
  induction h with
  | nil => rfl
  | cons hfirst _ ih => rw [List.map_cons, List.map_cons, hfirst.key, ih]

end Entries

/-! ## Reading a key -/

theorem lower_mem : 'a' ∈ ['a', 'A'] := List.mem_cons_self

theorem ssidHex_toList (bytes : SsidBytes) :
    (Connect.ssidHex bytes).toList = bytes.flatMap (hexPair 'a') := by
  rw [Connect.ssidHex, String.toList_ofList]

theorem notMem_ssidHex (bytes : SsidBytes) : '|' ∉ (Connect.ssidHex bytes).toList := by
  rw [ssidHex_toList, List.mem_flatMap]
  rintro ⟨b, -, hb⟩
  exact (hexPair_spec lower_mem b _ hb).2.2.2 rfl

/-- The bytes of the two digits. -/
def octet (b : UInt8) : List UInt8 := (hexPair 'a' b).flatMap String.utf8EncodeChar

theorem octet_eq (b : UInt8) : octet b = [UInt8.ofNat (hexDigit 'a' (b.toNat / 16)).toNat,
    UInt8.ofNat (hexDigit 'a' (b.toNat % 16)).toNat] := by
  have hsize := b.toNat_lt
  obtain ⟨-, -, -, -, -, hhigh⟩ := hexDigit_spec lower_mem (b.toNat / 16) (by omega)
  obtain ⟨-, -, -, -, -, hlow⟩ := hexDigit_spec lower_mem (b.toNat % 16) (by omega)
  rw [octet, hexPair, List.flatMap_cons, List.flatMap_cons, List.flatMap_nil, hhigh, hlow]
  rfl

theorem parseOctet_octet (b : UInt8) : parseOctet (octet b) = .ok b := by
  have htext : String.fromUTF8? ⟨(octet b).toArray⟩ = some (String.ofList (hexPair 'a' b)) := by
    rw [Utf8.fromUTF8_eq_some, Utf8.toUTF8_ofList]
    rfl
  rw [parseOctet, htext, Option.bind_some, String.toList_ofList, parseHexByte_hexPair lower_mem]
  rfl

theorem chunksOfTwo_flatMap (bytes : SsidBytes) :
    chunksOfTwo (bytes.flatMap octet) = bytes.map octet := by
  induction bytes with
  | nil => rfl
  | cons b bytes ih =>
    rw [List.flatMap_cons, List.map_cons, ← ih, octet_eq]
    rfl

theorem ssidHex_bytes (bytes : SsidBytes) :
    (Connect.ssidHex bytes).toUTF8.data.toList = bytes.flatMap octet := by
  rw [← String.ofList_toList (s := Connect.ssidHex bytes), ssidHex_toList, Utf8.toUTF8_ofList,
    List.flatMap_assoc]
  rfl

theorem even_length_ssidHex (bytes : SsidBytes) :
    (Connect.ssidHex bytes).toUTF8.data.toList.length % 2 = 0 := by
  rw [ssidHex_bytes]
  induction bytes with
  | nil => rfl
  | cons b bytes ih =>
    rw [List.flatMap_cons, List.length_append, octet_eq, List.length_cons, List.length_singleton]
    omega

/-- The digits of a byte string are read back as the bytes. -/
theorem decode_ssidHex (bytes : SsidBytes) :
    (chunksOfTwo (Connect.ssidHex bytes).toUTF8.data.toList).mapM parseOctet = .ok bytes := by
  have hall : ∀ b ∈ bytes, (parseOctet ∘ octet) b = .ok (id b) := fun b _ => parseOctet_octet b
  rw [ssidHex_bytes, chunksOfTwo_flatMap, List.mapM_map, Fallible.mapM_ok hall, List.map_id]

theorem ssidHex_injective : Function.Injective Connect.ssidHex := by
  intro a b h
  have ha := decode_ssidHex a
  rw [h, decode_ssidHex b] at ha
  exact (Except.ok.inj ha).symm

/-- What stands before the first separator. -/
theorem takeWhile_append_separator {a : List Char} (h : '|' ∉ a) (b : List Char) :
    (a ++ '|' :: b).takeWhile (· ≠ '|') = a := by
  rw [List.takeWhile_append_of_pos fun c hc => decide_eq_true (ne_of_mem_of_not_mem hc h),
    List.takeWhile_cons, if_neg (by decide), List.append_nil]

theorem append_separator_inj {a a' b b' : List Char} (ha : '|' ∉ a) (ha' : '|' ∉ a')
    (h : a ++ '|' :: b = a' ++ '|' :: b') : a = a' ∧ b = b' := by
  have hfirst := congrArg (List.takeWhile (· ≠ '|')) h
  rw [takeWhile_append_separator ha, takeWhile_append_separator ha'] at hfirst
  subst hfirst
  exact ⟨rfl, (List.cons.inj (List.append_cancel_left h)).2⟩

theorem identityKey_toList (i : Identity) : (identityKey i).toList =
    "ssid-hex:".toList ++ ((Connect.ssidHex i.1).toList ++ '|' :: ("security:".toList ++
      (securityClassKey i.2.1).toList ++ '|' :: ("ifname:".toList ++
        (Connect.ssidHex i.2.2.toUTF8.data.toList).toList))) := by
  simp [identityKey]

theorem securityClassKey_injective : Function.Injective securityClassKey := by
  intro a b h
  revert h
  cases a <;> cases b <;> decide

/-- The key tells the name, the security class and the device. -/
theorem identityKey_injective : Function.Injective identityKey := by
  intro i j h
  have hchars := congrArg String.toList h
  rw [identityKey_toList, identityKey_toList] at hchars
  obtain ⟨hssid, hrest⟩ := append_separator_inj (notMem_ssidHex _) (notMem_ssidHex _)
    (List.append_cancel_left hchars)
  have hclass : ∀ c : SecurityClass,
      '|' ∉ "security:".toList ++ (securityClassKey c).toList := by
    intro c
    cases c <;> decide
  obtain ⟨hcls, hiface⟩ := append_separator_inj (hclass _) (hclass _) hrest
  have hbytes := ssidHex_injective (String.toList_inj.mp (List.append_cancel_left hiface))
  have hname : i.2.2.toByteArray = j.2.2.toByteArray := ByteArray.ext (Array.toList_inj.mp hbytes)
  refine Prod.ext (ssidHex_injective (String.toList_inj.mp hssid)) (Prod.ext ?_ ?_)
  · exact securityClassKey_injective (String.toList_inj.mp (List.append_cancel_left hcls))
  · exact String.toByteArray_inj.mp hname

/-- A key with the digits of a name is read as the name, whatever follows a separator. -/
theorem ssidForNetworkKey_digits (displaySsid : SsidBytes → String) {key : String}
    {bytes : SsidBytes} {rest : List Char}
    (hkey : key.toList = "ssid-hex:".toList ++ ((Connect.ssidHex bytes).toList ++ rest))
    (hrest : rest = [] ∨ ∃ suffix, rest = '|' :: suffix) :
    ssidForNetworkKey displaySsid key = ssidFromBytes displaySsid bytes := by
  have htake : ((Connect.ssidHex bytes).toList ++ rest).takeWhile (· ≠ '|') =
      (Connect.ssidHex bytes).toList := by
    rcases hrest with rfl | ⟨suffix, rfl⟩
    · rw [List.takeWhile_append_of_pos fun c hc =>
        decide_eq_true (ne_of_mem_of_not_mem hc (notMem_ssidHex bytes)), List.takeWhile_nil,
        List.append_nil]
    · exact takeWhile_append_separator (notMem_ssidHex _) _
  unfold ssidForNetworkKey
  rw [hkey, Qr.stripPrefix, if_pos (by simp), List.drop_left, Option.elim_some, htake]
  simp only [bind, Except.bind, String.ofList_toList]
  rw [if_neg (not_not.mpr (even_length_ssidHex _)), decode_ssidHex]

/-- A key is read back as the name it was made of. -/
theorem ssidForNetworkKey_key (displaySsid : SsidBytes → String) (i : Identity) :
    ssidForNetworkKey displaySsid (identityKey i) = ssidFromBytes displaySsid i.1 :=
  ssidForNetworkKey_digits displaySsid (identityKey_toList i) (.inr ⟨_, rfl⟩)

/-! ## The entries of a scan -/

/-- The profiles matched to access points, those of the active ones first. -/
def matchedProfiles (profileMatches : ProfileMatches) (aps : List ListedAccessPoint) :
    List SavedWifiConnection :=
  (aps.filter (·.active) ++ aps.filter (!·.active)).flatMap fun ap =>
    (profileMatches.lookup ap.path).getD []

theorem profilesForAccessPointGroup_eq (aps : List ListedAccessPoint)
    (profileMatches : ProfileMatches) : profilesForAccessPointGroup aps profileMatches =
      (matchedProfiles profileMatches aps).eraseDupsBy fun p q => decide (p.path = q.path) := by
  rw [Distinct.eraseDupsBy_eq_firsts, profilesForAccessPointGroup, matchedProfiles]
  congr 1
  induction aps.filter (·.active) ++ aps.filter (!·.active) with
  | nil => rfl
  | cons ap aps ih =>
    rw [List.flatMap_cons, List.filterMap_cons, ← ih]
    cases profileMatches.lookup ap.path <;> rfl

theorem mem_matchedProfiles {profileMatches : ProfileMatches} {aps : List ListedAccessPoint}
    {profile : SavedWifiConnection} (h : profile ∈ matchedProfiles profileMatches aps) :
    ∃ ap ∈ aps, ∃ profiles, profileMatches.lookup ap.path = some profiles ∧
      profile ∈ profiles := by
  obtain ⟨ap, hap, hprofile⟩ := List.mem_flatMap.mp h
  have hmem : ap ∈ aps := by
    rcases List.mem_append.mp hap with hap | hap
    · exact (List.mem_filter.mp hap).1
    · exact (List.mem_filter.mp hap).1
  cases hlookup : profileMatches.lookup ap.path with
  | none =>
    rw [hlookup] at hprofile
    cases hprofile
  | some profiles =>
    rw [hlookup] at hprofile
    exact ⟨ap, hmem, profiles, hlookup, hprofile⟩

/-- The access points of a scan are divided into entries by name, security class and device.
The keys of the entries are distinct and tell the names. An entry shows its best access point,
and has the profiles that its own access points match and no others. -/
theorem entries_partition (displaySsid : SsidBytes → String) (aps : List ListedAccessPoint)
    (profileMatches : ProfileMatches) :
    (∀ ap ∈ aps, ∃! entry, entry ∈ networkEntriesWithProfileMatches aps profileMatches ∧
      ap ∈ entry.accessPoints) ∧
    (∀ a ∈ aps, ∀ b ∈ aps,
      (∃ entry ∈ networkEntriesWithProfileMatches aps profileMatches,
        a ∈ entry.accessPoints ∧ b ∈ entry.accessPoints) ↔
      a.exactSsid = b.exactSsid ∧ a.securityClass = b.securityClass ∧
        a.deviceIface = b.deviceIface) ∧
    ((networkEntriesWithProfileMatches aps profileMatches).map NetworkEntry.key).Nodup ∧
    ∀ entry ∈ networkEntriesWithProfileMatches aps profileMatches,
      List.Sublist entry.accessPoints aps ∧
      (∀ ap ∈ entry.accessPoints, ap.exactSsid ≠ [] → ap.exactSsid.length ≤ 32 →
        ∃ ssid, ssidForNetworkKey displaySsid entry.key = .ok ssid ∧
          ssid.bytes = ap.exactSsid) ∧
      entry.accessPoint ∈ entry.accessPoints ∧
      ((∃ ap ∈ entry.accessPoints, ap.active = true) → entry.accessPoint.active = true) ∧
      (∀ ap ∈ entry.accessPoints, ap.active = entry.accessPoint.active →
        ap.strength ≤ entry.accessPoint.strength) ∧
      entry.profiles = (matchedProfiles profileMatches entry.accessPoints).eraseDupsBy
        (fun p q => decide (p.path = q.path)) ∧
      ∀ profile ∈ entry.profiles, ∃ ap ∈ entry.accessPoints,
        ap.securityClass = entry.securityClass ∧
        ∃ profiles, profileMatches.lookup ap.path = some profiles ∧ profile ∈ profiles := by
  obtain ⟨identities, hnodup, hoccur, hentries⟩ := entries_eq aps profileMatches
  have hkeys : ((networkEntriesWithProfileMatches aps profileMatches).map
      NetworkEntry.key).Nodup := by
    rw [keys_eq hentries]
    exact hnodup.map identityKey_injective
  -- the entry of an access point is that of its identity
  have hexists : ∀ ap ∈ aps, ∃ entry ∈ networkEntriesWithProfileMatches aps profileMatches,
      EntryOf aps profileMatches (identity ap) entry := fun ap hap =>
    exists_entry hentries ((hoccur _).mpr ⟨ap, hap, rfl⟩)
  refine ⟨fun ap hap => ?_, fun a ha b hb => ?_, hkeys, fun entry hentry => ?_⟩
  · obtain ⟨entry, hentry, hof⟩ := hexists ap hap
    refine ⟨entry, ⟨hentry, hof.mem_iff.mpr ⟨hap, rfl⟩⟩, ?_⟩
    rintro other ⟨hother, hmem⟩
    obtain ⟨i, hof'⟩ := exists_identity hentries hother
    obtain ⟨-, rfl⟩ := hof'.mem_iff.mp hmem
    exact List.inj_on_of_nodup_map hkeys hother hentry (hof'.key.trans hof.key.symm)
  · have hsame : identity a = identity b ↔ a.exactSsid = b.exactSsid ∧
        a.securityClass = b.securityClass ∧ a.deviceIface = b.deviceIface := by
      simp only [identity, Prod.mk.injEq]
    rw [← hsame]
    constructor
    · rintro ⟨entry, hentry, hmema, hmemb⟩
      obtain ⟨i, hof⟩ := exists_identity hentries hentry
      exact (hof.mem_iff.mp hmema).2.trans (hof.mem_iff.mp hmemb).2.symm
    · intro heq
      obtain ⟨entry, hentry, hof⟩ := hexists a ha
      exact ⟨entry, hentry, hof.mem_iff.mpr ⟨ha, rfl⟩, hof.mem_iff.mpr ⟨hb, heq.symm⟩⟩
  · obtain ⟨i, hof⟩ := exists_identity hentries hentry
    refine ⟨?_, fun ap hap hne hlen => ?_, hof.shown, ?_, fun ap hap hactive => ?_, ?_, ?_⟩
    · rw [hof.members]
      exact List.filter_sublist
    · obtain ⟨-, rfl⟩ := hof.mem_iff.mp hap
      refine ⟨⟨ap.exactSsid, displaySsid ap.exactSsid, hne, hlen⟩, ?_, rfl⟩
      rw [hof.key, ssidForNetworkKey_key]
      exact dif_pos ⟨hne, hlen⟩
    · rintro ⟨ap, hap, hactive⟩
      have hbest := hof.best ap hap
      unfold AtLeast at hbest
      cases hshown : entry.accessPoint.active with
      | true => rfl
      | false =>
        rw [hactive, hshown, Bool.toNat_true, Bool.toNat_false] at hbest
        omega
    · have hbest := hof.best ap hap
      unfold AtLeast at hbest
      rw [hactive] at hbest
      omega
    · rw [hof.profiles, profilesForAccessPointGroup_eq]
    · intro profile hprofile
      rw [hof.profiles, profilesForAccessPointGroup_eq, Distinct.eraseDupsBy_eq_firsts] at hprofile
      obtain ⟨ap, hap, hmatched⟩ :=
        mem_matchedProfiles ((Distinct.firsts_sublist _ _ _).subset hprofile)
      refine ⟨ap, hap, ?_, hmatched⟩
      rw [hof.securityClass]
      exact congrArg (·.2.1) (hof.mem_iff.mp hap).2

end Networks

end NmDaemon
