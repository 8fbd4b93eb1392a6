import Mathlib.Data.List.GetD
import NmDaemon.PublicPolicy
import NmDaemon.SecretFilling

/-!
# Writing one secret

`set_text` and `set_system_owned` of `network_credentials.rs`, which change settings in place
and may fail.

* `setTextInPlace`, `setSystemOwned` — the two functions, mutation by mutation;
* `Place` — where the flags that govern a secret are kept;
* `OnlyFlags` — two settings that differ in the flags at one place only;
* `write_one_secret` — what the two functions change, and that they change nothing when they
  fail.
-/

namespace NmDaemon

namespace Credentials

open Fallible Profiles

/-! ## The two functions -/

/-- A section that is changed, and added if it is not there. -/
def withEntry (section' : String) (f : Values → Values) : InPlace String ConnectionSettings Unit := do
  let values ← match (← get).lookup section' with
    | some values => pure values
    | none =>
      modify (AList.insert section' ∅)
      pure ∅
  modify (AList.insert section' (f values))

/-- A section that has to be there is changed, which may fail. -/
def withSection (section' missing : String) (f : Values → Except String Values) :
    InPlace String ConnectionSettings Unit :=
  .update fun settings =>
    match settings.lookup section' with
    | none => .error missing
    | some values => (f values).map fun values => settings.insert section' values

/-- `set_text`. -/
def setTextInPlace (section' key value : String) : InPlace String ConnectionSettings Unit :=
  if section' = "vpn" then
    withEntry section' fun values => extendVpnMap values "secrets" [(key, value)]
  else
    match (if section' = "wireguard" then peerKey key else none) with
    | some public' =>
      withSection section' "WireGuard setting missing" fun values =>
        setPeerValue values public' "preshared-key" (.str value)
    | none =>
      if key ∈ knownKeys section' then
        let encoded : Value :=
          if key = "password-raw" then .array "y" (value.toUTF8.data.toList.map Value.byte)
          else .str value
        withEntry section' (AList.insert key encoded)
      else throw "unsupported secret schema"

/-- The values of a section with new flags for a secret. -/
def insertFlags (section' key : String) (flags : UInt32) (values : Values) : Except String Values :=
  if section' = "vpn" then
    .ok (extendVpnMap values "data" [(flagsKey key, toString flags)])
  else
    match (if section' = "wireguard" then peerKey key else none) with
    | some public' => setPeerValue values public' "preshared-key-flags" (.u32 flags)
    | none => .ok (values.insert (flagsKey key) (.u32 flags))

/-- `set_system_owned`: the secret is no longer an agent's. -/
def setSystemOwned (section' key : String) : InPlace String ConnectionSettings Unit := do
  let old ← InPlace.check (flags (← get) section' key)
  if old &&& notSaved ≠ 0 then throw "temporary credentials must not be persisted"
  else if section' = "wifi-p2p" then throw "WPS credentials are temporary"
  else
    withSection section' "secret setting missing" (insertFlags section' key (old &&& ~~~agentOwned))

variable {settings written : ConnectionSettings} {section' key value : String}

theorem after_withEntry (section' : String) (f : Values → Values) :
    (withEntry section' f).after settings =
      (.ok (), settings.insert section' (f ((settings.lookup section').getD ∅))) := by
  rw [withEntry, InPlace.after_bind]
  change (do
    let values ← match settings.lookup section' with
      | some values => pure values
      | none =>
        modify (AList.insert section' ∅)
        pure ∅
    modify (AList.insert section' (f values)) : InPlace _ _ Unit).after settings = _
  cases settings.lookup section' with
  | some values => rfl
  | none =>
    change (Except.ok (), (AList.insert section' ∅ settings).insert section' (f ∅)) = _
    rw [AList.insert_insert]
    rfl

/-- In place, a text is written as described by `setText`, or nothing is changed. -/
theorem after_setTextInPlace : (setTextInPlace section' key value).after settings =
    match setText settings section' key value with
    | .ok written => (.ok (), written)
    | .error e => (.error e, settings) := by
  rw [setTextInPlace, setText]
  by_cases hvpn : section' = "vpn"
  · rw [if_pos hvpn, if_pos hvpn]
    exact after_withEntry section' fun values => extendVpnMap values "secrets" [(key, value)]
  rw [if_neg hvpn, if_neg hvpn]
  cases (if section' = "wireguard" then peerKey key else none) with
  | none =>
    dsimp only
    by_cases hknown : key ∈ knownKeys section'
    · rw [if_pos hknown, if_pos hknown]
      exact after_withEntry section' (AList.insert key _)
    · rw [if_neg hknown, if_neg hknown]
      rfl
  | some public' =>
    dsimp only
    rw [withSection, InPlace.after_update]
    cases settings.lookup section' with
    | none => rfl
    | some values =>
      dsimp only
      cases setPeerValue values public' "preshared-key" (.str value) <;> rfl

/-- What a secret needs to become system-owned, and what is written then. -/
theorem after_setSystemOwned {result : Except String Unit}
    (h : (setSystemOwned section' key).after settings = (result, written)) :
    (∃ e, result = .error e ∧ written = settings) ∨
      ∃ old values changed, flags settings section' key = .ok old ∧
        settings.lookup section' = some values ∧
        insertFlags section' key (old &&& ~~~agentOwned) values = .ok changed ∧
        result = .ok () ∧ written = settings.insert section' changed := by
  rw [setSystemOwned, InPlace.after_bind] at h
  change ((InPlace.check (flags settings section' key) >>= fun old => _).after settings) = _ at h
  rw [InPlace.after_bind, InPlace.after_check] at h
  cases hold : flags settings section' key with
  | error e =>
    rw [hold] at h
    cases h
    exact .inl ⟨e, rfl, rfl⟩
  | ok old =>
    rw [hold] at h
    dsimp only at h
    split_ifs at h
    · cases h
      exact .inl ⟨_, rfl, rfl⟩
    · cases h
      exact .inl ⟨_, rfl, rfl⟩
    · rw [withSection, InPlace.after_update] at h
      cases hvalues : settings.lookup section' with
      | none =>
        rw [hvalues] at h
        cases h
        exact .inl ⟨_, rfl, rfl⟩
      | some values =>
        rw [hvalues] at h
        dsimp only at h
        cases hchanged : insertFlags section' key (old &&& ~~~agentOwned) values with
        | error e =>
          rw [hchanged] at h
          cases h
          exact .inl ⟨_, rfl, rfl⟩
        | ok changed =>
          rw [hchanged] at h
          cases h
          exact .inr ⟨old, values, changed, rfl, rfl, hchanged, rfl, rfl⟩

/-! ## A text that is written -/

/-- A peer is addressed in the WireGuard section only. -/
theorem addressOf_peer {name : String} (h : addressOf section' key = .peer name) :
    (section' = "wireguard") ∧ peerKey key = some name := by
  rw [addressOf] at h
  by_cases hvpn : section' = "vpn"
  · rw [if_pos hvpn] at h
    cases h
  rw [if_neg hvpn] at h
  by_cases hwireguard : section' = "wireguard"
  · rw [if_pos hwireguard] at h
    cases hkey : peerKey key with
    | none =>
      rw [hkey] at h
      cases h
    | some public' =>
      rw [hkey] at h
      cases h
      exact ⟨hwireguard, rfl⟩
  · rw [if_neg hwireguard] at h
    cases h

/-- One section is written, and no section is lost. -/
theorem setText_section (h : setText settings section' key value = .ok written) {s : String}
    {v : Values} (hv : settings.lookup s = some v) : ∃ w, written.lookup s = some w := by
  obtain ⟨values, rfl⟩ : ∃ values, written = settings.insert section' values := by
    rw [setText] at h
    by_cases hvpn : section' = "vpn"
    · rw [if_pos hvpn] at h
      exact ⟨_, (Except.ok.inj h).symm⟩
    rw [if_neg hvpn] at h
    cases hpeer : (if section' = "wireguard" then peerKey key else none) with
    | some name =>
      rw [hpeer] at h
      cases hvalues : settings.lookup section' with
      | none =>
        rw [hvalues] at h
        cases h
      | some values =>
        rw [hvalues] at h
        obtain ⟨changed, -, rfl⟩ := map_eq_ok.mp h
        exact ⟨changed, rfl⟩
    | none =>
      rw [hpeer] at h
      dsimp only at h
      by_cases hknown : key ∈ knownKeys section'
      · rw [if_pos hknown] at h
        exact ⟨_, (Except.ok.inj h).symm⟩
      · rw [if_neg hknown] at h
        cases h
  rw [Table.lookup_insert_ite]
  split_ifs
  · exact ⟨values, rfl⟩
  · exact ⟨v, hv⟩

/-- UTF-8 bytes are read as the text they are of. -/
theorem valueText_utf8 (text : String) :
    valueText (.array "y" (text.toUTF8.data.toList.map Value.byte)) = some text := by
  have hbytes : ∀ bytes : List UInt8, (bytes.map Value.byte).mapM Value.asByte = some bytes := by
    intro bytes
    induction bytes with
    | nil => rfl
    | cons b bytes ih =>
      rw [List.map_cons, List.mapM_cons, ih]
      rfl
  have htext : String.fromUTF8? text.toUTF8 = some text := dif_pos text.isValidUTF8
  change none.or (((text.toUTF8.data.toList.map Value.byte).mapM Value.asByte).bind fun bytes =>
    String.fromUTF8? ⟨bytes.toArray⟩) = some text
  rw [Option.none_or, hbytes, Option.bind_some, Array.toArray_toList]
  exact htext

/-- What is written as text is read as text. -/
theorem textAt_encodeText {address : Address}
    (h : slot written address = some (encodeText address value)) :
    textAt written address = some value := by
  cases address with
  | vpn name =>
    rw [textAt, h]
    rfl
  | peer public' =>
    rw [textAt, h]
    rfl
  | flat s k =>
    rw [textAt, h, Option.bind_some, encodeText]
    split_ifs
    · exact valueText_utf8 value
    · rfl

/-- Assigning a value of a peer writes all peers anew, with the value in the one peer. -/
theorem setPeerValue_ok {v w : Values} {name k : String} {new : Value}
    (h : setPeerValue v name k new = .ok w) :
    ∃ ps, peers v = .ok ps ∧ ps.countP (isPeer name) = 1 ∧
      (∀ l, l ≠ "peers" → w.lookup l = v.lookup l) ∧
      peers w = .ok (ps.map fun p =>
        rewritten (if isPeer name p then p.insert k new else p)) := by
  rw [setPeerValue] at h
  obtain ⟨ps, hps, h⟩ := bind_eq_ok.mp h
  obtain ⟨changed, hchanged, h⟩ := bind_eq_ok.mp h
  obtain rfl := Except.ok.inj h
  obtain ⟨hcount, rfl⟩ := insertPeerValue_ok hchanged
  refine ⟨ps, hps, hcount, fun l hl => AList.lookup_insert_ne hl, ?_⟩
  rw [peers, AList.lookup_insert]
  dsimp only
  rw [decodePeers, valueDicts_encodeDicts]
  dsimp only
  rw [List.map_map, List.map_map]
  rfl

theorem peersAgree_of_lookup {v w : Values}
    (h : w.lookup "peers" = v.lookup "peers") : PeersAgree v w := by
  have hpeers : peers w = peers v := by rw [peers, peers, h]
  cases hv : peers v with
  | error e => exact .inl ⟨e, hv, hpeers.trans hv⟩
  | ok ps => exact .inr ⟨ps, ps, hv, hpeers.trans hv, forall₂_samePublic_refl ps⟩

/-- The peers are what they were, as far as flags are concerned. -/
theorem setText_peersAgree (h : setText settings section' key value = .ok written) {v w : Values}
    (hv : settings.lookup "wireguard" = some v)
    (hw : written.lookup "wireguard" = some w) : PeersAgree v w := by
  by_cases hpeer : ∃ name, addressOf section' key = .peer name
  · obtain ⟨name, hname⟩ := hpeer
    obtain ⟨rfl, hkey⟩ := addressOf_peer hname
    rw [setText, if_neg (by decide), if_pos rfl, hkey, hv] at h
    obtain ⟨changed, hchanged, rfl⟩ := map_eq_ok.mp h
    obtain rfl := Option.some.inj ((AList.lookup_insert settings).symm.trans hw)
    obtain ⟨ps, hps, -, -, hqs⟩ := setPeerValue_ok hchanged
    refine .inr ⟨ps, _, hps, hqs, forall₂_samePublic_map (fun p => ?_) ps⟩
    intro k hk
    rw [lookup_rewritten]
    split_ifs
    · exact AList.lookup_insert_ne hk
    · rfl
  · refine peersAgree_of_lookup ?_
    have hfield := setText_peers h (.inr fun name hname => hpeer ⟨name, hname⟩)
    rwa [field, field, hv, hw] at hfield

/-- Writing a text leaves the flags of all secrets of the sections there were. -/
theorem setText_flags (h : setText settings section' key value = .ok written) (s k : String)
    (hs : (settings.lookup s).isSome) : flags written s k = flags settings s k := by
  obtain ⟨hwrote, hsupported⟩ := setText_wrote h
  have hfield : ∀ l, ¬ Container s l → addressOf section' key ≠ .flat s l →
      field written s l = field settings s l := by
    intro l hcontainer hl
    exact hwrote.same.field_eq s l hcontainer (Ne.symm hl)
  obtain ⟨v, hv⟩ := Option.isSome_iff_exists.mp hs
  obtain ⟨w, hw⟩ : ∃ w, written.lookup s = some w := setText_section h hv
  rw [flags, flags, hv, hw]
  refine congrArg (· >>= checkFlags) (storedFlags_congr (fun hvpn => ?_) ?_ fun hwireguard _ => ?_)
  · subst hvpn
    have hdata := hfield "data" (by simp [Container]) fun heq => by
      rw [heq] at hsupported
      exact absurd hsupported (by decide)
    rwa [field, field, hv, hw] at hdata
  · have hflags := hfield (flagsKey k) (flagsKey_not_container s k) fun heq => by
      rw [heq] at hsupported
      exact flagsKey_not_known s k hsupported
    rwa [field, field, hv, hw] at hflags
  · subst hwireguard
    exact setText_peersAgree h hv hw

/-! ## Flags that are written -/

/-- Where the flags that govern a secret are kept: under a key of a section, under a name in the
data of a VPN, or with a WireGuard peer. -/
inductive Place : Type where
  | flat (section' name : String)
  | vpn (name : String)
  | peer (public' : String)
  deriving DecidableEq

/-- The place of the flags of a secret; the four WEP slots have one. -/
def placeOf (section' key : String) : Place :=
  if section' = "vpn" then .vpn (flagsKey key)
  else
    match (if section' = "wireguard" then peerKey key else none) with
    | some public' => .peer public'
    | none => .flat section' (flagsKey key)

/-- The field that is written for flags at a place. -/
def Place.field : Place → String × String
  | .flat section' name => (section', name)
  | .vpn _ => ("vpn", "data")
  | .peer _ => ("wireguard", "peers")

/-- The data of a VPN. -/
def vpnData (settings : ConnectionSettings) : List (String × String) :=
  ((field settings "vpn" "data").bind valueStringMap).getD []

/-- `b` differs from `a` in the flags at a place only. -/
structure OnlyFlags (place : Place) (a b : ConnectionSettings) : Prop where
  section_eq : ∀ s, (b.lookup s).isSome = (a.lookup s).isSome
  field_eq : ∀ s k, (s, k) ≠ place.field → field b s k = field a s k
  data_eq : ∀ name, place ≠ .vpn name → (vpnData b).lookup name = (vpnData a).lookup name
  peers : List.Forall₂ (fun p q => ∀ k, q.lookup k = p.lookup k ∨
    (k = "preshared-key-flags" ∧ ∃ name, isPeer name p = true ∧ place = .peer name))
    (peersOf a) (peersOf b)

theorem and_or_and_not (n mask : UInt32) : n &&& mask ||| n &&& ~~~mask = n := by
  refine UInt32.eq_of_toBitVec_eq (BitVec.eq_of_getElem_eq fun i hi => ?_)
  simp only [UInt32.toBitVec_or, UInt32.toBitVec_and, UInt32.toBitVec_not, BitVec.getElem_or,
    BitVec.getElem_and, BitVec.getElem_not]
  cases n.toBitVec[i] <;> simp

/-- There are eight combinations of flags, and each is read back from the data of a VPN. -/
theorem parseU32_flags {n : UInt32} (h : n &&& ~~~7 = 0) : parseU32 (toString n) = .ok n := by
  have hmask : n &&& 7 = n := by
    have hall := and_or_and_not n 7
    rwa [h, UInt32.or_zero] at hall
  have hsmall : n.toNat < 8 := by
    rw [← hmask, UInt32.toNat_and]
    exact Nat.lt_succ_of_le Nat.and_le_right
  have heach : ∀ m < 8, parseU32 (toString (UInt32.ofNat m)) = .ok (UInt32.ofNat m) := by
    decide +kernel
  have hn := heach n.toNat hsmall
  rwa [UInt32.ofNat_toNat] at hn

/-- One flag less is no unknown flag. -/
theorem cleared_known {n : UInt32} (h : n &&& ~~~7 = 0) : (n &&& ~~~agentOwned) &&& ~~~7 = 0 := by
  rw [UInt32.and_assoc, UInt32.and_comm (~~~agentOwned), ← UInt32.and_assoc, h, UInt32.zero_and]

variable {v w : Values} {n old : UInt32}

theorem valueStringMap_extended (v : Values) (name text k : String) (other : String) :
    ∃ entries, ((extendVpnMap v k [(name, text)]).lookup k).bind valueStringMap = some entries ∧
      entries.lookup other = if other = name then some text
        else (((v.lookup k).bind valueStringMap).getD []).lookup other := by
  refine ⟨_, by rw [extendVpnMap, AList.lookup_insert, Option.bind_some, valueStringMap_encodeStrings],
    ?_⟩
  rw [lookup_sortedEntries, List.foldl_cons, List.foldl_nil, Table.lookup_insert_ite, lookup_tableOf]

/-- The flags in the data of a VPN. -/
theorem storedFlags_vpn (hold : storedFlags "vpn" key v = .ok old) (hn : n &&& ~~~7 = 0) (k : String) :
    storedFlags "vpn" k (extendVpnMap v "data" [(flagsKey key, toString n)]) =
      if placeOf "vpn" k = placeOf "vpn" key then .ok n else storedFlags "vpn" k v := by
  obtain ⟨entries, hentries, hlookup⟩ := valueStringMap_extended v (flagsKey key) (toString n) "data"
    (flagsKey k)
  obtain ⟨data, hdata⟩ : ∃ data, (v.lookup "data").bind valueStringMap = some data := by
    rw [storedFlags, if_pos rfl] at hold
    cases hdata : (v.lookup "data").bind valueStringMap with
    | none =>
      rw [hdata] at hold
      cases hold
    | some data => exact ⟨data, rfl⟩
  rw [hdata, Option.getD_some] at hlookup
  rw [storedFlags, if_pos rfl, hentries, storedFlags, if_pos rfl, hdata]
  dsimp only
  rw [hlookup, placeOf, placeOf, if_pos rfl, if_pos rfl]
  by_cases hk : flagsKey k = flagsKey key
  · rw [if_pos hk, if_pos (congrArg Place.vpn hk)]
    exact parseU32_flags hn
  · rw [if_neg hk, if_neg fun heq => hk (Place.vpn.inj heq)]

section Equations

variable {k name : String}

theorem storedFlags_known (hk : k ∈ knownKeys section') :
    storedFlags section' k v = flagValue v (flagsKey k) := by
  obtain ⟨hvpn, hpeer⟩ := known_flat hk
  rw [storedFlags, if_neg hvpn, hpeer]
  exact if_pos hk

theorem storedFlags_named (hk : peerKey k = some name) :
    storedFlags "wireguard" k v = (peers v >>= fun ps => uniquePeer ps name >>= fun index =>
      flagValue (ps.getD index ∅) "preshared-key-flags") := by
  rw [storedFlags, if_neg (by decide), if_pos rfl, hk]

theorem placeOf_known (hk : k ∈ knownKeys section') :
    placeOf section' k = .flat section' (flagsKey k) := by
  obtain ⟨hvpn, hpeer⟩ := known_flat hk
  rw [placeOf, if_neg hvpn, hpeer]

theorem placeOf_named (hk : peerKey k = some name) : placeOf "wireguard" k = .peer name := by
  rw [placeOf, if_neg (by decide), if_pos rfl, hk]

/-- A supported secret outside of a VPN is under a known key, or a peer's. -/
theorem supported_cases (hvpn : section' ≠ "vpn") (hk : (addressOf section' k).Supported) :
    k ∈ knownKeys section' ∨ (section' = "wireguard" ∧ ∃ name, peerKey k = some name) := by
  cases haddress : addressOf section' k with
  | vpn other =>
    rw [addressOf, if_neg hvpn] at haddress
    split at haddress <;> cases haddress
  | peer other =>
    obtain ⟨hwireguard, hother⟩ := addressOf_peer haddress
    exact .inr ⟨hwireguard, other, hother⟩
  | flat s l =>
    rw [haddress] at hk
    rw [addressOf, if_neg hvpn] at haddress
    split at haddress
    · cases haddress
    · cases haddress
      exact .inl hk

end Equations

/-- The flags under a key of a section. -/
theorem storedFlags_flat (hkey : key ∈ knownKeys section') {k : String}
    (hk : (addressOf section' k).Supported) :
    storedFlags section' k (v.insert (flagsKey key) (.u32 n)) =
      if placeOf section' k = placeOf section' key then .ok n else storedFlags section' k v := by
  rw [placeOf_known hkey]
  rcases supported_cases (known_flat hkey).1 hk with hknown | ⟨rfl, name, hname⟩
  · rw [storedFlags_known hknown, storedFlags_known hknown, placeOf_known hknown]
    by_cases heq : flagsKey k = flagsKey key
    · rw [heq, if_pos rfl, flagValue, AList.lookup_insert]
      rfl
    · rw [if_neg fun h => heq (Place.flat.inj h).2, flagValue, AList.lookup_insert_ne heq, flagValue]
  · have hpeers : (v.insert (flagsKey key) (.u32 n)).lookup "peers" =
        v.lookup "peers" := AList.lookup_insert_ne (Ne.symm (flagsKey_ne (by decide)))
    have hne : Place.peer name ≠ .flat "wireguard" (flagsKey key) := fun h => by cases h
    rw [storedFlags_named hname, storedFlags_named hname, placeOf_named hname, if_neg hne, peers,
      hpeers, peers]

/-- The peer that is found has the public key, and no other. -/
theorem uniquePeer_ok {ps : List Values} {name : String} {index : ℕ}
    (h : uniquePeer ps name = .ok index) :
    index < ps.length ∧ isPeer name (ps.getD index ∅) = true := by
  rw [uniquePeer] at h
  split_ifs at h with hcount
  obtain rfl := Except.ok.inj h
  have hexists : ∃ p ∈ ps, isPeer name p = true :=
    List.countP_pos_iff.mp (by omega : 0 < ps.countP (isPeer name))
  have hlt : ps.findIdx (isPeer name) < ps.length := List.findIdx_lt_length.mpr hexists
  refine ⟨hlt, ?_⟩
  rw [List.getD_eq_getElem _ _ hlt]
  exact List.findIdx_getElem

theorem isPeer_congr {p q : Values} {name : String}
    (h : q.lookup "public-key" = p.lookup "public-key") :
    isPeer name q = isPeer name p := by
  rw [isPeer, isPeer, setting, setting, h]

theorem isPeer_unique {p : Values} {name other : String} (h : isPeer name p = true)
    (h' : isPeer other p = true) : name = other := by
  simp only [isPeer, decide_eq_true_eq] at h h'
  exact Option.some.inj (h.symm.trans h')

/-- The flags of a peer. -/
theorem storedFlags_peer {name : String} (hpeer : peerKey key = some name)
    (h : setPeerValue v name "preshared-key-flags" (.u32 n) = .ok w) {k : String}
    (hk : (addressOf "wireguard" k).Supported) :
    storedFlags "wireguard" k w =
      if placeOf "wireguard" k = placeOf "wireguard" key then .ok n
      else storedFlags "wireguard" k v := by
  obtain ⟨ps, hps, hcount, hlookup, hqs⟩ := setPeerValue_ok h
  rw [placeOf_named hpeer]
  rcases supported_cases (by decide) hk with hknown | ⟨-, other, hother⟩
  · have hne : Place.flat "wireguard" (flagsKey k) ≠ .peer name := fun h => by cases h
    rw [storedFlags_known hknown, storedFlags_known hknown, placeOf_known hknown, if_neg hne,
      flagValue, flagValue, hlookup _ (flagsKey_ne (by decide))]
  rw [storedFlags_named hother, storedFlags_named hother, placeOf_named hother, hqs, hps]
  change (uniquePeer _ other >>= fun index => flagValue (List.getD _ index ∅) _) =
    if _ then _ else (uniquePeer ps other >>= fun index => flagValue (ps.getD index ∅) _)
  have hmap : (ps.map fun p => rewritten (if isPeer name p then
      p.insert "preshared-key-flags" (.u32 n) else p)).map (isPeer other) =
      ps.map (isPeer other) := by
    rw [List.map_map]
    refine List.map_congr_left fun p _ => ?_
    have hkey : AList.lookup "public-key" (rewritten (if isPeer name p then
        p.insert "preshared-key-flags" (.u32 n) else p)) = p.lookup "public-key" := by
      rw [lookup_rewritten]
      split_ifs
      · exact AList.lookup_insert_ne (by decide)
      · rfl
    exact isPeer_congr hkey
  rw [uniquePeer_congr hmap]
  cases hindex : uniquePeer ps other with
  | error e =>
    -- the peer that was written is found, so this is another one
    have hne : other ≠ name := by
      rintro rfl
      rw [uniquePeer, if_pos hcount] at hindex
      cases hindex
    rw [if_neg fun h => hne (Place.peer.inj h)]
    rfl
  | ok index =>
    obtain ⟨hlt, hfound⟩ := uniquePeer_ok hindex
    change flagValue (List.getD _ index ∅) _ = if _ then _ else flagValue (ps.getD index ∅) _
    rw [List.getD_eq_getElem _ _ (by rwa [List.length_map]), List.getElem_map,
      ← List.getD_eq_getElem ps ∅ hlt, flagValue, lookup_rewritten]
    by_cases heq : other = name
    · subst heq
      rw [if_pos rfl, if_pos hfound, AList.lookup_insert]
      rfl
    · have hnot : ¬ isPeer name (ps.getD index ∅) = true := fun h => heq (isPeer_unique hfound h)
      rw [if_neg fun h => heq (Place.peer.inj h), if_neg hnot, flagValue]

/-- Flags that are written are the ones that govern what they govern, and no others. -/
theorem storedFlags_insert (h : insertFlags section' key n v = .ok w)
    (hold : storedFlags section' key v = .ok old) (hn : n &&& ~~~7 = 0) {k : String}
    (hk : (addressOf section' k).Supported) :
    storedFlags section' k w =
      if placeOf section' k = placeOf section' key then .ok n else storedFlags section' k v := by
  rw [insertFlags] at h
  by_cases hvpn : section' = "vpn"
  · subst hvpn
    rw [if_pos rfl] at h
    obtain rfl := Except.ok.inj h
    exact storedFlags_vpn hold hn k
  rw [if_neg hvpn] at h
  rcases storedFlags_supported hold hvpn with hknown | ⟨rfl, name, hname⟩
  · rw [(known_flat hknown).2] at h
    obtain rfl := Except.ok.inj h
    exact storedFlags_flat hknown hk
  · rw [if_pos rfl, hname] at h
    exact storedFlags_peer hname h hk

/-! ## What is not written -/

/-- Writing flags leaves everything but the flags at their place. -/
theorem insertFlags_onlyFlags (hv : settings.lookup section' = some v)
    (hold : storedFlags section' key v = .ok old) (h : insertFlags section' key n v = .ok w) :
    OnlyFlags (placeOf section' key) settings (settings.insert section' w) := by
  have hsection : ∀ s, ((settings.insert section' w).lookup s).isSome =
      (settings.lookup s).isSome := by
    intro s
    rw [Table.lookup_insert_ite]
    split_ifs with hs
    · rw [hs, hv]
      rfl
    · rfl
  -- one field of the section is written
  have hfield : ∀ l, (∀ k, k ≠ l → w.lookup k = v.lookup k) → ∀ s k,
      (s, k) ≠ (section', l) → field (settings.insert section' w) s k = field settings s k := by
    intro l hl s k hne
    by_cases hs : s = section'
    · subst hs
      have hk : k ≠ l := fun hk => hne (by rw [hk])
      rw [field_insert_same, hl k hk, field, hv, Option.bind_some]
    · exact field_insert_of_ne hs k
  have hsame : ∀ {place : Place} {ps : List Values}, List.Forall₂ (fun p q : Values => ∀ k,
      q.lookup k = p.lookup k ∨ (k = "preshared-key-flags" ∧ ∃ name,
        isPeer name p = true ∧ place = .peer name)) ps ps :=
    List.forall₂_same.mpr fun p _ k => .inl rfl
  rw [insertFlags] at h
  by_cases hvpn : section' = "vpn"
  · subst hvpn
    rw [if_pos rfl] at h
    obtain rfl := Except.ok.inj h
    have hfields := hfield "data" fun k hk => AList.lookup_insert_ne hk
    rw [placeOf, if_pos rfl]
    refine ⟨hsection, hfields, fun name hname => ?_, ?_⟩
    · obtain ⟨entries, hentries, hlookup⟩ :=
        valueStringMap_extended v (flagsKey key) (toString n) "data" name
      rw [if_neg fun heq => hname (by rw [heq])] at hlookup
      rw [vpnData, field_insert_same, hentries, Option.getD_some, hlookup, vpnData, field, hv,
        Option.bind_some]
    · rw [peersOf_congr (hfields _ _ (by decide))]
      exact hsame
  rw [if_neg hvpn] at h
  rcases storedFlags_supported hold hvpn with hknown | ⟨rfl, name, hname⟩
  · rw [(known_flat hknown).2] at h
    obtain rfl := Except.ok.inj h
    have hfields := hfield (flagsKey key) fun k hk => AList.lookup_insert_ne hk
    rw [placeOf_known hknown]
    refine ⟨hsection, hfields, fun name _ => ?_, ?_⟩
    · rw [vpnData, hfields _ _ fun heq => hvpn (Prod.mk.inj heq).1.symm, vpnData]
    · rw [peersOf_congr (hfields _ _ fun heq => flagsKey_ne (by decide) (Prod.mk.inj heq).2.symm)]
      exact hsame
  · rw [if_pos rfl, hname] at h
    obtain ⟨ps, hps, -, hlookup, hqs⟩ := setPeerValue_ok h
    rw [placeOf_named hname]
    refine ⟨hsection, hfield "peers" hlookup, fun other _ => ?_, ?_⟩
    · rw [vpnData, hfield "peers" hlookup _ _ (by decide), vpnData]
    · have hbefore : peersOf settings = ps := by
        rw [peersOf, field, hv, Option.bind_some, peers_decoded hps]
      have hafter : peersOf (settings.insert "wireguard" w) = ps.map fun p =>
          rewritten (if isPeer name p then p.insert "preshared-key-flags" (.u32 n) else p) := by
        rw [peersOf, field_insert_same, peers_decoded hqs]
      rw [hbefore, hafter, List.forall₂_map_right_iff]
      refine List.forall₂_same.mpr fun p _ k => ?_
      rw [lookup_rewritten]
      split_ifs with hp
      · by_cases hk : k = "preshared-key-flags"
        · exact .inr ⟨hk, name, hp, rfl⟩
        · exact .inl (AList.lookup_insert_ne hk)
      · exact .inl rfl

/-- Flags are no secrets: all texts stay. -/
theorem OnlyFlags.textAt {place : Place} {a b : ConnectionSettings} (h : OnlyFlags place a b)
    (hplace : ∀ s k, place.field = (s, k) → k ∉ knownKeys s ∧ (s, k) ≠ ("vpn", "secrets"))
    {address : Address} (hsupported : address.Supported) : textAt b address = textAt a address := by
  refine textAt_congr ?_
  cases address with
  | flat s k => exact h.field_eq s k fun heq => (hplace s k heq.symm).1 hsupported
  | vpn name =>
    rw [slot, slot, vpnSecrets_congr (h.field_eq _ _ fun heq => (hplace _ _ heq.symm).2 rfl)]
  | peer public' =>
    have hpeers := h.peers
    rw [slot, slot]
    generalize peersOf a = ps, peersOf b = qs at hpeers
    induction hpeers with
    | nil => rfl
    | @cons p q _ _ hpq _ ih =>
      have hlookup : ∀ k, k ≠ "preshared-key-flags" → q.lookup k = p.lookup k :=
        fun k hk => (hpq k).resolve_right fun hflags => hk hflags.1
      have hpeer : isPeer public' q = isPeer public' p := isPeer_congr (hlookup _ (by decide))
      rw [presharedKey, presharedKey, List.find?_cons, List.find?_cons, hpeer]
      cases isPeer public' p with
      | true => exact hlookup _ (by decide)
      | false => exact ih

/-- The field that is written for flags holds no secret of its own. -/
theorem placeOf_field {s k : String} (h : (placeOf section' key).field = (s, k)) :
    k ∉ knownKeys s ∧ (s, k) ≠ ("vpn", "secrets") := by
  rw [placeOf] at h
  split_ifs at h
  · cases h
    decide
  all_goals
    split at h
    · cases h
      decide
    · cases h
      exact ⟨flagsKey_not_known _ key, fun heq => flagsKey_ne (by decide) (Prod.mk.inj heq).2⟩

/-- The place of flags is in the section of the secret. -/
theorem section_of_placeOf {s k : String} (h : placeOf s k = placeOf section' key) : s = section' := by
  have hsection : ∀ s k, (placeOf s k).field.1 = s := by
    intro s k
    rw [placeOf]
    by_cases hvpn : s = "vpn"
    · rw [if_pos hvpn, hvpn]
      rfl
    rw [if_neg hvpn]
    by_cases hwireguard : s = "wireguard"
    · rw [if_pos hwireguard, hwireguard]
      cases peerKey k <;> rfl
    · rw [if_neg hwireguard]
      rfl
  rw [← hsection s k, h, hsection]

/-- A secret that became system-owned. -/
theorem setSystemOwned_flags (hold : flags settings section' key = .ok old)
    (hv : settings.lookup section' = some v)
    (h : insertFlags section' key (old &&& ~~~agentOwned) v = .ok w) {s k : String}
    (hk : (addressOf s k).Supported) :
    flags (settings.insert section' w) s k =
      if placeOf s k = placeOf section' key then .ok (old &&& ~~~agentOwned)
      else flags settings s k := by
  rw [flags, hv] at hold
  obtain ⟨stored, hstored, hchecked⟩ := bind_eq_ok.mp hold
  obtain ⟨hknown, rfl⟩ : stored &&& ~~~7 = 0 ∧ stored = old := by
    rw [checkFlags] at hchecked
    split_ifs at hchecked with hknown
    exact ⟨hknown, Except.ok.inj hchecked⟩
  have hcleared := cleared_known hknown
  rw [flags, flags, Table.lookup_insert_ite]
  by_cases hs : s = section'
  · subst hs
    rw [if_pos rfl, hv]
    dsimp only
    rw [storedFlags_insert h hstored hcleared hk]
    split_ifs
    · exact if_pos hcleared
    · rfl
  · rw [if_neg hs, if_neg fun heq => hs (section_of_placeOf heq)]

/-- **Writing one secret.** In place, for all settings:

* if a text is written, it is read at its address; every other supported address is read as
  before; the flags of all secrets of the sections there were, every field that is no secret and
  the public values of all peers are what they were;
* if a secret is made system-owned, the agent-owned bit of the flags that govern it is cleared
  for all secrets they govern, the flags of all others stay, everything but these flags is the
  same, and so are the texts of all secrets;
* if either fails, the settings are what they were. -/
theorem write_one_secret (settings : ConnectionSettings) (section' key : String) :
    (∀ value written, (setTextInPlace section' key value).after settings = (.ok (), written) →
      text written section' key = some value ∧
      (∀ s k, (addressOf s k).Supported → addressOf s k ≠ addressOf section' key →
        text written s k = text settings s k) ∧
      (∀ s k, (settings.lookup s).isSome → flags written s k = flags settings s k) ∧
      SameExcept (· = addressOf section' key) settings written) ∧
    (∀ written, (setSystemOwned section' key).after settings = (.ok (), written) →
      ∃ old, flags settings section' key = .ok old ∧
        (∀ s k, (addressOf s k).Supported → flags written s k =
          if placeOf s k = placeOf section' key then .ok (old &&& ~~~agentOwned)
          else flags settings s k) ∧
        OnlyFlags (placeOf section' key) settings written ∧
        ∀ s k, (addressOf s k).Supported → text written s k = text settings s k) ∧
    (∀ value e after, (setTextInPlace section' key value).after settings = (.error e, after) →
      after = settings) ∧
    ∀ e after, (setSystemOwned section' key).after settings = (.error e, after) →
      after = settings := by
  refine ⟨fun value written h => ?_, fun written h => ?_, fun value e after h => ?_, fun e after h => ?_⟩
  · rw [after_setTextInPlace] at h
    cases hset : setText settings section' key value with
    | error e =>
      rw [hset] at h
      cases h
    | ok done =>
      rw [hset] at h
      obtain rfl := (Prod.mk.inj h).2
      obtain ⟨hwrote, hsupported⟩ := setText_wrote hset
      refine ⟨?_, fun s k hk hne => ?_, fun s k hs => setText_flags hset s k hs, hwrote.same⟩
      · rw [text_eq_textAt]
        exact textAt_encodeText hwrote.slot_eq
      · rw [text_eq_textAt, text_eq_textAt]
        refine textAt_congr ?_
        generalize addressOf s k = address at hk hne
        cases address with
        | flat s k => exact hwrote.same.field_eq s k (knownKeys_not_container hk) hne
        | vpn name => exact hwrote.same.vpn_eq name hne
        | peer public' => exact hwrote.same.peer_eq public' hne
  · rcases after_setSystemOwned h with ⟨e, hresult, -⟩ | ⟨old, v, w, hold, hv, hinsert, -, rfl⟩
    · cases hresult
    have hstored : ∃ stored, storedFlags section' key v = .ok stored := by
      rw [flags, hv] at hold
      obtain ⟨stored, hstored, -⟩ := bind_eq_ok.mp hold
      exact ⟨stored, hstored⟩
    obtain ⟨stored, hstored⟩ := hstored
    have honly := insertFlags_onlyFlags hv hstored hinsert
    refine ⟨old, hold, fun s k hk => setSystemOwned_flags hold hv hinsert hk, honly, fun s k hk => ?_⟩
    rw [text_eq_textAt, text_eq_textAt]
    exact honly.textAt (fun _ _ => placeOf_field) hk
  · rw [after_setTextInPlace] at h
    cases hset : setText settings section' key value with
    | error e' =>
      rw [hset] at h
      exact (Prod.mk.inj h).2.symm
    | ok done =>
      rw [hset] at h
      cases h
  · rcases after_setSystemOwned h with ⟨-, -, rfl⟩ | ⟨_, _, _, -, -, -, hresult, -⟩
    · rfl
    · cases hresult

/-- The preshared key of a peer that an agent owns. -/
def agentTunnel : ConnectionSettings :=
  tableOf [("wireguard", tableOf [("private-key", .str "two"), ("peers", encodeDicts
    [tableOf [("public-key", .str "peer"), ("preshared-key-flags", .u32 1)]])])]

/-- It can be written, and then made the system's. -/
theorem write_one_secret_peer :
    (∃ written, (setTextInPlace "wireguard" "peers.peer.preshared-key" "three").after agentTunnel =
        (.ok (), written) ∧ text written "wireguard" "peers.peer.preshared-key" = some "three" ∧
        text written "wireguard" "private-key" = some "two") ∧
      ∃ written, (setSystemOwned "wireguard" "peers.peer.preshared-key").after agentTunnel =
        (.ok (), written) ∧ flags written "wireguard" "peers.peer.preshared-key" = .ok 0 := by
  obtain ⟨hset, howned, -⟩ :=
    write_one_secret agentTunnel "wireguard" "peers.peer.preshared-key"
  have hother : addressOf "wireguard" "private-key" ≠
      addressOf "wireguard" "peers.peer.preshared-key" := by decide +kernel
  have hsupported : (addressOf "wireguard" "private-key").Supported := by decide +kernel
  refine ⟨?_, ?_⟩
  · obtain ⟨htext, htexts, -⟩ := hset "three" _ rfl
    refine ⟨_, rfl, htext, ?_⟩
    rw [htexts _ _ hsupported hother]
    decide +kernel
  · obtain ⟨old, hold, hflags, -⟩ := howned _ rfl
    refine ⟨_, rfl, ?_⟩
    have hone : flags agentTunnel "wireguard" "peers.peer.preshared-key" = .ok 1 := by decide +kernel
    rw [hone] at hold
    obtain rfl := Except.ok.inj hold
    rw [hflags _ _ (by decide +kernel), if_pos rfl]
    rfl

end Credentials

end NmDaemon
