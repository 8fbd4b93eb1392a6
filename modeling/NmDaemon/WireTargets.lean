import NmDaemon.ConnectParams
import NmDaemon.NetworkKeys

/-!
# Connect targets on the wire

`model/wire_v1.rs` with the identities of `model/identity.rs`: a connect target is sent with
the bytes of its SSID and the text they are shown as. Old clients send the text alone. The
reader takes the bytes if there are any, and refuses a text that is not theirs.

A message stands here as the record that the derived readers and writers give (`serde`); its
addresses, names and paths are still texts, since their readers are the daemon's own.

* `deserialize_eq_ok` — what is accepted, field by field;
* `deserialize_serialize` — a target that was sent is accepted, and only the spelling of its
  security class may be another;
* `ssid_identity_survives` — no key and no target loses the bytes of an SSID.
-/

namespace NmDaemon

namespace Wire

open ConnectParams Networks Fallible
open NmDaemon.Runtime (SsidBytes)
open NmDaemon.Connection (looksLikeBssid)
open WifiSettings (EnterpriseAuth TargetProfileSettings)
open Wifi (parseTargetBssid parseTargetBssid_ok normalChar looksLikeBssid_map
  normalChar_separator normalChar_hexDigit)

/-! ## Messages -/

/-- A connect target as it is sent. -/
structure WifiConnectTargetV1 : Type where
  ssid : String
  /-- no bytes if the message does not give them -/
  ssidBytes : List UInt8
  apPath : Option String
  bssid : Option String
  ifname : Option String
  devicePath : Option String
  connectionName : Option String
  isPrivate : Bool
  hidden : Bool
  security : Option String
  keyMgmt : Option String
  enterprise : Option EnterpriseAuth
  profile : TargetProfileSettings

/-- The writer of targets, and of what is in them. -/
def serialize (target : ConnectTarget) : WifiConnectTargetV1 where
  ssid := target.ssid.display
  ssidBytes := target.ssid.bytes
  apPath := target.apPath
  bssid := target.bssid
  ifname := target.ifname
  devicePath := target.devicePath
  connectionName := target.connectionName
  isPrivate := target.isPrivate
  hidden := target.hidden
  security := target.security.map Security.name
  keyMgmt := target.keyMgmt
  enterprise := target.enterprise
  profile := target.profile

/-- The reader of security classes. -/
def parseSecurity (value : String) : Security :=
  match value with
  | "--" | "open" | "none" => .opened
  | "OWE" | "owe" => .owe
  | "OWE-TM" | "owe-tm" => .oweTransition
  | "WPA" => .wpa
  | "WPA2/3" => .wpa2Or3
  | "WEP" | "wep" => .wep
  | "Enterprise" => .enterprise
  | _ => .other value

-- The text that bytes are shown as (`String::from_utf8_lossy`), and the check of object paths
-- (`zvariant`).
variable (displaySsid : SsidBytes → String) (checkObjectPath : String → Except String Unit)

/-- `NmObjectPath::parse` -/
def parseNmObjectPath (value : String) : Except String String :=
  (checkObjectPath value).map fun _ => value

/-- A field that may be missing. -/
def parseField (parse : String → Except String String) :
    Option String → Except String (Option String)
  | none => .ok none
  | some value => (parse value).map some

/-- The bytes that the message is about. -/
def exactBytes (wire : WifiConnectTargetV1) : SsidBytes :=
  if wire.ssidBytes = [] then wire.ssid.toUTF8.data.toList else wire.ssidBytes

/-- A target is accepted with all its fields valid and a name that belongs to its bytes. -/
def deserialize (wire : WifiConnectTargetV1) : Except String ConnectTarget := do
  let apPath ← parseField (parseNmObjectPath checkObjectPath) wire.apPath
  let bssid ← parseField parseTargetBssid wire.bssid
  let ifname ← parseField parseInterfaceName wire.ifname
  let devicePath ← parseField (parseNmObjectPath checkObjectPath) wire.devicePath
  let ssid ← ssidFromBytes displaySsid (exactBytes wire)
  if ssid.display ≠ wire.ssid then
    .error "ssid display does not match the exact ssid_bytes identity"
  else
    .ok {
      ssid, apPath, bssid, ifname, devicePath
      connectionName := wire.connectionName
      isPrivate := wire.isPrivate
      hidden := wire.hidden
      security := wire.security.map parseSecurity
      keyMgmt := wire.keyMgmt
      enterprise := wire.enterprise
      profile := wire.profile }

variable {displaySsid checkObjectPath}

/-- What is accepted, and as what. -/
theorem deserialize_eq_ok {wire : WifiConnectTargetV1} {target : ConnectTarget} :
    deserialize displaySsid checkObjectPath wire = .ok target ↔
      parseField (parseNmObjectPath checkObjectPath) wire.apPath = .ok target.apPath ∧
      parseField parseTargetBssid wire.bssid = .ok target.bssid ∧
      parseField parseInterfaceName wire.ifname = .ok target.ifname ∧
      parseField (parseNmObjectPath checkObjectPath) wire.devicePath = .ok target.devicePath ∧
      ssidFromBytes displaySsid (exactBytes wire) = .ok target.ssid ∧
      target.ssid.display = wire.ssid ∧
      target.connectionName = wire.connectionName ∧ target.isPrivate = wire.isPrivate ∧
      target.hidden = wire.hidden ∧ target.security = wire.security.map parseSecurity ∧
      target.keyMgmt = wire.keyMgmt ∧ target.enterprise = wire.enterprise ∧
      target.profile = wire.profile := by
  constructor
  · intro h
    unfold deserialize at h
    obtain ⟨apPath, hap, h⟩ := bind_eq_ok.mp h
    obtain ⟨bssid, hbssid, h⟩ := bind_eq_ok.mp h
    obtain ⟨ifname, hifname, h⟩ := bind_eq_ok.mp h
    obtain ⟨devicePath, hdevice, h⟩ := bind_eq_ok.mp h
    obtain ⟨ssid, hssid, h⟩ := bind_eq_ok.mp h
    split_ifs at h with hdisplay
    cases h
    exact ⟨hap, hbssid, hifname, hdevice, hssid, not_not.mp hdisplay, rfl, rfl, rfl, rfl, rfl, rfl, rfl⟩
  · rintro ⟨hap, hbssid, hifname, hdevice, hssid, hdisplay, hname, hprivate, hhidden, hsecurity,
      hkey, henterprise, hprofile⟩
    unfold deserialize
    simp only [hap, hbssid, hifname, hdevice, hssid, bind, Except.bind]
    rw [if_neg (not_not.mpr hdisplay), ← hname, ← hprivate, ← hhidden, ← hsecurity, ← hkey,
      ← henterprise, ← hprofile]

/-! ## What was read is read again -/

theorem parseSecurity_name (value : String) :
    parseSecurity (parseSecurity value).name = parseSecurity value := by
  by_cases h : parseSecurity value = .other value
  · rw [h]
    exact h
  · unfold parseSecurity at h ⊢
    split at h
    all_goals first | rfl | exact absurd rfl h

theorem normalChar_normalChar (c : Char) : normalChar (normalChar c) = normalChar c := by
  by_cases hlower : 'a'.val ≤ c.val ∧ c.val ≤ 'z'.val
  · exact Wifi.forall_lower (P := fun c => normalChar (normalChar c) = normalChar c) (by decide)
      hlower.1 hlower.2
  · by_cases hdash : c = '-'
    · rw [hdash]
      decide
    · have hsame : normalChar c = c := by
        rw [normalChar, if_neg hdash, Wifi.toUpper_eq_self hlower]
      rw [hsame, hsame]

theorem parseTargetBssid_again {value bssid : String} (h : parseTargetBssid value = .ok bssid) :
    parseTargetBssid bssid = .ok bssid := by
  obtain ⟨hlooks, hlist⟩ := parseTargetBssid_ok h
  have hbssid : bssid = String.ofList (value.toList.map normalChar) := by
    rw [← hlist, String.ofList_toList]
  have hlooks' : looksLikeBssid bssid = true := by
    rw [hbssid, looksLikeBssid_map _ normalChar_separator normalChar_hexDigit, String.ofList_toList,
      hlooks]
  have hsame : bssid.toList.map normalChar = bssid.toList := by
    rw [hlist, List.map_map]
    exact List.map_congr_left fun c _ => normalChar_normalChar c
  rw [parseTargetBssid, if_pos hlooks']
  exact congrArg Except.ok ((congrArg String.ofList hsame).trans String.ofList_toList)

theorem parseInterfaceName_again {value name : String} (h : parseInterfaceName value = .ok name) :
    parseInterfaceName name = .ok name := by
  have hname := h
  unfold parseInterfaceName at hname
  split_ifs at hname
  cases hname
  exact h

theorem parseNmObjectPath_again {value path : String}
    (h : parseNmObjectPath checkObjectPath value = .ok path) :
    parseNmObjectPath checkObjectPath path = .ok path := by
  obtain ⟨-, -, rfl⟩ := map_eq_ok.mp h
  exact h

/-- A field has a value of its type: one that was read. -/
def IsParsed (parse : String → Except String String) (field : Option String) : Prop :=
  ∀ text ∈ field, ∃ value, parse value = .ok text

theorem isParsed_of_parseField {parse : String → Except String String} {wire field : Option String}
    (h : parseField parse wire = .ok field) : IsParsed parse field := by
  cases wire with
  | none =>
    obtain rfl := Except.ok.inj h
    exact fun _ h => absurd h.symm (Option.some_ne_none _)
  | some value =>
    obtain ⟨text, htext, rfl⟩ := map_eq_ok.mp h
    intro _ hfield
    obtain rfl := Option.some.inj hfield
    exact ⟨value, htext⟩

theorem parseField_again {parse : String → Except String String} {field : Option String}
    (hagain : ∀ {value text}, parse value = .ok text → parse text = .ok text)
    (h : IsParsed parse field) : parseField parse field = .ok field := by
  cases field with
  | none => rfl
  | some text =>
    obtain ⟨value, hvalue⟩ := h text rfl
    rw [parseField, hagain hvalue]
    rfl

variable (displaySsid checkObjectPath) in
/-- The target has values of their types in its fields. -/
structure Typed (target : ConnectTarget) : Prop where
  ssid : ssidFromBytes displaySsid target.ssid.bytes = .ok target.ssid
  apPath : IsParsed (parseNmObjectPath checkObjectPath) target.apPath
  bssid : IsParsed parseTargetBssid target.bssid
  ifname : IsParsed parseInterfaceName target.ifname
  devicePath : IsParsed (parseNmObjectPath checkObjectPath) target.devicePath

theorem typed_of_deserialize {wire : WifiConnectTargetV1} {target : ConnectTarget}
    (h : deserialize displaySsid checkObjectPath wire = .ok target) :
    Typed displaySsid checkObjectPath target := by
  obtain ⟨hap, hbssid, hifname, hdevice, hssid, -⟩ := deserialize_eq_ok.mp h
  refine ⟨?_, isParsed_of_parseField hap, isParsed_of_parseField hbssid,
    isParsed_of_parseField hifname, isParsed_of_parseField hdevice⟩
  rwa [(ssidFromBytes_eq_ok hssid).1]

/-- A target that is sent is accepted, and only the spelling of the security class changes. -/
theorem deserialize_serialize {target : ConnectTarget}
    (h : Typed displaySsid checkObjectPath target) :
    deserialize displaySsid checkObjectPath (serialize target) =
      .ok { target with security := target.security.map fun s => parseSecurity s.name } := by
  rw [deserialize_eq_ok]
  refine ⟨parseField_again parseNmObjectPath_again h.apPath,
    parseField_again parseTargetBssid_again h.bssid,
    parseField_again parseInterfaceName_again h.ifname,
    parseField_again parseNmObjectPath_again h.devicePath, ?_, rfl, rfl, rfl, rfl, ?_, rfl, rfl,
    rfl⟩
  · rw [exactBytes, serialize, if_neg target.ssid.nonempty]
    exact h.ssid
  · rw [serialize, Option.map_map]
    rfl

/-- The bytes of an SSID are what a key or a target made of them is read as; and a message
that is accepted has the SSID whose text it was sent with, and is accepted as the same target
when that is sent in turn. -/
theorem ssid_identity_survives (displaySsid : SsidBytes → String)
    (checkObjectPath : String → Except String Unit) :
    (∀ bytes : SsidBytes, bytes ≠ [] → bytes.length ≤ 32 →
      ∃ ssid : Ssid, ssid.bytes = bytes ∧ ssidFromBytes displaySsid bytes = .ok ssid ∧
        (∀ ap : ListedAccessPoint, ap.exactSsid = bytes →
          ssidForNetworkKey displaySsid (networkKeyFor ap) = .ok ssid) ∧
        ssidForNetworkKey displaySsid ("ssid-hex:" ++ Connect.ssidHex bytes) = .ok ssid ∧
        ∀ target : ConnectTarget, Typed displaySsid checkObjectPath target → target.ssid = ssid →
          ∃ target', deserialize displaySsid checkObjectPath (serialize target) = .ok target' ∧
            target'.ssid.bytes = bytes) ∧
    ∀ (wire : WifiConnectTargetV1) (target : ConnectTarget),
      deserialize displaySsid checkObjectPath wire = .ok target →
        1 ≤ target.ssid.bytes.length ∧ target.ssid.bytes.length ≤ 32 ∧
        displaySsid target.ssid.bytes = wire.ssid ∧
        deserialize displaySsid checkObjectPath (serialize target) = .ok target := by
  refine ⟨fun bytes hne hsize => ?_, fun wire target h => ?_⟩
  · have hssid : ssidFromBytes displaySsid bytes = .ok ⟨bytes, displaySsid bytes, hne, hsize⟩ :=
      dif_pos ⟨hne, hsize⟩
    refine ⟨_, rfl, hssid, ?_, ?_, ?_⟩
    · rintro ap rfl
      exact (ssidForNetworkKey_key displaySsid _).trans hssid
    · have hkey : ("ssid-hex:" ++ Connect.ssidHex bytes).toList =
          "ssid-hex:".toList ++ ((Connect.ssidHex bytes).toList ++ []) := by simp
      rw [ssidForNetworkKey_digits displaySsid hkey (.inl rfl), hssid]
    · intro target htyped htarget
      exact ⟨_, deserialize_serialize htyped, congrArg Ssid.bytes htarget⟩
  · have htyped := typed_of_deserialize h
    obtain ⟨-, -, -, -, -, hdisplay, -, -, -, hsecurity, -⟩ := deserialize_eq_ok.mp h
    refine ⟨List.length_pos_iff.mpr target.ssid.nonempty, target.ssid.size, ?_, ?_⟩
    · rw [← (ssidFromBytes_eq_ok htyped.ssid).2, hdisplay]
    · -- a class that was read is spelled the usual way
      have hagain : (target.security.map fun s => parseSecurity s.name) = target.security := by
        rw [hsecurity, Option.map_map]
        exact congrFun (congrArg Option.map (funext parseSecurity_name)) _
      rw [deserialize_serialize htyped, hagain]

/-- A message of an old client: the text alone, with a security class in another spelling. -/
def oldMessage : WifiConnectTargetV1 where
  ssid := "Home"
  ssidBytes := []
  apPath := none
  bssid := some "aa-bb-cc-dd-ee-0f"
  ifname := some "wlan0"
  devicePath := none
  connectionName := none
  isPrivate := false
  hidden := true
  security := some "open"
  keyMgmt := none
  enterprise := none
  profile := noProfileSettings

theorem oldBytes_ne_nil : ([72, 111, 109, 101] : List UInt8) ≠ [] := by decide

theorem oldBytes_size : ([72, 111, 109, 101] : List UInt8).length ≤ 32 := by decide

/-- And the target it is read as. -/
def oldTarget : ConnectTarget :=
  { connectTargetForSsid ⟨[72, 111, 109, 101], "Home", oldBytes_ne_nil, oldBytes_size⟩ with
    bssid := some "AA:BB:CC:DD:EE:0F"
    ifname := some "wlan0"
    hidden := true
    security := some .opened }

def absolutePath (path : String) : Except String Unit :=
  if path.toList.head? = some '/' then .ok () else .error "invalid object path"

theorem ssid_identity_survives_home :
    (∃ ssid : Ssid, ssid.bytes = [0xFF, 0x41] ∧
      ssidForNetworkKey Share.lossy "ssid-hex:ff41" = .ok ssid ∧
      ∃ target, deserialize Share.lossy absolutePath (serialize (connectTargetForSsid ssid)) =
        .ok target ∧ target.ssid.bytes = [0xFF, 0x41]) ∧
    deserialize Share.lossy absolutePath oldMessage = .ok oldTarget ∧
    deserialize Share.lossy absolutePath (serialize oldTarget) = .ok oldTarget := by
  obtain ⟨hbytes, hwire⟩ := ssid_identity_survives Share.lossy absolutePath
  have hold : deserialize Share.lossy absolutePath oldMessage = .ok oldTarget :=
    deserialize_eq_ok.mpr ⟨rfl, by decide, by decide, rfl, by decide, rfl, rfl, rfl, rfl, by decide,
      rfl, rfl, rfl⟩
  refine ⟨?_, hold, (hwire _ _ hold).2.2.2⟩
  obtain ⟨ssid, hssid, hfrom, -, hkey, htarget⟩ := hbytes [0xFF, 0x41] (by decide) (by decide)
  have hnone : ∀ parse, IsParsed parse none := fun _ _ h => absurd h.symm (Option.some_ne_none _)
  have htyped : Typed Share.lossy absolutePath (connectTargetForSsid ssid) :=
    ⟨hssid.symm ▸ hfrom, hnone _, hnone _, hnone _, hnone _⟩
  exact ⟨ssid, hssid, hkey, htarget _ htyped rfl⟩

end Wire

end NmDaemon
