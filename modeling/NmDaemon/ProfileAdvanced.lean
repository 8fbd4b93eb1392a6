import NmDaemon.ProfilePolicy
import NmDaemon.WifiRadio

/-!
# Advanced fields of a profile

`nm/settings/profile_advanced.rs`: an editor sends some of about fifty fields of a profile, and
only those are written. A field that is sent is written as it is; for some of them the empty
value means that it is removed (`setClearable`).

Each function that writes into a section is shown to be a patch of it, given by the list of the
fields that are sent (`connectionFields`, `wirelessFields`, …), and `applyAdvanced_eq_ok` says what
settings hold after an accepted update.
-/

namespace NmDaemon

namespace ProfileSettings

open Credentials (field)
open Fallible

/-! ## Updates -/

/-- The 802.1X fields of an update; secrets are sent elsewhere. -/
structure ProfileEnterpriseUpdate : Type where
  eap : Option (List String)
  identity : Option String
  anonymousIdentity : Option String
  domainSuffixMatch : Option String
  domainMatch : Option String
  subjectMatch : Option String
  altsubjectMatches : Option (List String)
  caCert : Option String
  caPath : Option String
  phase2CaPath : Option String
  systemCaCerts : Option Bool
  clientCert : Option String
  privateKey : Option String
  phase1Peapver : Option String
  phase1Peaplabel : Option String
  phase1FastProvisioning : Option String
  phase1AuthFlags : Option UInt32
  phase2Auth : Option String
  phase2Autheap : Option String
  phase2CaCert : Option String
  phase2ClientCert : Option String
  phase2PrivateKey : Option String
  phase2DomainSuffixMatch : Option String
  phase2SubjectMatch : Option String
  phase2AltsubjectMatches : Option (List String)
  pacFile : Option String
  passwordFlags : Option UInt32
  privateKeyPasswordFlags : Option UInt32
  phase2PrivateKeyPasswordFlags : Option UInt32
  caCertPasswordFlags : Option UInt32
  clientCertPasswordFlags : Option UInt32
  pinFlags : Option UInt32

/-- The advanced fields of an update; what is absent is left as it is. -/
structure WifiProfileAdvancedUpdate : Type where
  autoconnectPriority : Option Int32
  bssid : Option String
  macAddress : Option String
  clonedMacAddress : Option String
  mtu : Option UInt32
  mode : Option String
  band : Option WifiBand
  channel : Option UInt32
  permissions : Option (List String)
  castingEnabled : Option Bool
  firewallZone : Option String
  secondaries : Option (List String)
  ipv4DhcpClientId : Option String
  ipv4DhcpHostname : Option String
  ipv4DadTimeout : Option Int32
  ipv4NeverDefault : Option Bool
  ipv6NeverDefault : Option Bool
  ipv4IgnoreAutoRoutes : Option Bool
  ipv6IgnoreAutoRoutes : Option Bool
  ipv4MayFail : Option Bool
  ipv6MayFail : Option Bool
  ipv6Privacy : Option Int32
  enterprise : Option ProfileEnterpriseUpdate

/-- An update that sends nothing. -/
def noUpdate : WifiProfileAdvancedUpdate :=
  ⟨none, none, none, none, none, none, none, none, none, none, none, none, none, none, none, none,
    none, none, none, none, none, none, none⟩

/-! ## Checks -/

def profileError (message field : String) : DomainError :=
  (DomainError.validation .profileOperation message).withDetail "field" (.str field)

def validateMode (mode : String) : Except DomainError Unit :=
  if mode = "" ∨ mode = "infrastructure" ∨ mode = "ap" ∨ mode = "mesh" then .ok ()
  else .error ((profileError "Wi-Fi mode must be infrastructure, ap, or mesh"
    "advanced.mode").withDetail "value" (.str mode))

def bandLabel : WifiBand → Option String
  | .auto => none
  | .ghz24 => some "2.4 GHz"
  | .ghz5 => some "5 GHz"
  | .ghz6 => some "6 GHz"

/-- A channel of the table belongs to a band. -/
def channelIsInBand (channel : UInt32) (band : WifiBand) : Bool :=
  match bandLabel band with
  | none => true
  | some label => Wifi.wifiChannels.any fun row =>
      row.2 = channel.toNat && Wifi.frequencyBand row.1 = label

section

variable (settings : ConnectionSettings) (address : Option String → Option (Option Value))
  (update : WifiProfileAdvancedUpdate)

def validateWirelessUpdate : Except DomainError Unit := do
  (update.mode.map validateMode).getD (.ok ())
  match update.band, update.channel with
  | some band, some channel =>
    if band = .auto ∨ channel = 0 ∨ channelIsInBand channel band then .ok ()
    else .error (profileError "channel does not belong to the selected band" "advanced.channel")
  | _, _ => .ok ()

def supportedEap : List String := ["tls", "peap", "ttls", "pwd", "leap", "fast", "md5"]

def validateEapMethods (eap : Option (List String)) : Except DomainError Unit :=
  match (eap.getD []).find? fun method => !supportedEap.contains method with
  | some unsupported => .error ((profileError "unsupported 802.1X EAP method"
      "advanced.enterprise.eap").withDetail "value" (.str unsupported))
  | none => .ok ()

/-! ## Writing -/

/-- A field whose empty value means that it is removed. -/
def setClearable {α : Type} [DecidableEq α] (empty : α) (encode : α → Value) (values : Values)
    (key : String) (value : Option α) : Values :=
  match value with
  | none => values
  | some value =>
    if value = empty then values.erase key else values.insert key (encode value)

def setClearableText : Values → String → Option String → Values := setClearable "" Value.str

def setClearableList : Values → String → Option (List String) → Values := setClearable [] stringList

def setCastingEnabled (enabled : Bool) : ConnectionSettings :=
  editSection settings "connection" (AList.insert "mdns" (.i32 (if enabled then 1 else 0)))

def applyConnectionFields : ConnectionSettings :=
  let settings := editSection settings "connection" fun connection =>
    let connection := insertOptionalValue connection "autoconnect-priority"
      (update.autoconnectPriority.map Value.i32)
    let connection := setClearableText connection "zone" update.firewallZone
    let connection := setClearableList connection "permissions" update.permissions
    setClearableList connection "secondaries" update.secondaries
  match update.castingEnabled with
  | some enabled => setCastingEnabled settings enabled
  | none => settings

def applyClonedAddress (wireless : Values) (cloned : Option String) : Values :=
  match cloned with
  | none => wireless
  | some cloned =>
    -- an address and the policy for one share a property
    let wireless := wireless.erase "cloned-mac-address"
    let wireless := wireless.erase "mac-address-randomization"
    setClearableText wireless "assigned-mac-address" (some cloned)

def applyBand (wireless : Values) (band : Option WifiBand) : Values :=
  match band with
  | none => wireless
  | some band =>
    match band.nmValue with
    | some value => wireless.insert "band" (.str value)
    | none => (wireless.erase "band").erase "channel"

/-- What is written into the wireless section. -/
def wirelessValues (wireless : Values) : Values :=
  let wireless := setClearableText wireless "bssid" update.bssid
  let wireless := setClearableText wireless "mac-address" update.macAddress
  let wireless := setClearableText wireless "mode" update.mode
  let wireless := applyClonedAddress wireless update.clonedMacAddress
  let wireless := insertOptionalValue wireless "mtu" (update.mtu.map Value.u32)
  let wireless := applyBand wireless update.band
  setClearable 0 Value.u32 wireless "channel" update.channel

def applyWirelessFields : Except DomainError ConnectionSettings := do
  validateWirelessUpdate update
  return editSection settings "802-11-wireless" (wirelessValues update)

def validatePrivacy (privacy : Int32) : Except DomainError Unit :=
  if -1 ≤ privacy.toInt ∧ privacy.toInt ≤ 2 then .ok ()
  else .error (profileError "ipv6_privacy must be -1, 0, 1, or 2" "advanced.ipv6_privacy")

/-- The fields about routes, which both address families have. -/
def routeFields (neverDefault ignoreAutoRoutes mayFail : Option Bool) :
    List (String × Option Bool) :=
  [("never-default", neverDefault), ("ignore-auto-routes", ignoreAutoRoutes), ("may-fail", mayFail)]

def insertRouteFields (values : Values) (fields : List (String × Option Bool)) : Values :=
  insertOptionalValues values (fields.map fun e => (e.1, e.2.map Value.bool))

/-- What is written into the section of the first family. -/
def ipv4Values (ipv4 : Values) : Values :=
  let ipv4 := setClearableText ipv4 "dhcp-client-id" update.ipv4DhcpClientId
  let ipv4 := setClearableText ipv4 "dhcp-hostname" update.ipv4DhcpHostname
  let ipv4 := insertRouteFields ipv4
    (routeFields update.ipv4NeverDefault update.ipv4IgnoreAutoRoutes update.ipv4MayFail)
  insertOptionalValue ipv4 "dad-timeout" (update.ipv4DadTimeout.map Value.i32)

def applyIpFields : Except DomainError ConnectionSettings := do
  let settings := editSection settings "ipv4" (ipv4Values update)
  let settings := editSection settings "ipv6" fun ipv6 => insertRouteFields ipv6
    (routeFields update.ipv6NeverDefault update.ipv6IgnoreAutoRoutes update.ipv6MayFail)
  (update.ipv6Privacy.map validatePrivacy).getD (.ok ())
  return editSection settings "ipv6" fun ipv6 =>
    insertOptionalValue ipv6 "ip6-privacy" (update.ipv6Privacy.map Value.i32)

/-- The texts of an 802.1X section. -/
def enterpriseTexts (update : ProfileEnterpriseUpdate) : List (String × Option String) :=
  [("identity", update.identity), ("anonymous-identity", update.anonymousIdentity),
    ("domain-suffix-match", update.domainSuffixMatch), ("domain-match", update.domainMatch),
    ("subject-match", update.subjectMatch), ("ca-path", update.caPath),
    ("phase2-ca-path", update.phase2CaPath), ("phase1-peapver", update.phase1Peapver),
    ("phase1-peaplabel", update.phase1Peaplabel),
    ("phase1-fast-provisioning", update.phase1FastProvisioning),
    ("phase2-auth", update.phase2Auth), ("phase2-autheap", update.phase2Autheap),
    ("phase2-domain-suffix-match", update.phase2DomainSuffixMatch),
    ("phase2-subject-match", update.phase2SubjectMatch), ("pac-file", update.pacFile)]

/-- Its certificates and keys. -/
def enterpriseCertificates (update : ProfileEnterpriseUpdate) : List (String × Option String) :=
  [("ca-cert", update.caCert), ("client-cert", update.clientCert),
    ("private-key", update.privateKey), ("phase2-ca-cert", update.phase2CaCert),
    ("phase2-client-cert", update.phase2ClientCert),
    ("phase2-private-key", update.phase2PrivateKey)]

/-- Its flags. -/
def enterpriseFlags (update : ProfileEnterpriseUpdate) : List (String × Option UInt32) :=
  [("phase1-auth-flags", update.phase1AuthFlags), ("password-flags", update.passwordFlags),
    ("private-key-password-flags", update.privateKeyPasswordFlags),
    ("phase2-private-key-password-flags", update.phase2PrivateKeyPasswordFlags),
    ("ca-cert-password-flags", update.caCertPasswordFlags),
    ("client-cert-password-flags", update.clientCertPasswordFlags), ("pin-flags", update.pinFlags)]

/-- What is written into an 802.1X section. -/
def enterpriseValues (update : ProfileEnterpriseUpdate) (values : Values) :
    Except DomainError Values := do
  let values := setClearableList values "eap" update.eap
  let values := setClearableList values "altsubject-matches" update.altsubjectMatches
  let values := setClearableList values "phase2-altsubject-matches" update.phase2AltsubjectMatches
  let values := (enterpriseTexts update).foldl (fun values e => setClearableText values e.1 e.2) values
  let values ← (enterpriseCertificates update).foldlM
    (fun values e => setCertificateReference .profileOperation values e.1 e.2) values
  let values := insertOptionalValue values "system-ca-certs" (update.systemCaCerts.map Value.bool)
  return insertOptionalValues values
    ((enterpriseFlags update).map fun e => (e.1, e.2.map Value.u32))

def applyEnterprise (update : ProfileEnterpriseUpdate) : Except DomainError ConnectionSettings := do
  validateEapMethods update.eap
  validatePeaplabel .profileOperation update.phase1Peaplabel
  let values ← enterpriseValues update ((settings.lookup "802-1x").getD ∅)
  return settings.insert "802-1x" values

/-- The 802.1X fields, if any are sent. -/
def applyEnterpriseUpdate : Option ProfileEnterpriseUpdate → Except DomainError ConnectionSettings
  | some enterprise => applyEnterprise settings enterprise
  | none => .ok settings

def applyAdvanced : Except DomainError ConnectionSettings := do
  let settings := applyConnectionFields settings update
  let settings ← applyWirelessFields settings update
  let settings ← applyIpFields settings update
  let settings ← applyEnterpriseUpdate settings update.enterprise
  validatePrivateCaPaths .profileOperation settings
  return settings

/-! ## The fields of an update -/

/-- What is sent of a field whose empty value removes it. -/
def cleared {α : Type} [DecidableEq α] (empty : α) (encode : α → Value) (value : Option α) :
    Option (Option Value) :=
  value.map fun value => if value = empty then none else some (encode value)

/-- What is sent of a field that has no such value. -/
def plain {α : Type} (encode : α → Value) (value : Option α) : Option (Option Value) :=
  value.map fun value => some (encode value)

def clearedText : Option String → Option (Option Value) := cleared "" Value.str

def clearedList : Option (List String) → Option (Option Value) := cleared [] stringList

def connectionFields : List (String × Option (Option Value)) :=
  [("autoconnect-priority", plain Value.i32 update.autoconnectPriority),
    ("zone", clearedText update.firewallZone), ("permissions", clearedList update.permissions),
    ("secondaries", clearedList update.secondaries),
    ("mdns", plain (fun enabled => Value.i32 (if enabled then 1 else 0)) update.castingEnabled)]

/-- The Wi-Fi fields, given how addresses are written. A cloned address takes the place of the
policies for one, and no band means no channel. -/
def wirelessFields : List (String × Option (Option Value)) :=
  [("bssid", address update.bssid), ("mac-address", address update.macAddress),
    ("mode", clearedText update.mode),
    ("cloned-mac-address", update.clonedMacAddress.map fun _ => none),
    ("mac-address-randomization", update.clonedMacAddress.map fun _ => none),
    ("assigned-mac-address", clearedText update.clonedMacAddress),
    ("mtu", plain Value.u32 update.mtu),
    ("band", update.band.map fun band => band.nmValue.map Value.str),
    ("channel", (cleared 0 Value.u32 update.channel).or
      (if update.band = some .auto then some none else none))]

def ipv4Fields : List (String × Option (Option Value)) :=
  [("dhcp-client-id", clearedText update.ipv4DhcpClientId),
    ("dhcp-hostname", clearedText update.ipv4DhcpHostname),
    ("never-default", plain Value.bool update.ipv4NeverDefault),
    ("ignore-auto-routes", plain Value.bool update.ipv4IgnoreAutoRoutes),
    ("may-fail", plain Value.bool update.ipv4MayFail),
    ("dad-timeout", plain Value.i32 update.ipv4DadTimeout)]

def ipv6Fields : List (String × Option (Option Value)) :=
  [("never-default", plain Value.bool update.ipv6NeverDefault),
    ("ignore-auto-routes", plain Value.bool update.ipv6IgnoreAutoRoutes),
    ("may-fail", plain Value.bool update.ipv6MayFail),
    ("ip6-privacy", plain Value.i32 update.ipv6Privacy)]

def enterpriseFields (update : ProfileEnterpriseUpdate) : List (String × Option (Option Value)) :=
  [("eap", clearedList update.eap), ("altsubject-matches", clearedList update.altsubjectMatches),
    ("phase2-altsubject-matches", clearedList update.phase2AltsubjectMatches)] ++
  (enterpriseTexts update).map (fun e => (e.1, clearedText e.2)) ++
  (enterpriseCertificates update).map (fun e => (e.1, cleared "" certificateReference e.2)) ++
  [("system-ca-certs", plain Value.bool update.systemCaCerts)] ++
  (enterpriseFlags update).map fun e => (e.1, plain Value.u32 e.2)

/-- All fields an update can name, by section. -/
def advancedFields : List (String × List (String × Option (Option Value))) :=
  [("connection", connectionFields update), ("802-11-wireless", wirelessFields address update),
    ("ipv4", ipv4Fields update), ("ipv6", ipv6Fields update)] ++
  (update.enterprise.map fun enterprise => ("802-1x", enterpriseFields enterprise)).toList

end

/-! ## The writes as patches -/

variable {settings settings' : ConnectionSettings} {update : WifiProfileAdvancedUpdate}

theorem setClearable_eq {α : Type} [DecidableEq α] (empty : α) (encode : α → Value)
    (values : Values) (key : String) (value : Option α) :
    setClearable empty encode values key value =
      (Patch.sent key (cleared empty encode value)).apply values := by
  cases value with
  | none => rfl
  | some value =>
    rw [setClearable, cleared, Option.map_some]
    split_ifs <;> rfl

theorem setClearableText_eq (values : Values) (key : String) (value : Option String) :
    setClearableText values key value = (Patch.sent key (clearedText value)).apply values :=
  setClearable_eq "" Value.str values key value

theorem setClearableList_eq (values : Values) (key : String) (value : Option (List String)) :
    setClearableList values key value = (Patch.sent key (clearedList value)).apply values :=
  setClearable_eq [] stringList values key value

theorem optional_plain {α : Type} (key : String) (encode : α → Value) (value : Option α) :
    Patch.optional key (value.map encode) = Patch.sent key (plain encode value) := by
  rw [Patch.optional, Option.map_map]
  rfl

theorem ofFields_cons (key : String) (value : Option (Option Value))
    (fields : List (String × Option (Option Value))) (values : Values) :
    (Patch.ofFields ((key, value) :: fields)).apply values =
      (Patch.ofFields fields).apply ((Patch.sent key value).apply values) :=
  Patch.apply_append _ _ values

theorem applyConnectionFields_eq (settings : ConnectionSettings)
    (update : WifiProfileAdvancedUpdate) : applyConnectionFields settings update =
      editSection settings "connection" (Patch.ofFields (connectionFields update)).apply := by
  have hcasting : ∀ values : Values,
      (match update.castingEnabled with
        | some enabled => values.insert "mdns" (.i32 (if enabled then 1 else 0))
        | none => values) =
      (Patch.sent "mdns" (plain (fun enabled => Value.i32 (if enabled then 1 else 0))
        update.castingEnabled)).apply values := by
    intro values
    cases update.castingEnabled <;> rfl
  have hsection : applyConnectionFields settings update =
      editSection settings "connection" fun values =>
        let connection := insertOptionalValue values "autoconnect-priority"
          (update.autoconnectPriority.map Value.i32)
        let connection := setClearableText connection "zone" update.firewallZone
        let connection := setClearableList connection "permissions" update.permissions
        let connection := setClearableList connection "secondaries" update.secondaries
        match update.castingEnabled with
        | some enabled => connection.insert "mdns" (.i32 (if enabled then 1 else 0))
        | none => connection := by
    rw [applyConnectionFields]
    cases update.castingEnabled with
    | none => rfl
    | some enabled => exact editSection_editSection settings "connection" _ _
  rw [hsection]
  refine congrArg (editSection settings "connection") (funext fun values => ?_)
  simp only [hcasting, setClearableText_eq, setClearableList_eq, insertOptionalValue_eq,
    optional_plain, connectionFields, ofFields_cons]
  rfl

theorem applyClonedAddress_eq (wireless : Values) (cloned : Option String) :
    applyClonedAddress wireless cloned =
      (Patch.sent "assigned-mac-address" (clearedText cloned)).apply
        ((Patch.sent "mac-address-randomization" (cloned.map fun _ => none)).apply
          ((Patch.sent "cloned-mac-address" (cloned.map fun _ => none)).apply wireless)) := by
  cases cloned with
  | none => rfl
  | some cloned => exact setClearableText_eq _ "assigned-mac-address" (some cloned)

/-- The band and the channel. A channel that is sent is written after the band, so without one
the channel that no band removes is the one from before. -/
theorem applyBand_channel (wireless : Values) (band : Option WifiBand) (channel : Option UInt32) :
    setClearable 0 Value.u32 (applyBand wireless band) "channel" channel =
      (Patch.sent "channel" ((cleared 0 Value.u32 channel).or
        (if band = some .auto then some none else none))).apply
        ((Patch.sent "band" (band.map fun band => band.nmValue.map Value.str)).apply wireless) := by
  rw [setClearable_eq]
  cases band with
  | none =>
    cases cleared 0 Value.u32 channel <;> rfl
  | some band =>
    cases band with
    | auto =>
      cases cleared 0 Value.u32 channel with
      | none => rfl
      | some value => exact Patch.step_erase (wireless.erase "band") "channel" value
    | ghz24 | ghz5 | ghz6 => cases cleared 0 Value.u32 channel <;> rfl

theorem applyWirelessFields_eq_ok : applyWirelessFields settings update = .ok settings' ↔
    validateWirelessUpdate update = .ok () ∧ settings' =
      editSection settings "802-11-wireless"
        (Patch.ofFields (wirelessFields clearedText update)).apply := by
  rw [applyWirelessFields, bind_eq_ok]
  have hsection : wirelessValues update =
      (Patch.ofFields (wirelessFields clearedText update)).apply := by
    funext wireless
    simp only [wirelessValues, applyBand_channel, applyClonedAddress_eq, setClearableText_eq,
      insertOptionalValue_eq, optional_plain, wirelessFields, ofFields_cons]
    rfl
  rw [hsection]
  constructor
  · rintro ⟨⟨⟩, hvalid, hok⟩
    exact ⟨hvalid, (Except.ok.inj hok).symm⟩
  · rintro ⟨hvalid, rfl⟩
    exact ⟨(), hvalid, rfl⟩

theorem insertOptionalValues_map {α : Type} (encode : α → Value) (values : Values)
    (entries : List (String × Option α)) :
    insertOptionalValues values (entries.map fun e => (e.1, e.2.map encode)) =
      (Patch.ofFields (entries.map fun e => (e.1, plain encode e.2))).apply values := by
  rw [insertOptionalValues_eq, Patch.ofFields, List.flatMap_map, List.flatMap_map]
  refine congrArg (fun p : Patch String Value => p.apply values) (List.flatMap_congr fun e _ => ?_)
  exact optional_plain e.1 encode e.2

/-- The fields of both address families are written if the privacy of the second is one. -/
theorem applyIpFields_eq_ok : applyIpFields settings update = .ok settings' ↔
    (update.ipv6Privacy.map validatePrivacy).getD (.ok ()) = .ok () ∧ settings' =
      editSection (editSection settings "ipv4" (Patch.ofFields (ipv4Fields update)).apply) "ipv6"
        (Patch.ofFields (ipv6Fields update)).apply := by
  rw [applyIpFields, bind_eq_ok]
  have hipv4 : ipv4Values update = (Patch.ofFields (ipv4Fields update)).apply := by
    funext ipv4
    simp only [ipv4Values, insertRouteFields, insertOptionalValues_map, setClearableText_eq,
      insertOptionalValue_eq, optional_plain, ipv4Fields, ofFields_cons]
    simp only [routeFields, List.map_cons, ofFields_cons]
    rfl
  have hipv6 : (fun ipv6 => insertOptionalValue (insertRouteFields ipv6
        (routeFields update.ipv6NeverDefault update.ipv6IgnoreAutoRoutes update.ipv6MayFail))
        "ip6-privacy" (update.ipv6Privacy.map Value.i32)) =
      (Patch.ofFields (ipv6Fields update)).apply := by
    funext ipv6
    simp only [insertRouteFields, insertOptionalValues_map, insertOptionalValue_eq, optional_plain,
      ipv6Fields, ofFields_cons]
    simp only [routeFields, List.map_cons, ofFields_cons]
    rfl
  rw [editSection_editSection, hipv6, hipv4]
  constructor
  · rintro ⟨⟨⟩, hvalid, hok⟩
    exact ⟨hvalid, (Except.ok.inj hok).symm⟩
  · rintro ⟨hvalid, rfl⟩
    exact ⟨(), hvalid, rfl⟩

theorem foldl_setClearableText (entries : List (String × Option String)) : ∀ values : Values,
    entries.foldl (fun values e => setClearableText values e.1 e.2) values =
      (Patch.ofFields (entries.map fun e => (e.1, clearedText e.2))).apply values := by
  induction entries with
  | nil => exact fun values => rfl
  | cons e entries ih =>
    intro values
    rw [List.foldl_cons, ih, List.map_cons, ofFields_cons, setClearableText_eq]

/-- A reference that is sent is empty or a reference. -/
def ValidReference (value : Option String) : Prop :=
  ∀ text, value = some text → text = "" ∨ isCertificateReference text = true

theorem setCertificateReference_eq_ok {operation : ErrorOperation} {values values' : Values}
    {key : String} {value : Option String} :
    setCertificateReference operation values key value = .ok values' ↔
      ValidReference value ∧
        values' = (Patch.sent key (cleared "" certificateReference value)).apply values := by
  cases value with
  | none =>
    refine ⟨fun h => ⟨fun text htext => (by cases htext), (Except.ok.inj h).symm⟩, ?_⟩
    rintro ⟨-, rfl⟩
    rfl
  | some text =>
    have hvalid : ValidReference (some text) ↔ text = "" ∨ isCertificateReference text = true :=
      ⟨fun h => h text rfl, fun h text' htext => Option.some.inj htext ▸ h⟩
    rw [hvalid, setCertificateReference, cleared, Option.map_some]
    by_cases hempty : text = ""
    · rw [if_pos hempty, if_pos hempty]
      exact ⟨fun h => ⟨.inl hempty, (Except.ok.inj h).symm⟩, fun h => h.2 ▸ rfl⟩
    · rw [if_neg hempty, if_neg hempty]
      by_cases hreference : isCertificateReference text = true
      · rw [if_pos hreference]
        exact ⟨fun h => ⟨.inr hreference, (Except.ok.inj h).symm⟩, fun h => h.2 ▸ rfl⟩
      · rw [if_neg hreference]
        exact ⟨fun h => (by cases h), fun h => absurd h.1 (not_or.mpr ⟨hempty, hreference⟩)⟩

theorem foldlM_setCertificateReference {operation : ErrorOperation}
    {entries : List (String × Option String)} : ∀ {values values' : Values},
    entries.foldlM (fun values e => setCertificateReference operation values e.1 e.2) values =
        .ok values' ↔
      (∀ e ∈ entries, ValidReference e.2) ∧ values' =
        (Patch.ofFields (entries.map fun e => (e.1, cleared "" certificateReference e.2))).apply
          values := by
  induction entries with
  | nil =>
    intro values values'
    exact ⟨fun h => ⟨fun e he => absurd he List.not_mem_nil, (Except.ok.inj h).symm⟩,
      fun h => h.2 ▸ rfl⟩
  | cons e entries ih =>
    intro values values'
    rw [foldlM_cons_eq_ok]
    constructor
    · rintro ⟨next, hnext, hrest⟩
      obtain ⟨hvalid, rfl⟩ := setCertificateReference_eq_ok.mp hnext
      obtain ⟨hvalids, rfl⟩ := ih.mp hrest
      exact ⟨List.forall_mem_cons.mpr ⟨hvalid, hvalids⟩, (ofFields_cons _ _ _ _).symm⟩
    · rintro ⟨hvalids, rfl⟩
      obtain ⟨hvalid, hvalids⟩ := List.forall_mem_cons.mp hvalids
      refine ⟨_, setCertificateReference_eq_ok.mpr ⟨hvalid, rfl⟩, ih.mpr ⟨hvalids, ?_⟩⟩
      exact ofFields_cons _ _ _ _

theorem enterpriseValues_eq_ok {enterprise : ProfileEnterpriseUpdate} {values values' : Values} :
    enterpriseValues enterprise values = .ok values' ↔
      (∀ e ∈ enterpriseCertificates enterprise, ValidReference e.2) ∧
        values' = (Patch.ofFields (enterpriseFields enterprise)).apply values := by
  have hpatch : (Patch.ofFields (enterpriseFields enterprise)).apply values =
      insertOptionalValues (insertOptionalValue
        ((Patch.ofFields ((enterpriseCertificates enterprise).map fun e =>
          (e.1, cleared "" certificateReference e.2))).apply
          ((enterpriseTexts enterprise).foldl (fun values e => setClearableText values e.1 e.2)
            (setClearableList (setClearableList (setClearableList values "eap" enterprise.eap)
              "altsubject-matches" enterprise.altsubjectMatches)
              "phase2-altsubject-matches" enterprise.phase2AltsubjectMatches)))
        "system-ca-certs" (enterprise.systemCaCerts.map Value.bool))
        ((enterpriseFlags enterprise).map fun e => (e.1, e.2.map Value.u32)) := by
    rw [insertOptionalValues_map, insertOptionalValue_eq, optional_plain, foldl_setClearableText,
      setClearableList_eq, setClearableList_eq, setClearableList_eq, enterpriseFields]
    simp only [Patch.ofFields_append, Patch.apply_append, ofFields_cons]
    rfl
  rw [enterpriseValues, bind_eq_ok, hpatch]
  constructor
  · rintro ⟨next, hnext, hok⟩
    obtain ⟨hvalid, rfl⟩ := foldlM_setCertificateReference.mp hnext
    exact ⟨hvalid, (Except.ok.inj hok).symm⟩
  · rintro ⟨hvalid, rfl⟩
    exact ⟨_, foldlM_setCertificateReference.mpr ⟨hvalid, rfl⟩, rfl⟩

/-- What is checked of the 802.1X fields. -/
structure ValidEnterprise (enterprise : ProfileEnterpriseUpdate) : Prop where
  eap : validateEapMethods enterprise.eap = .ok ()
  peaplabel : validatePeaplabel .profileOperation enterprise.phase1Peaplabel = .ok ()
  certificates : ∀ e ∈ enterpriseCertificates enterprise, ValidReference e.2

theorem applyEnterprise_eq_ok {enterprise : ProfileEnterpriseUpdate} :
    applyEnterprise settings enterprise = .ok settings' ↔
      ValidEnterprise enterprise ∧ settings' =
        editSection settings "802-1x" (Patch.ofFields (enterpriseFields enterprise)).apply := by
  rw [applyEnterprise, bind_eq_ok]
  constructor
  · rintro ⟨⟨⟩, heap, h⟩
    obtain ⟨⟨⟩, hlabel, h⟩ := bind_eq_ok.mp h
    obtain ⟨values, hvalues, h⟩ := bind_eq_ok.mp h
    obtain ⟨hcertificates, rfl⟩ := enterpriseValues_eq_ok.mp hvalues
    exact ⟨⟨heap, hlabel, hcertificates⟩, (Except.ok.inj h).symm⟩
  · rintro ⟨⟨heap, hlabel, hcertificates⟩, rfl⟩
    exact ⟨(), heap, bind_eq_ok.mpr ⟨(), hlabel, bind_eq_ok.mpr
      ⟨_, enterpriseValues_eq_ok.mpr ⟨hcertificates, rfl⟩, rfl⟩⟩⟩

/-! ## An accepted update -/

/-- What is checked of an update, whatever the settings. -/
structure ValidUpdate (update : WifiProfileAdvancedUpdate) : Prop where
  wireless : validateWirelessUpdate update = .ok ()
  privacy : (update.ipv6Privacy.map validatePrivacy).getD (.ok ()) = .ok ()
  enterprise : ∀ enterprise, update.enterprise = some enterprise → ValidEnterprise enterprise

/-- Fields by section, as patches. -/
def patchesOf (fields : List (String × List (String × Option (Option Value)))) :
    List (String × Patch String Value) :=
  fields.map fun e => (e.1, Patch.ofFields e.2)

theorem applyEnterpriseUpdate_eq_ok {enterprise : Option ProfileEnterpriseUpdate} :
    applyEnterpriseUpdate settings enterprise = .ok settings' ↔
      (∀ e, enterprise = some e → ValidEnterprise e) ∧
        settings' = patchSections settings
          (patchesOf (enterprise.map fun e => ("802-1x", enterpriseFields e)).toList) := by
  cases enterprise with
  | none =>
    exact ⟨fun h => ⟨fun e he => (by cases he), (Except.ok.inj h).symm⟩, fun h => h.2 ▸ rfl⟩
  | some e =>
    rw [applyEnterpriseUpdate, applyEnterprise_eq_ok]
    refine and_congr_left fun _ => ⟨fun h e' he => ?_, fun h => h e rfl⟩
    exact Option.some.inj he ▸ h

/-- **An update** is accepted if its fields are valid and what it makes of the settings is not
restricted, and patches the settings by its fields. -/
theorem applyAdvanced_eq_ok : applyAdvanced settings update = .ok settings' ↔
    ValidUpdate update ∧
      settings' = patchSections settings (patchesOf (advancedFields clearedText update)) ∧
      ¬ Restricted settings' := by
  have hpatched : patchSections settings (patchesOf (advancedFields clearedText update)) =
      patchSections (editSection (editSection (editSection (applyConnectionFields settings update)
        "802-11-wireless" (Patch.ofFields (wirelessFields clearedText update)).apply)
        "ipv4" (Patch.ofFields (ipv4Fields update)).apply)
        "ipv6" (Patch.ofFields (ipv6Fields update)).apply)
        (patchesOf (update.enterprise.map fun e => ("802-1x", enterpriseFields e)).toList) := by
    rw [applyConnectionFields_eq]
    rfl
  rw [hpatched, applyAdvanced, bind_eq_ok]
  constructor
  · rintro ⟨wireless, hwireless, h⟩
    obtain ⟨hvalid, rfl⟩ := applyWirelessFields_eq_ok.mp hwireless
    obtain ⟨ip, hip, h⟩ := bind_eq_ok.mp h
    obtain ⟨hprivacy, rfl⟩ := applyIpFields_eq_ok.mp hip
    obtain ⟨result, hresult, h⟩ := bind_eq_ok.mp h
    obtain ⟨henterprise, rfl⟩ := applyEnterpriseUpdate_eq_ok.mp hresult
    obtain ⟨⟨⟩, htrust, h⟩ := bind_eq_ok.mp h
    obtain rfl := Except.ok.inj h
    exact ⟨⟨hvalid, hprivacy, henterprise⟩, rfl, (validatePrivateCaPaths_eq_ok _ _).mp htrust⟩
  · rintro ⟨hvalid, rfl, hrestricted⟩
    exact ⟨_, applyWirelessFields_eq_ok.mpr ⟨hvalid.wireless, rfl⟩, bind_eq_ok.mpr
      ⟨_, applyIpFields_eq_ok.mpr ⟨hvalid.privacy, rfl⟩, bind_eq_ok.mpr
        ⟨_, applyEnterpriseUpdate_eq_ok.mpr ⟨hvalid.enterprise, rfl⟩, bind_eq_ok.mpr
          ⟨(), (validatePrivateCaPaths_eq_ok _ _).mpr hrestricted, rfl⟩⟩⟩⟩

/-! ### What it leaves -/

theorem nodup_sections (address : Option String → Option (Option Value))
    (update : WifiProfileAdvancedUpdate) : ((advancedFields address update).map Prod.fst).Nodup := by
  unfold advancedFields
  cases update.enterprise with
  | none =>
    change ["connection", "802-11-wireless", "ipv4", "ipv6"].Nodup
    decide
  | some enterprise =>
    change ["connection", "802-11-wireless", "ipv4", "ipv6", "802-1x"].Nodup
    decide

/-- No section names a field twice. -/
theorem nodup_fields (address : Option String → Option (Option Value))
    (update : WifiProfileAdvancedUpdate) :
    ∀ e ∈ advancedFields address update, (e.2.map Prod.fst).Nodup := by
  have hconnection : ((connectionFields update).map Prod.fst).Nodup := by
    change ["autoconnect-priority", "zone", "permissions", "secondaries", "mdns"].Nodup
    decide
  have hwireless : ((wirelessFields address update).map Prod.fst).Nodup := by
    change ["bssid", "mac-address", "mode", "cloned-mac-address", "mac-address-randomization",
      "assigned-mac-address", "mtu", "band", "channel"].Nodup
    decide
  have hipv4 : ((ipv4Fields update).map Prod.fst).Nodup := by
    change ["dhcp-client-id", "dhcp-hostname", "never-default", "ignore-auto-routes", "may-fail",
      "dad-timeout"].Nodup
    decide
  have hipv6 : ((ipv6Fields update).map Prod.fst).Nodup := by
    change ["never-default", "ignore-auto-routes", "may-fail", "ip6-privacy"].Nodup
    decide
  have henterprise : ∀ enterprise, ((enterpriseFields enterprise).map Prod.fst).Nodup := by
    intro enterprise
    change ["eap", "altsubject-matches", "phase2-altsubject-matches", "identity",
      "anonymous-identity", "domain-suffix-match", "domain-match", "subject-match", "ca-path",
      "phase2-ca-path", "phase1-peapver", "phase1-peaplabel", "phase1-fast-provisioning",
      "phase2-auth", "phase2-autheap", "phase2-domain-suffix-match", "phase2-subject-match",
      "pac-file", "ca-cert", "client-cert", "private-key", "phase2-ca-cert", "phase2-client-cert",
      "phase2-private-key", "system-ca-certs", "phase1-auth-flags", "password-flags",
      "private-key-password-flags", "phase2-private-key-password-flags", "ca-cert-password-flags",
      "client-cert-password-flags", "pin-flags"].Nodup
    decide +kernel
  intro e he
  rcases List.mem_append.mp he with he | he
  · simp only [List.mem_cons, List.not_mem_nil, or_false] at he
    rcases he with rfl | rfl | rfl | rfl
    · exact hconnection
    · exact hwireless
    · exact hipv4
    · exact hipv6
  · obtain ⟨enterprise, -, rfl⟩ := Option.map_eq_some_iff.mp (Option.mem_toList.mp he)
    exact henterprise enterprise

/-- What is sent of a field. -/
def sentOf (fields : List (String × List (String × Option (Option Value)))) (section' key : String) :
    Option (Option Value) :=
  (fields.lookup section').bind fun l => (l.lookup key).join

/-- After a patch by fields, a field that was sent holds what was sent, and the others what they
held before. -/
theorem field_patched (address : Option String → Option (Option Value))
    (update : WifiProfileAdvancedUpdate) (settings : ConnectionSettings) (s k : String) :
    field (patchSections settings (patchesOf (advancedFields address update))) s k =
      (sentOf (advancedFields address update) s k).getD (field settings s k) := by
  have hsections : ((patchesOf (advancedFields address update)).map Prod.fst).Nodup := by
    rw [patchesOf, List.map_map]
    exact nodup_sections address update
  have hlookup : ∀ fields : List (String × List (String × Option (Option Value))),
      (patchesOf fields).lookup s = (fields.lookup s).map Patch.ofFields := by
    intro fields
    induction fields with
    | nil => rfl
    | cons e fields ih =>
      rw [patchesOf, List.map_cons, List.lookup_cons, List.lookup_cons]
      cases s == e.1
      · exact ih
      · rfl
  rw [field_patchSections hsections, hlookup, sentOf]
  cases hfields : (advancedFields address update).lookup s with
  | none => rfl
  | some l =>
    have hmem := (lookup_eq_some_iff (nodup_sections address update)).mp hfields
    rw [Option.map_some, Option.bind_some, Option.bind_some,
      Patch.last_ofFields (nodup_fields address update _ hmem)]

end ProfileSettings

end NmDaemon
