import NmDaemon.ConnectionMachine
import NmDaemon.IpSettings
import NmDaemon.ProfilePolicy
import NmDaemon.WifiSecurity

/-!
# The settings of a Wi-Fi connection

`nm/wifi_settings.rs` and `nm/wifi_settings/profile.rs`: the settings that a request to connect
amounts to, for an access point, for a hidden network and for a profile that is there already,
and what the request asks of the profile besides.

* `visibleConnectionSettings`, `hiddenWifiConnectionSettings`, `clonedWifiConnectionSettings` —
  new settings;
* `applySavedActivationSettings` — the credentials of a request in the settings of a profile;
* `applyTargetProfileSettings`, `applyTargetConnectionMetadata` — the rest of the request;
* `field_mergeConnectionSettings` and the frame lemmas — what of the settings they change.

The name of the user the daemon runs for is read from its environment; here it is a parameter.
-/

namespace NmDaemon

namespace WifiSettings

open ProfileSettings Fallible
open Credentials (field)
open Wifi (ScannedAccessPoint classify personalKeyManagement enterpriseKeyMgmt)

/-! ## Requests -/

/-- What is given for 802.1X. -/
structure EnterpriseAuth : Type where
  eap : List String
  identity : Option String
  anonymousIdentity : Option String
  password : Option String
  phase2Auth : Option String
  caCert : Option String
  caPath : Option String
  domainSuffixMatch : Option String
  subjectMatch : Option String
  altsubjectMatches : List String
  opensslCiphers : Option String
  phase1Peapver : Option String
  phase1Peaplabel : Option String
  phase1FastProvisioning : Option String
  clientCert : Option String
  privateKey : Option String
  privateKeyPassword : Option String
  pin : Option String
  pacFile : Option String
  keyMgmt : Option String
  systemCaCerts : Option Bool
  passwordFlags : Option UInt32
  privateKeyPasswordFlags : Option UInt32
  pinFlags : Option UInt32

structure TargetProfileSettings : Type where
  /-- `false` creates a volatile profile without changing any saved one -/
  remember : Option Bool
  autoconnect : Option Bool
  autoconnectPriority : Option Int32
  metered : Option String
  clonedMacAddress : Option String
  sendHostname : Option Bool
  ipv4 : Option TargetIpSettings
  ipv6 : Option TargetIpSettings

/-- A target, with what it says of the profile: the part of a `WifiConnectTarget` that settings
are built from. -/
structure Target : Type where
  ssid : Ssid
  connectionName : Option String
  isPrivate : Bool
  hidden : Bool
  keyMgmt : Option String
  enterprise : Option EnterpriseAuth
  profile : TargetProfileSettings

/-- A typed error on its way up. -/
def domain {α : Type} (x : Except DomainError α) : Except AnyError α := x.mapError .ofDomain

/-! ## Passwords -/

inductive WifiPasswordFormat : Type where
  | wpaPsk
  | wep (keyType : WepKeyType)

def isHex (value : String) : Bool := value.toList.all Connection.isHexDigit

def isAscii (value : String) : Bool := value.toList.all fun c => c.toNat < 128

namespace WifiPasswordFormat

/-- Lengths are in bytes. -/
def accepts (format : WifiPasswordFormat) (value : String) : Bool :=
  let size := value.utf8ByteSize
  match format with
  | wpaPsk => (8 ≤ size && size ≤ 63) || (size = 64 && isHex value)
  | wep .key => ((size = 5 || size = 13) && isAscii value) || ((size = 10 || size = 26) && isHex value)
  | wep .phrase => 8 ≤ size && size ≤ 64

def message : WifiPasswordFormat → String
  | wpaPsk => "WPA-PSK password must be 8-63 characters, or 64 hexadecimal characters"
  | wep .key => "WEP key must be 5 or 13 ASCII characters, or 10 or 26 hexadecimal characters"
  | wep .phrase => "WEP passphrase must be 8-64 characters"

def validate (format : WifiPasswordFormat) (value : String) (operation : ErrorOperation)
    (field : String) : Except AnyError Unit :=
  if format.accepts value then .ok ()
  else .error (.ofDomain ((DomainError.validation operation format.message).withDetail "field"
    (.str field)))

end WifiPasswordFormat

def nmValue : WepKeyType → UInt32
  | .key => 1
  | .phrase => 2

/-! ## Sections -/

def keyManagementSection (keyMgmt : String) : Values := tableOf [("key-mgmt", .str keyMgmt)]

def wirelessSecuritySection (keyMgmt password : String) : Values :=
  tableOf [("key-mgmt", .str keyMgmt), ("psk", .str password), ("psk-flags", .u32 0)]

/-- A key that was checked. -/
def wepValues (password : String) (wepKeyType : WepKeyType) : Values :=
  tableOf [("key-mgmt", .str "none"), ("wep-key0", .str password), ("wep-key-flags", .u32 0),
    ("wep-key-type", .u32 (nmValue wepKeyType))]

def wepSecuritySection (password : String) (wepKeyType : WepKeyType) : Except AnyError Values := do
  (WifiPasswordFormat.wep wepKeyType).validate password .connect "password"
  pure (wepValues password wepKeyType)

def securityConnectionSettings (section' : Values) : ConnectionSettings :=
  tableOf [("802-11-wireless-security", section')]

def pskWifiConnectionSettings (ap : ScannedAccessPoint) (password : String) :
    Except AnyError ConnectionSettings := do
  let keyMgmt := personalKeyManagement ap.wpaFlags ap.rsnFlags
  if keyMgmt = "wpa-psk" then WifiPasswordFormat.wpaPsk.validate password .connect "password"
  pure (securityConnectionSettings (wirelessSecuritySection keyMgmt password))

def oweWifiConnectionSettings : ConnectionSettings :=
  securityConnectionSettings (keyManagementSection "owe")

def wepWifiConnectionSettings (password : String) (wepKeyType : WepKeyType) :
    Except AnyError ConnectionSettings :=
  (wepSecuritySection password wepKeyType).map securityConnectionSettings

/-! ## 802.1X -/

def insertRequiredString (values : Values) (key : String) (value : Option String) :
    Except AnyError Values :=
  match filled value with
  | some value => .ok (values.insert key (.str value))
  | none => .error (.ofDomain ((DomainError.validation .connect
      ("enterprise Wi-Fi field '" ++ key ++ "' is required")).withDetail "field" (.str key)))

def enterpriseEapMethods (enterprise : EnterpriseAuth) : List String :=
  if enterprise.eap.isEmpty then ["peap"] else enterprise.eap

/-- The 802.1X section for a target. -/
def enterpriseDot1xSection (enterprise : EnterpriseAuth) (password : Option String) :
    Except AnyError Values := do
  domain (validatePeaplabel .connect enterprise.phase1Peaplabel)
  let dot1x := tableOf [("eap", stringList (enterpriseEapMethods enterprise))]
  let dot1x ← insertRequiredString dot1x "identity" enterprise.identity
  pure (insertOptionalStrings dot1x
    [("anonymous-identity", enterprise.anonymousIdentity),
      ("password", enterprise.password.or password),
      ("phase2-auth", enterprise.phase2Auth),
      ("ca-path", enterprise.caPath),
      ("domain-suffix-match", enterprise.domainSuffixMatch),
      ("subject-match", enterprise.subjectMatch),
      ("openssl-ciphers", enterprise.opensslCiphers),
      ("phase1-peapver", enterprise.phase1Peapver),
      ("phase1-peaplabel", enterprise.phase1Peaplabel),
      ("phase1-fast-provisioning", enterprise.phase1FastProvisioning)])

/-- The certificates and the key, each a reference. -/
def enterpriseCertificates (enterprise : EnterpriseAuth) : List (String × Option String) :=
  [("ca-cert", enterprise.caCert), ("client-cert", enterprise.clientCert),
    ("private-key", enterprise.privateKey)]

def insertEnterpriseCertificateSettings (dot1x : Values) (enterprise : EnterpriseAuth) :
    Except AnyError Values := do
  let dot1x := if enterprise.altsubjectMatches.isEmpty then dot1x
    else dot1x.insert "altsubject-matches" (stringList enterprise.altsubjectMatches)
  let dot1x ← (enterpriseCertificates enterprise).foldlM
    (fun dot1x e => domain (setCertificateReference .connect dot1x e.1 e.2)) dot1x
  let dot1x := insertOptionalStrings dot1x
    [("private-key-password", enterprise.privateKeyPassword), ("pin", enterprise.pin),
      ("pac-file", enterprise.pacFile)]
  pure (insertOptionalValue dot1x "system-ca-certs" (enterprise.systemCaCerts.map Value.bool))

/-- The flags of one secret: those of the request, or none for a secret that was supplied. -/
def insertSecretFlags (dot1x : Values) (e : String × Option UInt32) : Except AnyError Values :=
  match e.2 with
  | some flags =>
    if flags &&& 1 = 0 then .ok (dot1x.insert (e.1 ++ "-flags") (.u32 flags))
    else .error ⟨["agent-owned storage is unsupported for new credentials"],
      .inr (.internalError, .internal, [])⟩
  | none =>
    .ok (if (dot1x.lookup e.1).isSome then dot1x.insert (e.1 ++ "-flags") (.u32 0)
      else dot1x)

def insertEnterpriseFlagSettings (dot1x : Values) (enterprise : EnterpriseAuth) :
    Except AnyError Values :=
  [("password", enterprise.passwordFlags),
    ("private-key-password", enterprise.privateKeyPasswordFlags),
    ("pin", enterprise.pinFlags)].foldlM insertSecretFlags dot1x

def enterpriseWifiConnectionSettingsWithKeyMgmt (enterprise : EnterpriseAuth)
    (password : Option String) (keyMgmt : String) : Except AnyError ConnectionSettings := do
  let dot1x ← enterpriseDot1xSection enterprise password
  let dot1x ← insertEnterpriseCertificateSettings dot1x enterprise
  let dot1x ← insertEnterpriseFlagSettings dot1x enterprise
  pure (tableOf [("802-11-wireless-security", keyManagementSection keyMgmt), ("802-1x", dot1x)])

def enterpriseWifiConnectionSettings (ap : ScannedAccessPoint) (enterprise : EnterpriseAuth)
    (password : Option String) : Except AnyError ConnectionSettings :=
  enterpriseWifiConnectionSettingsWithKeyMgmt enterprise password
    (enterpriseKeyMgmt ap.wpaFlags ap.rsnFlags)

/-! ## By what the request says of the key management -/

def normalizedKeyMgmt (value : String) : String :=
  match String.ofList (value.toList.map Char.toLower) with
  | "" | "--" | "open" => "open"
  | "none" | "wep" => "wep"
  | "psk" | "wpa-personal" | "wpa_psk" | "wpa-psk" => "wpa-psk"
  | "sae" => "sae"
  | "owe" => "owe"
  | "802.1x" | "802-1x" | "enterprise" | "wpa-eap" => "wpa-eap"
  | "suite-b" | "wpa-eap-suite-b-192" => "wpa-eap-suite-b-192"
  | other => other

def targetKeyMgmt (target : Target) : Option String :=
  (target.keyMgmt.or (target.enterprise.bind EnterpriseAuth.keyMgmt)).map normalizedKeyMgmt

def connectError (code : ErrorCode) (message : String) : DomainError :=
  .new code .connect .networkManager message

def requiredHiddenPassword (password : Option String) (message : String) : Except AnyError String :=
  match password with
  | some password => .ok password
  | none => .error (.ofDomain (connectError .secretRequired message))

variable (target : Target) (password : Option String) (wepKeyType : Option WepKeyType)

def securitySettingsWithoutHint : Except AnyError (Option ConnectionSettings) :=
  match password with
  | none => .ok none
  | some password =>
    match wepKeyType with
    | some wepKeyType => (wepWifiConnectionSettings password wepKeyType).map some
    | none => do
      WifiPasswordFormat.wpaPsk.validate password .connect "password"
      pure (some (securityConnectionSettings (wirelessSecuritySection "wpa-psk" password)))

def hiddenWepSettings : Except AnyError (Option ConnectionSettings) := do
  let password ← requiredHiddenPassword password "hidden WEP network requires a password/key"
  (wepWifiConnectionSettings password (wepKeyType.getD .key)).map some

def hiddenPersonalSettings (keyMgmt : String) : Except AnyError (Option ConnectionSettings) := do
  let password ← requiredHiddenPassword password "hidden WPA/SAE network requires a password"
  WifiPasswordFormat.wpaPsk.validate password .connect "password"
  pure (some (securityConnectionSettings (wirelessSecuritySection keyMgmt password)))

/-- The settings for a key management that is named. -/
def hintedSettings (keyMgmt : String) : Except AnyError (Option ConnectionSettings) :=
  match keyMgmt with
  | "open" | "none" | "--" => .ok none
  | "owe" => .ok (some oweWifiConnectionSettings)
  | "wep" => hiddenWepSettings password wepKeyType
  | "sae" | "wpa-psk" => hiddenPersonalSettings password keyMgmt
  | "wpa-eap" | "wpa-eap-suite-b-192" => .error (.ofDomain (connectError .secretRequired
      "hidden enterprise network requires an enterprise credential object"))
  | other => .error (.ofDomain ((connectError .unsupportedAuth
      ("unsupported hidden key management '" ++ other ++ "'")).withDetail "key_management"
        (.str other)))

def securitySettingsForTargetHint : Except AnyError (Option ConnectionSettings) :=
  match target.enterprise with
  | some enterprise => (enterpriseWifiConnectionSettingsWithKeyMgmt enterprise password
      ((targetKeyMgmt target).getD "wpa-eap")).map some
  | none =>
    match targetKeyMgmt target with
    | none => securitySettingsWithoutHint password wepKeyType
    | some keyMgmt => hintedSettings password wepKeyType keyMgmt

/-! ## By the access point -/

def securitySettingsForVisibleAp (ap : ScannedAccessPoint) :
    Except AnyError (Option ConnectionSettings) :=
  match target.enterprise with
  | some enterprise => (enterpriseWifiConnectionSettings ap enterprise password).map some
  | none =>
    match classify ap.flags ap.wpaFlags ap.rsnFlags, password with
    | .owe, _ => .ok (some oweWifiConnectionSettings)
    | .wep, some password => (wepWifiConnectionSettings password (wepKeyType.getD .key)).map some
    | .personal, some password => (pskWifiConnectionSettings ap password).map some
    | _, _ => .ok none

/-- The settings without a password: NetworkManager asks for it. -/
def visibleConnectionSettings (ap : ScannedAccessPoint) :
    Except AnyError (Option ConnectionSettings) :=
  match classify ap.flags ap.wpaFlags ap.rsnFlags with
  | .opened => .ok (some ∅)
  | .owe => .ok (some oweWifiConnectionSettings)
  | .personal =>
    match password with
    | some password => (pskWifiConnectionSettings ap password).map some
    | none => .ok (some (securityConnectionSettings
        (keyManagementSection (personalKeyManagement ap.wpaFlags ap.rsnFlags))))
  | .wep =>
    match password with
    | some password => (wepWifiConnectionSettings password (wepKeyType.getD .key)).map some
    | none => .ok (some (securityConnectionSettings (AList.insert "wep-key-type"
        (.u32 (nmValue (wepKeyType.getD .key))) (keyManagementSection "none"))))
  | .enterprise =>
    match target.enterprise with
    | some enterprise => (enterpriseWifiConnectionSettings ap enterprise password).map some
    | none => .ok none
  | .unsupported => .ok none

/-! ## By the saved profile -/

section

variable (settings : ConnectionSettings)

/-- The key management a profile names, if it does with a string. -/
def savedKeyMgmt : String :=
  ((field settings "802-11-wireless-security" "key-mgmt").bind Value.asStr).getD ""

def securitySettingsForSavedProfile : Except AnyError (Option ConnectionSettings) :=
  if target.enterprise.isSome || target.keyMgmt.isSome then
    securitySettingsForTargetHint target password wepKeyType
  else
    match password with
    | none => .ok none
    | some password =>
      let keyMgmt := savedKeyMgmt settings
      if keyMgmt = "wpa-psk" ∨ keyMgmt = "sae" then do
        WifiPasswordFormat.wpaPsk.validate password .connect "password"
        pure (some (securityConnectionSettings (wirelessSecuritySection keyMgmt password)))
      else if keyMgmt = "none" ∨ keyMgmt = "" then
        (wepWifiConnectionSettings password (wepKeyType.getD .key)).map some
      else securitySettingsForTargetHint target (some password) wepKeyType

/-- Values that are there are replaced, others are kept. -/
def mergeConnectionSettings (settings updates : ConnectionSettings) : ConnectionSettings :=
  updates.pairs.foldl (fun settings e => editSection settings e.1 fun values => e.2 ∪ values) settings

/-! ## The rest of the request -/

/-- A value that is set unless there is one. -/
def insertMissing (values : Values) (key : String) (value : Value) : Values :=
  if (values.lookup key).isSome then values else values.insert key value

def meteredCode (value : String) : Except AnyError UInt32 :=
  match value with
  | "auto" | "unknown" => .ok 0
  | "yes" | "on" | "true" => .ok 1
  | "no" | "off" | "false" => .ok 2
  | _ => .error (.ofDomain (((DomainError.validation .connect
      "profile.metered must be auto, yes, or no").withDetail "field"
        (.str "profile.metered")).withDetail "value" (.str value)))

/-- The code of what is asked for, if anything is. -/
def requestedMetered (profile : TargetProfileSettings) : Except AnyError (Option UInt32) :=
  match filled profile.metered with
  | some metered => (meteredCode metered).map some
  | none => .ok none

/-- Discovery over multicast DNS is opt-in: it is off unless the profile says otherwise. -/
def pinMdns (connection : Values) : Values :=
  let mdns := setting Value.asI32 connection "mdns"
  if mdns = none ∨ mdns = some (-1) then connection.insert "mdns" (.i32 0) else connection

def applyConnectionSettings (profile : TargetProfileSettings) :
    Except AnyError ConnectionSettings := do
  let metered ← requestedMetered profile
  pure (editSection settings "connection" fun connection =>
    insertOptionalValues (pinMdns connection)
      [("autoconnect", profile.autoconnect.map Value.bool),
        ("autoconnect-priority", profile.autoconnectPriority.map Value.i32),
        ("metered", metered.map Value.u32)])

/-- No wireless section is created when no address is asked for. -/
def applyMacPolicy (profile : TargetProfileSettings) : ConnectionSettings :=
  match filled profile.clonedMacAddress with
  | some value => editSection settings "802-11-wireless"
      (AList.insert "assigned-mac-address" (.str value))
  | none => settings

def applyHostnamePolicy (profile : TargetProfileSettings) : ConnectionSettings :=
  match profile.sendHostname with
  | some enabled => setSendHostname (setSendHostname settings "ipv4" enabled) "ipv6" enabled
  | none => settings

def applyIpSettings (section' : String) (update : Option TargetIpSettings) : ConnectionSettings :=
  match update with
  | some update => overlay settings section' update
  | none => settings

def applyTargetProfileSettings : Except AnyError ConnectionSettings := do
  let settings ← applyConnectionSettings settings target.profile
  let settings := applyHostnamePolicy (applyMacPolicy settings target.profile) target.profile
  pure (applyIpSettings (applyIpSettings settings "ipv4" target.profile.ipv4) "ipv6"
    target.profile.ipv6)

def applyConnectionName (name : Option String) : ConnectionSettings :=
  match filled name with
  | some name => editSection settings "connection" fun connection =>
      insertMissing (connection.insert "id" (.str name)) "type" (.str "802-11-wireless")
  | none => settings

/-- The name of a user that can be put into a list of permissions. -/
def validUser (user : String) : Bool :=
  !user.toList.all Portal.isWhitespace &&
    !user.toList.any fun c => c = ':' || c = '\n' || c = '\r' || c = '\x00'

def privatePermissions (isPrivate : Bool) (user : Option String) :
    Except AnyError (Option (List String)) :=
  if !isPrivate then .ok none
  else
    match user.filter validUser with
    | some user => .ok (some ["user:" ++ user ++ ":"])
    | none => .error (.ofDomain ((DomainError.validation .connect
        "cannot create a private connection without a valid current user name").withDetail "field"
          (.str "private")))

def applyPrivateConnection (user : Option String) (settings : ConnectionSettings)
    (isPrivate : Bool) : Except AnyError ConnectionSettings := do
  match ← privatePermissions isPrivate user with
  | some permissions => pure (editSection settings "connection"
      (AList.insert "permissions" (stringList permissions)))
  | none => pure settings

def applyTargetConnectionMetadata (user : Option String) (settings : ConnectionSettings) :
    Except AnyError ConnectionSettings := do
  let settings := applyConnectionName settings target.connectionName
  let settings ← applyPrivateConnection user settings target.isPrivate
  domain (validatePrivateCaPaths .connect settings)
  pure settings

/-! ## Whole settings -/

/-- The credentials of a request, by the access point if there is one. -/
def credentialSettings (ap : Option ScannedAccessPoint) :
    Except AnyError (Option ConnectionSettings) :=
  match ap with
  | some ap => securitySettingsForVisibleAp target password wepKeyType ap
  | none => securitySettingsForSavedProfile target password wepKeyType settings

def applySavedActivationSettings (ap : Option ScannedAccessPoint) :
    Except AnyError ConnectionSettings := do
  let credentials ← credentialSettings target password wepKeyType settings ap
  applyTargetProfileSettings target (match credentials with
    | some credentials => mergeConnectionSettings settings credentials
    | none => settings)

def sanitizeClonedSettings : ConnectionSettings :=
  editSection settings "connection" fun connection =>
    AList.insert "type" (.str "802-11-wireless")
      ((connection.erase "uuid").erase "timestamp")

def byteArray (bytes : List UInt8) : Value := .array "y" (bytes.map Value.byte)

def ensureWirelessSettings (hidden : Bool) : ConnectionSettings :=
  let settings := editSection settings "connection" fun connection =>
    insertMissing (insertMissing connection "id" (.str target.ssid.display)) "type"
      (.str "802-11-wireless")
  editSection settings "802-11-wireless" fun wireless =>
    AList.insert "hidden" (.bool hidden) (AList.insert "mode" (.str "infrastructure")
      (wireless.insert "ssid" (byteArray target.ssid.bytes)))

def clonedWifiConnectionSettings (ap : ScannedAccessPoint) : Except AnyError ConnectionSettings :=
  applySavedActivationSettings target password wepKeyType
    (ensureWirelessSettings target (sanitizeClonedSettings settings) false) (some ap)

end

def baseWifiConnectionSettings (ssid : Ssid) (hidden : Bool) : ConnectionSettings :=
  tableOf [("connection", tableOf [("id", .str ssid.display), ("type", .str "802-11-wireless")]),
    ("802-11-wireless", tableOf [("ssid", byteArray ssid.bytes), ("mode", .str "infrastructure"),
      ("hidden", .bool hidden)]),
    ("ipv4", tableOf [("method", .str "auto")]),
    ("ipv6", tableOf [("method", .str "auto")])]

def hiddenWifiConnectionSettings : Except AnyError ConnectionSettings := do
  let settings := baseWifiConnectionSettings target.ssid true
  let security ← securitySettingsForTargetHint target password wepKeyType
  applyTargetProfileSettings target (match security with
    | some security => security ∪ settings
    | none => settings)

/-! ## What is changed -/

section Frame

variable {target : Target} {settings changed : ConnectionSettings} {user : Option String} {s : String}

theorem lookup_mergeConnectionSettings (settings updates : ConnectionSettings) (s : String) :
    (mergeConnectionSettings settings updates).lookup s =
      match updates.lookup s with
      | some values => some (values ∪ (settings.lookup s).getD ∅)
      | none => settings.lookup s := by
  have h := Table.lookup_foldl_pairs
    (f := fun settings e => editSection settings e.1 fun values => e.2 ∪ values)
    (g := fun values old => some (values ∪ old.getD ∅))
    (fun d k values l => lookup_editSection d k (values ∪ ·) l) updates settings s
  rw [mergeConnectionSettings, h]
  cases updates.lookup s <;> rfl

/-- A merge, field by field. -/
theorem field_mergeConnectionSettings (settings updates : ConnectionSettings) (s k : String) :
    field (mergeConnectionSettings settings updates) s k =
      (field updates s k).or (field settings s k) := by
  rw [field, field, lookup_mergeConnectionSettings]
  cases updates.lookup s with
  | none => rfl
  | some values =>
    change (values ∪ _).lookup k = _
    rw [Table.lookup_union, lookup_getD]
    rfl

/-- Texts that are written where they are not empty, each under its own key. -/
theorem lookup_insertOptionalStrings (key : String) : ∀ {entries : List (String × Option String)}
    {values : Values}, (entries.map Prod.fst).Nodup →
      (insertOptionalStrings values entries).lookup key =
        (((entries.lookup key).bind filled).map Value.str).or (values.lookup key) := by
  intro entries
  induction entries with
  | nil => exact fun _ => rfl
  | cons e entries ih =>
    intro values hnodup
    rw [List.map_cons, List.nodup_cons] at hnodup
    rw [show insertOptionalStrings values (e :: entries) =
      insertOptionalStrings (insertOptionalString values e.1 e.2) entries from rfl, ih hnodup.2,
      insertOptionalString_eq, Patch.lookup_apply, Patch.last_optional, List.lookup_cons]
    by_cases h : key = e.1
    · have hlater : entries.lookup key = none := by
        refine List.lookup_eq_none_iff.mpr fun e' he' => bne_iff_ne.mpr fun heq => ?_
        exact hnodup.1 (List.mem_map.mpr ⟨e', he', heq.symm.trans h⟩)
      rw [hlater, if_pos h, beq_iff_eq.mpr h]
      cases hfilled : filled e.2 <;> simp [hfilled]
    · rw [if_neg h, beq_eq_false_iff_ne.mpr h]
      rfl

theorem lookup_editSection_of_ne {section' : String} {f : Values → Values} (h : s ≠ section') :
    (editSection settings section' f).lookup s = settings.lookup s :=
  (lookup_editSection settings section' f s).trans (if_neg h)

/-- The sections that a request changes besides the credentials. -/
def profileSections : List String := ["connection", "802-11-wireless", "ipv4", "ipv6"]

theorem lookup_applyTargetProfileSettings
    (h : applyTargetProfileSettings target settings = .ok changed) (hs : s ∉ profileSections) :
    changed.lookup s = settings.lookup s := by
  simp only [profileSections, List.mem_cons, List.not_mem_nil, or_false, not_or] at hs
  obtain ⟨hconnection, hwireless, hipv4, hipv6⟩ := hs
  have hip : ∀ {section' : String} {update : Option TargetIpSettings} {settings : ConnectionSettings},
      s ≠ section' →
      (applyIpSettings settings section' update).lookup s = settings.lookup s := by
    intro section' update settings hne
    cases update with
    | none => rfl
    | some update => exact lookup_editSection_of_ne hne
  have hhostname : ∀ settings : ConnectionSettings,
      (applyHostnamePolicy settings target.profile).lookup s = settings.lookup s := by
    intro settings
    unfold applyHostnamePolicy
    split
    · exact (lookup_editSection_of_ne hipv6).trans (lookup_editSection_of_ne hipv4)
    · rfl
  have hmac : ∀ settings : ConnectionSettings,
      (applyMacPolicy settings target.profile).lookup s = settings.lookup s := by
    intro settings
    unfold applyMacPolicy
    split
    · exact lookup_editSection_of_ne hwireless
    · rfl
  obtain ⟨connected, hconnected, hrest⟩ := bind_eq_ok.mp h
  obtain ⟨metered, -, hedit⟩ := bind_eq_ok.mp hconnected
  obtain rfl := Except.ok.inj hedit
  obtain rfl := Except.ok.inj hrest
  rw [hip hipv6, hip hipv4, hhostname, hmac, lookup_editSection_of_ne hconnection]

/-- The name and the permissions are in the section of the connection, and the profile is not
restricted afterwards. -/
theorem applyTargetConnectionMetadata_spec
    (h : applyTargetConnectionMetadata target user settings = .ok changed) :
    (∀ s, s ≠ "connection" → changed.lookup s = settings.lookup s) ∧
      ¬ Restricted changed := by
  obtain ⟨named, hnamed, hrest⟩ := bind_eq_ok.mp h
  obtain ⟨_, hvalid, hchanged⟩ := bind_eq_ok.mp hrest
  obtain rfl := Except.ok.inj hchanged
  refine ⟨fun s hs => ?_, (validatePrivateCaPaths_eq_ok _ _).mp (mapError_eq_ok hvalid)⟩
  have hname : (applyConnectionName settings target.connectionName).lookup s =
      settings.lookup s := by
    unfold applyConnectionName
    split
    · exact lookup_editSection_of_ne hs
    · rfl
  obtain ⟨permissions, -, hnamed⟩ := bind_eq_ok.mp hnamed
  cases permissions with
  | none =>
    obtain rfl := Except.ok.inj hnamed
    exact hname
  | some permissions =>
    obtain rfl := Except.ok.inj hnamed
    rw [lookup_editSection_of_ne hs, hname]

end Frame

end WifiSettings

end NmDaemon
