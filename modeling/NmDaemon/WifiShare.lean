import NmDaemon.PasswordPlacement
import NmDaemon.ProfileVersion
import NmDaemon.WifiQr

/-!
# Sharing a saved Wi-Fi profile

`wifi_share_payload_for_settings` (`nm/settings.rs`) and `WifiSharePayload::shareable`
(`model.rs`): what a saved profile is offered as to a phone that should join the same network.
The code is drawn only after the daemon's own reader has accepted its text.

* `secretInUse` — the secret that a profile is activated with;
* `payload_cases` — a payload marked shareable is made of that secret and of the hidden flag;
* `shareable_reads` — and its text reads back as what it was made of;
* `shared_usable_iff` — which is the saved network exactly when its name is text: the name that
  is written is the one for display, not the bytes.
-/

namespace NmDaemon

namespace Share

open WifiSettings Wifi ProfileSettings
open Qr (parseWifiQr wifiQrPayload parse_payload Emitted)
open NmDaemon.Runtime (SsidBytes)
open Fallible

/-! ## The payload -/

structure WifiSharePayload : Type where
  status : String
  shareable : Bool
  reason : Option String
  path : String
  id : String
  ssid : String
  authType : Option String
  qrPayload : Option String
  qrSvg : Option String
  password : Option String
  version : Option String

section

-- An untyped error, and the drawing of a code (the crate `qrcode`), which may fail.
variable (raise : String → AnyError) (draw : String → Except AnyError String)

/-- Only a bounded, validated payload is drawn. -/
def renderShare (payload : String) : Except AnyError String :=
  if payload.utf8ByteSize > 1024 then .error (raise "Wi-Fi QR payload is too large")
  else do
    let _ ← (parseWifiQr payload).mapError AnyError.ofDomain
    draw payload

-- The form of a network name that is shown (`String::from_utf8_lossy`).
variable (displaySsid : SsidBytes → String)

/-- `WifiSharePayload::shareable`. -/
def shareablePayload (profile : SavedWifiConnection) (authType : String)
    (password : Option String) (hidden : Bool) : WifiSharePayload :=
  let ssid := displaySsid profile.ssidBytes
  let payload := wifiQrPayload authType ssid password hidden
  let svg := (renderShare raise draw payload).toOption
  { status := "ok"
    shareable := svg.isSome
    reason := if svg.isNone then some "QR image could not be generated" else none
    path := profile.path
    id := profile.id
    ssid
    authType := some authType
    qrPayload := svg.map fun _ => payload
    password := svg.bind fun _ => password
    qrSvg := svg
    version := none }

def unshareablePayload (profile : SavedWifiConnection) (reason : String) : WifiSharePayload where
  status := "unavailable"
  shareable := false
  reason := some reason
  path := profile.path
  id := profile.id
  ssid := displaySsid profile.ssidBytes
  authType := none
  qrPayload := none
  qrSvg := none
  password := none
  version := none

def hiddenFromSettings (settings : ConnectionSettings) : Bool :=
  ((settings.lookup "802-11-wireless").bind fun wireless =>
    setting asBool wireless "hidden").getD false

def secretString (settings : ConnectionSettings) (secrets : Option ConnectionSettings)
    (key : String) : Option String :=
  settingSecretString settings secrets "802-11-wireless-security" key

variable (profile : SavedWifiConnection) (settings : ConnectionSettings)
  (secrets : Option ConnectionSettings)

def secretPayload (authType secretKey : String) (hidden : Bool) : WifiSharePayload :=
  match secretString settings secrets secretKey with
  | none => unshareablePayload displaySsid profile
      ("saved " ++ authType ++ " password is not readable from NetworkManager")
  | some password => shareablePayload raise draw displaySsid profile authType (some password) hidden

/-- What is shared depends on how the network is secured. -/
def sharePayloadForKeyMgmt (hidden : Bool) (security : Option Values) (keyMgmt : String) :
    WifiSharePayload :=
  if keyMgmt = "wpa-psk" ∨ keyMgmt = "sae" then
    secretPayload raise draw displaySsid profile settings secrets "WPA" "psk" hidden
  else if keyMgmt = "none" ∨ keyMgmt = "" then
    if hasWepSettings settings secrets then
      secretPayload raise draw displaySsid profile settings secrets "WEP" (wepSecretKey security) hidden
    else shareablePayload raise draw displaySsid profile "nopass" none hidden
  else if keyMgmt = "owe" then shareablePayload raise draw displaySsid profile "nopass" none hidden
  else if isPartOf "eap" keyMgmt then
    unshareablePayload displaySsid profile "enterprise Wi-Fi QR sharing is not supported"
  else unshareablePayload displaySsid profile ("unsupported Wi-Fi security type: " ++ keyMgmt)

def wifiSharePayloadForSettings : WifiSharePayload :=
  let hidden := hiddenFromSettings settings
  let security := settings.lookup "802-11-wireless-security"
  let keyMgmt := (security.bind fun section' => settingText section' "key-mgmt").getD ""
  if security.isNone || (keyMgmt = "" && !hasWepSettings settings secrets) then
    shareablePayload raise draw displaySsid profile "nopass" none hidden
  else sharePayloadForKeyMgmt raise draw displaySsid profile settings secrets hidden security keyMgmt

end

section

variable (raise : String → AnyError) (draw : String → Except AnyError String)
  (displaySsid : SsidBytes → String)

/-- The request, from the replies to its three reads: the settings, the secrets (which need not
be readable) and the settings again, so that a change in between is noticed. -/
def wifiSharePayloadByPath (debug : Value → String) (path : String)
    (settings secrets again : Except AnyError ConnectionSettings) :
    Except AnyError WifiSharePayload := do
  let settings ← settings
  let profile ← (savedWifiConnectionFromSettings path settings).elim
    (.error (AnyError.ofDomain ((DomainError.notFound .profileOperation
      ("connection is not a saved Wi-Fi profile: " ++ path)).withDetail "path" (.str path)))) .ok
  let payload :=
    wifiSharePayloadForSettings raise draw displaySsid profile settings secrets.toOption
  let version := profileVersion debug settings
  let again ← again
  if profileVersion debug again ≠ version then
    .error (raise "Wi-Fi profile changed while preparing sharing; request it again")
  else return { payload with version := some version }

end

/-! ## What a code should say -/

/-- The secret that the profile is activated with, of those that can be read: the key of a
personal network, or the WEP key of the slot in use. Other networks have none that a code
could carry. -/
def secretInUse (settings : ConnectionSettings) (secrets : Option ConnectionSettings) :
    Option String :=
  match settings.lookup "802-11-wireless-security" with
  | none => none
  | some security =>
    match wifiSecretKind security none with
    | .personal => secretString settings secrets "psk"
    | .wep => secretString settings secrets (wepSecretKey (some security))
    | _ => none

/-- The bytes of the name of the network. -/
def savedSsid (settings : ConnectionSettings) : SsidBytes :=
  ((settings.lookup "802-11-wireless").bind fun wireless =>
    setting settingBytes wireless "ssid").getD []

/-- The daemon's own reader takes the text of the payload, and finds in it the network of the
profile: the bytes of its name, whether it is hidden, and its secret. -/
def Usable (settings : ConnectionSettings) (secrets : Option ConnectionSettings)
    (payload : WifiSharePayload) : Prop :=
  ∃ text parsed, payload.qrPayload = some text ∧ parseWifiQr text = .ok parsed ∧
    parsed.ssidBytes = savedSsid settings ∧ parsed.hidden = hiddenFromSettings settings ∧
    parsed.password = secretInUse settings secrets

/-! ## What a shareable payload is made of -/

section

variable {raise : String → AnyError} {draw : String → Except AnyError String}
  {displaySsid : SsidBytes → String} {profile : SavedWifiConnection}
  {settings : ConnectionSettings} {secrets : Option ConnectionSettings}

/-- An empty text is no secret. -/
theorem filter_secretString (key : String) :
    (secretString settings secrets key).filter (fun value => value ≠ "") =
      secretString settings secrets key := by
  unfold secretString settingSecretString filled
  rw [Option.filter_filter]
  simp only [Bool.and_self]

theorem filter_secretInUse :
    (secretInUse settings secrets).filter (fun value => value ≠ "") =
      secretInUse settings secrets := by
  unfold secretInUse
  split
  · rfl
  · split
    · exact filter_secretString _
    · exact filter_secretString _
    · rfl

/-- A text is drawn only if it can be read. -/
theorem parse_of_renderShare {payload svg : String} (h : renderShare raise draw payload = .ok svg) :
    ∃ parsed, parseWifiQr payload = .ok parsed := by
  unfold renderShare at h
  split_ifs at h
  obtain ⟨parsed, hparsed, -⟩ := bind_eq_ok.mp h
  exact ⟨parsed, mapError_eq_ok hparsed⟩

/-- No WEP key can be read from settings that have nothing of WEP. -/
theorem secretString_wep_eq_none (h : hasWepSettings settings secrets = false)
    (security : Option Values) : secretString settings secrets (wepSecretKey security) = none := by
  simp only [hasWepSettings, Bool.or_eq_false_iff, List.any_eq_false] at h
  have hkey := h.1.1.1.1.1 (wepSecretKey security) (wepKeyAt_mem _)
  simp only [Bool.or_eq_true, not_or, Bool.not_eq_true, Option.isSome_eq_false_iff] at hkey
  exact Option.isNone_iff_eq_none.mp hkey.1

/-- Which secret is in use, by the text of the key management alone. -/
theorem secretInUse_eq {security : Values}
    (h : settings.lookup "802-11-wireless-security" = some security) :
    secretInUse settings secrets =
      if (settingText security "key-mgmt").getD "" = "wpa-psk" ∨
          (settingText security "key-mgmt").getD "" = "sae" then
        secretString settings secrets "psk"
      else if (settingText security "key-mgmt").getD "" = "none" ∨
          (settingText security "key-mgmt").getD "" = "" then
        secretString settings secrets (wepSecretKey (some security))
      else none := by
  unfold secretInUse wifiSecretKind
  rw [h]
  dsimp only
  generalize (settingText security "key-mgmt").getD "" = keyMgmt
  unfold secretKind
  by_cases hpersonal : keyMgmt = "wpa-psk" ∨ keyMgmt = "sae"
  · rw [if_pos hpersonal, if_pos hpersonal, if_neg (by rcases hpersonal with rfl | rfl <;> decide)]
  · rw [if_neg hpersonal, if_neg hpersonal]
    by_cases hwep : keyMgmt = "none" ∨ keyMgmt = ""
    · have howe : keyMgmt ≠ "owe" := by rcases hwep with rfl | rfl <;> decide
      have hleap : keyMgmt ≠ "ieee8021x" := by rcases hwep with rfl | rfl <;> decide
      have heap : ¬isPartOf "eap" keyMgmt := by rcases hwep with rfl | rfl <;> decide
      rw [if_neg howe, if_neg fun h => hleap h.1, if_neg heap, if_pos hwep, if_pos hwep]
    · rw [if_neg hwep, if_neg hwep]
      split_ifs <;> rfl

/-- A payload with a secret, if it is shareable, has that secret. -/
theorem secretPayload_shareable {authType key : String} {hidden : Bool}
    (h : (secretPayload raise draw displaySsid profile settings secrets authType key
      hidden).shareable = true) :
    secretPayload raise draw displaySsid profile settings secrets authType key hidden =
      shareablePayload raise draw displaySsid profile authType
        (secretString settings secrets key) hidden := by
  unfold secretPayload at h ⊢
  cases hsecret : secretString settings secrets key with
  | none =>
    rw [hsecret] at h
    cases h
  | some password => rfl

theorem keyMgmt_cases {hidden : Bool} {security : Option Values} {keyMgmt : String}
    (h : (sharePayloadForKeyMgmt raise draw displaySsid profile settings secrets hidden security
      keyMgmt).shareable = true) :
    ∃ token auth, Emitted token auth ∧
      sharePayloadForKeyMgmt raise draw displaySsid profile settings secrets hidden security
          keyMgmt =
        shareablePayload raise draw displaySsid profile token
          (if keyMgmt = "wpa-psk" ∨ keyMgmt = "sae" then secretString settings secrets "psk"
          else if keyMgmt = "none" ∨ keyMgmt = "" then
            secretString settings secrets (wepSecretKey security)
          else none) hidden := by
  unfold sharePayloadForKeyMgmt at h ⊢
  by_cases hpersonal : keyMgmt = "wpa-psk" ∨ keyMgmt = "sae"
  · rw [if_pos hpersonal] at h
    rw [if_pos hpersonal, if_pos hpersonal]
    exact ⟨"WPA", .wpa, .personal, secretPayload_shareable h⟩
  rw [if_neg hpersonal] at h
  rw [if_neg hpersonal, if_neg hpersonal]
  by_cases hnone : keyMgmt = "none" ∨ keyMgmt = ""
  · rw [if_pos hnone] at h
    rw [if_pos hnone, if_pos hnone]
    by_cases hwep : hasWepSettings settings secrets = true
    · rw [if_pos hwep] at h
      rw [if_pos hwep]
      exact ⟨"WEP", .wep, .wep, secretPayload_shareable h⟩
    · rw [if_neg hwep, secretString_wep_eq_none (by simpa using hwep)]
      exact ⟨"nopass", .opened, .passwordless, rfl⟩
  rw [if_neg hnone] at h
  rw [if_neg hnone, if_neg hnone]
  by_cases howe : keyMgmt = "owe"
  · rw [if_pos howe]
    exact ⟨"nopass", .opened, .passwordless, rfl⟩
  · -- neither an enterprise network nor an unknown one is shareable
    rw [if_neg howe] at h
    split_ifs at h <;> cases h

/-- What is shareable is made of the secret in use and the hidden flag, under one of the
tokens that the reader knows. -/
theorem payload_cases
    (h : (wifiSharePayloadForSettings raise draw displaySsid profile settings secrets).shareable =
      true) :
    ∃ token auth, Emitted token auth ∧
      wifiSharePayloadForSettings raise draw displaySsid profile settings secrets =
        shareablePayload raise draw displaySsid profile token (secretInUse settings secrets)
          (hiddenFromSettings settings) := by
  unfold wifiSharePayloadForSettings at h ⊢
  dsimp only at h ⊢
  cases hsecurity : settings.lookup "802-11-wireless-security" with
  | none =>
    refine ⟨"nopass", .opened, .passwordless, ?_⟩
    unfold secretInUse
    rw [hsecurity]
    rfl
  | some security =>
    rw [hsecurity] at h
    rw [secretInUse_eq hsecurity]
    simp only [Option.isNone_some, Bool.false_or, Option.bind_some] at h ⊢
    by_cases hopen : ((settingText security "key-mgmt").getD "" = "" &&
        !hasWepSettings settings secrets) = true
    · obtain ⟨hempty, hwep⟩ := Bool.and_eq_true_iff.mp hopen
      have hempty := of_decide_eq_true hempty
      refine ⟨"nopass", .opened, .passwordless, ?_⟩
      rw [if_pos hopen, if_neg (by simp [hempty]), if_pos (.inr hempty),
        secretString_wep_eq_none (by simpa using hwep)]
    · rw [if_neg hopen] at h ⊢
      exact keyMgmt_cases h

/-- The text of a shareable payload reads back as what it was made of. -/
theorem shareable_reads
    (h : (wifiSharePayloadForSettings raise draw displaySsid profile settings secrets).shareable =
      true) :
    ∃ text parsed,
      (wifiSharePayloadForSettings raise draw displaySsid profile settings secrets).qrPayload =
        some text ∧ parseWifiQr text = .ok parsed ∧
      parsed.ssidBytes = (displaySsid profile.ssidBytes).toUTF8.data.toList ∧
      parsed.hidden = hiddenFromSettings settings ∧
      parsed.password = secretInUse settings secrets := by
  obtain ⟨token, auth, htoken, heq⟩ := payload_cases h
  rw [heq] at h ⊢
  unfold shareablePayload at h ⊢
  dsimp only at h ⊢
  generalize htext : wifiQrPayload token (displaySsid profile.ssidBytes)
    (secretInUse settings secrets) (hiddenFromSettings settings) = text at h ⊢
  obtain ⟨svg, hsvg⟩ := Option.isSome_iff_exists.mp h
  have hdrawn : renderShare raise draw text = .ok svg := by
    cases hrender : renderShare raise draw text with
    | error e =>
      rw [hrender] at hsvg
      cases hsvg
    | ok drawn =>
      rw [hrender] at hsvg
      exact congrArg _ (Option.some.inj hsvg)
  obtain ⟨parsed, hparsed⟩ := parse_of_renderShare hdrawn
  refine ⟨text, parsed, by rw [hsvg, Option.map_some], hparsed, ?_⟩
  rw [← htext, parse_payload htoken.plain] at hparsed
  obtain ⟨ssid, hssid, hparsed⟩ := bind_eq_ok.mp hparsed
  obtain ⟨_, -, hparsed⟩ := bind_eq_ok.mp hparsed
  obtain ⟨auth', -, hparsed⟩ := bind_eq_ok.mp hparsed
  obtain ⟨_, -, hparsed⟩ := bind_eq_ok.mp hparsed
  obtain rfl := Except.ok.inj hparsed
  have hname : ssid = displaySsid profile.ssidBytes := by
    by_cases hempty : displaySsid profile.ssidBytes = ""
    · rw [Option.filter_some, if_neg (by simp [hempty])] at hssid
      cases hssid
    · rw [Option.filter_some, if_pos (by simp [hempty])] at hssid
      exact (Except.ok.inj hssid).symm
  subst hname
  exact ⟨rfl, rfl, filter_secretInUse⟩

theorem ssidBytes_profile {path : String}
    (h : savedWifiConnectionFromSettings path settings = some profile) :
    profile.ssidBytes = savedSsid settings := by
  obtain ⟨connection, -, h⟩ := Option.bind_eq_some_iff.mp h
  obtain ⟨wireless, hwireless, h⟩ := Option.bind_eq_some_iff.mp h
  split_ifs at h
  obtain rfl := Option.some.inj h
  rw [savedSsid, hwireless, Option.bind_some]

/-! ## Usable codes -/

/-- A saved profile that is offered as shareable has a usable code exactly when the bytes of
its network name are text. Otherwise the code is for a network with the replacement characters
of the shown name. -/
theorem shared_usable_iff
    (hdisplay : ∀ text : String, displaySsid text.toUTF8.data.toList = text)
    {debug : Value → String} {path : String}
    {secrets again : Except AnyError ConnectionSettings} {payload : WifiSharePayload}
    (h : wifiSharePayloadByPath raise draw displaySsid debug path (.ok settings) secrets again =
      .ok payload) (hshareable : payload.shareable = true) :
    Usable settings secrets.toOption payload ↔
      ByteArray.IsValidUTF8 ⟨(savedSsid settings).toArray⟩ := by
  obtain ⟨_, hsettings, h⟩ := bind_eq_ok.mp h
  obtain rfl := Except.ok.inj hsettings
  obtain ⟨profile, hprofile, h⟩ := bind_eq_ok.mp h
  have hprofile : savedWifiConnectionFromSettings path settings = some profile := by
    cases hsaved : savedWifiConnectionFromSettings path settings with
    | none =>
      rw [hsaved] at hprofile
      cases hprofile
    | some saved =>
      rw [hsaved] at hprofile
      exact congrArg _ (Except.ok.inj hprofile)
  obtain ⟨again, -, h⟩ := bind_eq_ok.mp h
  split_ifs at h
  obtain rfl := Except.ok.inj h
  obtain ⟨text, parsed, htext, hparsed, hssid, hhidden, hpassword⟩ := shareable_reads hshareable
  rw [ssidBytes_profile hprofile] at hssid
  constructor
  · rintro ⟨text', parsed', htext', hparsed', hssid', -, -⟩
    -- there is one text and one reading of it, and what is read is text
    obtain rfl := Option.some.inj (htext.symm.trans htext')
    obtain rfl := Except.ok.inj (hparsed.symm.trans hparsed')
    rw [← hssid', hssid]
    exact (displaySsid (savedSsid settings)).isValidUTF8
  · intro hvalid
    refine ⟨text, parsed, htext, hparsed, ?_, hhidden, hpassword⟩
    have hbytes : (String.ofByteArray _ hvalid).toUTF8.data.toList = savedSsid settings := rfl
    rw [hssid, ← hbytes, hdisplay]

end

/-! ## A name that is not text -/

/-- A request between whose reads nothing changes. -/
theorem byPath_unchanged {raise : String → AnyError} {draw : String → Except AnyError String}
    {displaySsid : SsidBytes → String} {debug : Value → String} {path : String}
    {settings : ConnectionSettings} {profile : SavedWifiConnection}
    (h : savedWifiConnectionFromSettings path settings = some profile)
    (secrets : Except AnyError ConnectionSettings) :
    wifiSharePayloadByPath raise draw displaySsid debug path (.ok settings) secrets
        (.ok settings) =
      .ok { wifiSharePayloadForSettings raise draw displaySsid profile settings
        secrets.toOption with version := some (profileVersion debug settings) } := by
  unfold wifiSharePayloadByPath
  rw [bind_eq_ok]
  refine ⟨settings, rfl, ?_⟩
  rw [h]
  exact if_neg (not_not_intro rfl)

/-- A display form: the text if the bytes are one, and else a replacement character. -/
def lossy (bytes : SsidBytes) : String := (String.fromUTF8? ⟨bytes.toArray⟩).getD "\uFFFD"

theorem lossy_text (text : String) : lossy text.toUTF8.data.toList = text := by
  have h : String.fromUTF8? text.toByteArray = some text := dif_pos text.isValidUTF8
  exact congrArg (fun text => Option.getD text "\uFFFD") h

/-- An open profile for a network with a name of these bytes. -/
def openProfile (ssid : SsidBytes) : ConnectionSettings :=
  (∅ : ConnectionSettings)
    |>.insert "connection" (AList.insert "id" (Value.str "Guest") ∅)
    |>.insert "802-11-wireless" (AList.insert "ssid" (.array "y" (ssid.map Value.byte)) ∅)

def untyped (message : String) : AnyError := ⟨[message], .inr (.unknown, .internal, [])⟩

/-- The request for it, by a daemon that can draw every code and finds no secrets. -/
def shareOpen (ssid : SsidBytes) : Except AnyError WifiSharePayload :=
  wifiSharePayloadByPath untyped .ok lossy (fun _ => "") "/1" (.ok (openProfile ssid)) (.ok ∅)
    (.ok (openProfile ssid))

theorem shared_usable_iff_guest : ∃ payload, shareOpen [71, 117, 101, 115, 116] = .ok payload ∧
    payload.shareable = true ∧
    Usable (openProfile [71, 117, 101, 115, 116]) (some ∅) payload := by
  have hsaved : savedWifiConnectionFromSettings "/1" (openProfile [71, 117, 101, 115, 116]) =
      some ⟨"/1", "Guest", [71, 117, 101, 115, 116], true⟩ := by decide
  have hshareable : (wifiSharePayloadForSettings untyped .ok lossy
      ⟨"/1", "Guest", [71, 117, 101, 115, 116], true⟩ (openProfile [71, 117, 101, 115, 116])
      (some ∅)).shareable = true := by decide
  refine ⟨_, byPath_unchanged hsaved _, hshareable, ?_⟩
  exact (shared_usable_iff lossy_text (byPath_unchanged hsaved _) hshareable).mpr (by decide)

/-- The name of one byte that begins no character: the code is offered, and is for a network
whose name is the replacement character. -/
theorem replaced_name_shared : ∃ payload, shareOpen [0xFF] = .ok payload ∧
    payload.shareable = true ∧ payload.qrPayload = some "WIFI:T:nopass;S:\uFFFD;;" ∧
    savedSsid (openProfile [0xFF]) = [0xFF] ∧ ¬Usable (openProfile [0xFF]) (some ∅) payload := by
  have hsaved : savedWifiConnectionFromSettings "/1" (openProfile [0xFF]) =
      some ⟨"/1", "Guest", [0xFF], true⟩ := by decide
  have hshareable : (wifiSharePayloadForSettings untyped .ok lossy
      ⟨"/1", "Guest", [0xFF], true⟩ (openProfile [0xFF]) (some ∅)).shareable = true := by decide
  have htext : (wifiSharePayloadForSettings untyped .ok lossy
      ⟨"/1", "Guest", [0xFF], true⟩ (openProfile [0xFF]) (some ∅)).qrPayload =
      some "WIFI:T:nopass;S:\uFFFD;;" := by decide
  have hparsed : parseWifiQr "WIFI:T:nopass;S:\uFFFD;;" =
      .ok (Qr.contents .opened "nopass" "\uFFFD" none false) := by rfl
  refine ⟨_, byPath_unchanged hsaved _, hshareable, htext, by decide, ?_⟩
  rintro ⟨text, parsed, htext', hparsed', hssid, -, -⟩
  obtain rfl := Option.some.inj (htext.symm.trans htext')
  obtain rfl := Except.ok.inj (hparsed.symm.trans hparsed')
  exact absurd hssid (by decide)

end Share

end NmDaemon
