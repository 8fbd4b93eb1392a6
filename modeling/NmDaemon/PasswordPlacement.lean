import NmDaemon.CredentialPreservation
import NmDaemon.WifiSettings

/-!
# Where a password goes

A password that comes with a request to connect is written into the saved profile before it is
activated. Where it is written is decided by the access point, the request or the profile's key
management; where the profile has its secret (`nm/settings/profile_secrets.rs`) is decided by the
profile that results, which has its old values wherever the request brings none. The secrets
NetworkManager has for the profile are merged back before it is written.

* `profileSecretSpec`, `primarySecret` — the secret a profile is activated with;
* `savedActivationChange` — what the request makes of the settings of the profile;
* `written_field` — what the update holds, field by field;
* `Reaches` — the condition under which the two places are the same, or the other is empty;
* `password_reaches_iff` — the profile has the password that was supplied exactly then.
-/

namespace NmDaemon

namespace WifiSettings

open ProfileSettings Fallible Profiles
open Credentials (field slot knownKeys Container mergeSecrets mergeSecrets_slot mergeSecrets_isSome
  mergeSecrets_sameExcept Address knownKeys_not_container)
open Wifi (ScannedAccessPoint classify personalKeyManagement enterpriseKeyMgmt)

/-! ## The secret of a profile -/

inductive WifiSecretKind : Type where
  | absent
  | personal
  | leap
  | wep
  | enterprise

def accessPointSecretKind (ap : Option ScannedAccessPoint) : WifiSecretKind :=
  match ap.map fun ap => Wifi.securityClass ap.flags ap.wpaFlags ap.rsnFlags with
  | some .personal => .personal
  | some .legacy => .wep
  | some .enterprise => .enterprise
  | _ => .absent

def isPartOf (part text : String) : Bool :=
  text.toList.tails.any fun rest => part.toList.isPrefixOf rest

/-- By the texts of the key management and the algorithm. -/
def secretKind (keyMgmt : String) (authAlg : Option String) (ap : Option ScannedAccessPoint) :
    WifiSecretKind :=
  if keyMgmt = "owe" then .absent
  else if keyMgmt = "wpa-psk" ∨ keyMgmt = "sae" then .personal
  else if keyMgmt = "ieee8021x" ∧ authAlg = some "leap" then .leap
  else if isPartOf "eap" keyMgmt then .enterprise
  else if keyMgmt = "none" ∨ keyMgmt = "" then .wep
  else accessPointSecretKind ap

def wifiSecretKind (security : Values) (ap : Option ScannedAccessPoint) : WifiSecretKind :=
  secretKind ((settingText security "key-mgmt").getD "") (settingText security "auth-alg") ap

def wepKeys : List String := ["wep-key0", "wep-key1", "wep-key2", "wep-key3"]

/-- The slot with an index. -/
def wepKeyAt (index : Option UInt32) : String :=
  wepKeys.getD (min (index.getD 0).toNat 3) "wep-key0"

/-- The slot in use. -/
def wepSecretKey (security : Option Values) : String :=
  wepKeyAt (security.bind fun section' => setting Value.asU32 section' "wep-tx-keyidx")

section

variable (settings : ConnectionSettings)

def settingSecretString (secrets : Option ConnectionSettings)
    (settingName key : String) : Option String :=
  filled (((secrets.bind (AList.lookup settingName)).bind fun section' =>
    settingText section' key).or ((settings.lookup settingName).bind fun section' =>
      settingText section' key))

def sectionHasKey (section' key : String) : Bool :=
  (field settings section' key).isSome

def hasWepSettings (secrets : Option ConnectionSettings) : Bool :=
  wepKeys.any (fun key =>
    (settingSecretString settings secrets "802-11-wireless-security" key).isSome ||
      sectionHasKey settings "802-11-wireless-security" (key ++ "-flags")) ||
  sectionHasKey settings "802-11-wireless-security" "wep-key-flags" ||
  sectionHasKey settings "802-11-wireless-security" "wep-key-type" ||
  sectionHasKey settings "802-11-wireless-security" "wep-tx-keyidx" ||
  sectionHasKey settings "802-11-wireless-security" "auth-alg" ||
  (field settings "802-11-wireless-security" "key-mgmt").bind Value.asStr = some "none"

structure ProfileSecretSpec : Type where
  kind : String
  settingName : Option String
  secretKeys : List String
  primarySecretKey : Option String

def profileSecretSpecFor (kind settingName : String) (secretKeys : List String)
    (primary : String) : ProfileSecretSpec :=
  ⟨kind, some settingName, secretKeys, some primary⟩

def enterpriseProfileSecretSpec : ProfileSecretSpec :=
  profileSecretSpecFor "enterprise" "802-1x" (knownKeys "802-1x") "password"

/-- A profile whose security section says nothing of a secret. -/
def remainingSecretSpec : ProfileSecretSpec :=
  if (settings.lookup "802-1x").isSome then enterpriseProfileSecretSpec
  else ⟨"none", none, [], none⟩

/-- Which secret a profile needs, and where it is kept. -/
def profileSecretSpec : ProfileSecretSpec :=
  let security := settings.lookup "802-11-wireless-security"
  match security.map fun security => wifiSecretKind security none with
  | some .personal => profileSecretSpecFor "password" "802-11-wireless-security" ["psk"] "psk"
  | some .leap => profileSecretSpecFor "enterprise" "802-11-wireless-security" ["leap-password"]
      "leap-password"
  | some .wep =>
    if hasWepSettings settings none then
      profileSecretSpecFor "wep-key" "802-11-wireless-security" wepKeys (wepSecretKey security)
    else remainingSecretSpec settings
  | some .enterprise => enterpriseProfileSecretSpec
  | some .absent | none => remainingSecretSpec settings

/-- The secret a profile is activated with. -/
def primarySecret : Option String := do
  let spec := profileSecretSpec settings
  let settingName ← spec.settingName
  let key ← spec.primarySecretKey
  settingSecretString settings none settingName key

/-! ## By fields -/

/-- The text of a field that is not empty. -/
def secretText (value : Option Value) : Option String := filled (value.bind valueText)

/-- What kind of secret a profile with a key management has. -/
def kindFor (keyMgmt : String) : WifiSecretKind :=
  secretKind keyMgmt ((field settings "802-11-wireless-security" "auth-alg").bind valueText) none

/-- Where it has its secret. -/
def slotFor (keyMgmt : String) : String × String :=
  match kindFor settings keyMgmt with
  | .personal => ("802-11-wireless-security", "psk")
  | .leap => ("802-11-wireless-security", "leap-password")
  | .wep =>
    if hasWepSettings settings none then ("802-11-wireless-security", wepKeyAt
      ((field settings "802-11-wireless-security" "wep-tx-keyidx").bind Value.asU32))
    else ("802-1x", "password")
  | .enterprise | .absent => ("802-1x", "password")

/-- The key management that a profile names. -/
def keyMgmtOf : String :=
  ((field settings "802-11-wireless-security" "key-mgmt").bind valueText).getD ""

def primarySlot : String × String :=
  slotFor settings (keyMgmtOf settings)

theorem settingSecretString_eq (settingName key : String) :
    settingSecretString settings none settingName key =
      secretText (field settings settingName key) := by
  rw [settingSecretString, secretText, field]
  cases settings.lookup settingName <;> rfl

theorem settingSecretString_remaining :
    (do
      let settingName ← (remainingSecretSpec settings).settingName
      let key ← (remainingSecretSpec settings).primarySecretKey
      settingSecretString settings none settingName key) =
      secretText (field settings "802-1x" "password") := by
  rw [remainingSecretSpec]
  split_ifs with h
  · exact settingSecretString_eq settings "802-1x" "password"
  · have hnone : settings.lookup "802-1x" = none :=
      Option.isNone_iff_eq_none.mp (Option.isSome_eq_false_iff.mp (Bool.eq_false_iff.mpr h))
    rw [field, hnone]
    rfl

/-- The secret is read from one place. -/
theorem primarySecret_eq : primarySecret settings =
    secretText (field settings (primarySlot settings).1 (primarySlot settings).2) := by
  rcases hsecurity : settings.lookup "802-11-wireless-security" with _ | security
  · -- a section that is missing is read as one for WEP without any settings for it
    have hfield : ∀ k, field settings "802-11-wireless-security" k = none := by
      intro k
      rw [field, hsecurity]
      rfl
    have hwep : hasWepSettings settings none = false := by
      simp [hasWepSettings, sectionHasKey, settingSecretString_eq, hfield, secretText, filled,
        wepKeys]
    have hslot : primarySlot settings = ("802-1x", "password") := by
      rw [primarySlot, keyMgmtOf, slotFor, kindFor, hfield, hfield, hwep]
      rfl
    rw [hslot, ← settingSecretString_remaining, primarySecret, profileSecretSpec, hsecurity]
    rfl
  · have hfield : ∀ k, field settings "802-11-wireless-security" k = security.lookup k := by
      intro k
      rw [field, hsecurity]
      rfl
    have hkind : wifiSecretKind security none = kindFor settings (keyMgmtOf settings) := by
      rw [keyMgmtOf, kindFor, hfield, hfield]
      rfl
    rw [primarySecret, primarySlot, slotFor, ← hkind, profileSecretSpec, hsecurity, Option.map_some]
    cases wifiSecretKind security none with
    | personal | leap | enterprise => exact settingSecretString_eq settings _ _
    | absent => exact settingSecretString_remaining settings
    | wep =>
      dsimp only
      split_ifs
      · rw [show wepSecretKey (some security) = wepKeyAt
          ((field settings "802-11-wireless-security" "wep-tx-keyidx").bind Value.asU32) by
            rw [hfield]; rfl]
        exact settingSecretString_eq settings _ _
      · exact settingSecretString_remaining settings

end

/-- The secret depends on the security section and the password of 802.1X only. -/
theorem primarySecret_congr {a b : ConnectionSettings}
    (hsecurity : ∀ k, field a "802-11-wireless-security" k = field b "802-11-wireless-security" k)
    (hpassword : field a "802-1x" "password" = field b "802-1x" "password") :
    primarySecret a = primarySecret b := by
  have hwep : hasWepSettings a none = hasWepSettings b none := by
    simp only [hasWepSettings, sectionHasKey, settingSecretString_eq, hsecurity]
  have hslot : primarySlot a = primarySlot b := by
    simp only [primarySlot, slotFor, kindFor, keyMgmtOf, hsecurity, hwep]
  rw [primarySecret_eq, primarySecret_eq, hslot, primarySlot, slotFor]
  cases kindFor b (keyMgmtOf b) with
  | personal | leap => exact congrArg secretText (hsecurity _)
  | enterprise | absent => exact congrArg secretText hpassword
  | wep =>
    dsimp only
    split_ifs
    · exact congrArg secretText (hsecurity _)
    · exact congrArg secretText hpassword

/-! ## What is written -/

/-- The change of an edit that brings the credentials of a request into a saved profile. -/
def savedActivationChange (target : Target) (password : Option String)
    (wepKeyType : Option WepKeyType) (user : Option String) (ap : Option ScannedAccessPoint)
    (settings : ConnectionSettings) : Except AnyError ConnectionSettings := do
  let settings ← applySavedActivationSettings target password wepKeyType settings ap
  applyTargetConnectionMetadata target user settings

/-- What a password is written as. -/
inductive Credential : Type where
  /-- not at all -/
  | untouched
  /-- the key management only -/
  | owe
  /-- the first WEP key -/
  | wep
  /-- the key of WPA or SAE -/
  | personal
  /-- the password of 802.1X -/
  | enterprise (keyMgmt : String)

/-- What it is written as for a key management that the request names. -/
def hintedCredential (keyMgmt : String) : Credential :=
  match keyMgmt with
  | "open" => .untouched
  | "owe" => .owe
  | "wep" => .wep
  | _ => .personal

/-- What a password is written as, by the request, the access point and the profile. -/
def credentialOf (target : Target) (wepKeyType : Option WepKeyType)
    (ap : Option ScannedAccessPoint) (settings : ConnectionSettings) : Credential :=
  match target.enterprise, ap with
  | some _, some ap => .enterprise (enterpriseKeyMgmt ap.wpaFlags ap.rsnFlags)
  | some _, none => .enterprise ((targetKeyMgmt target).getD "wpa-eap")
  | none, some ap =>
    match classify ap.flags ap.wpaFlags ap.rsnFlags with
    | .owe => .owe
    | .wep => .wep
    | .personal => .personal
    | _ => .untouched
  | none, none =>
    match target.keyMgmt with
    | some keyMgmt => hintedCredential (normalizedKeyMgmt keyMgmt)
    | none =>
      let saved := savedKeyMgmt settings
      if saved = "none" ∨ saved = "" then .wep
      else if saved ≠ "wpa-psk" ∧ saved ≠ "sae" ∧ wepKeyType.isSome then .wep
      else .personal

/-- The settings that are merged into the profile. -/
def Credential.Writes (password : String) : Credential → Option ConnectionSettings → Prop
  | untouched, written => written = none
  | owe, written => written = some oweWifiConnectionSettings
  | wep, written => ∃ keyType,
      written = some (securityConnectionSettings (wepValues password keyType))
  | personal, written => ∃ keyMgmt, (keyMgmt = "wpa-psk" ∨ keyMgmt = "sae") ∧
      written = some (securityConnectionSettings (wirelessSecuritySection keyMgmt password))
  | enterprise keyMgmt, written => ∃ dot1x,
      dot1x.lookup "password" = (filled (some password)).map Value.str ∧
      written = some (tableOf [("802-11-wireless-security", keyManagementSection keyMgmt),
        ("802-1x", dot1x)])

section Sections

variable {target : Target} {password : String} {wepKeyType : Option WepKeyType}
  {ap : Option ScannedAccessPoint} {settings : ConnectionSettings}
  {credentials : Option ConnectionSettings}

/-- The section of 802.1X holds the password. -/
theorem lookup_enterprisePassword {enterprise : EnterpriseAuth} {password : Option String}
    {dot1x dot1x' dot1x'' : Values} (h : enterpriseDot1xSection enterprise password = .ok dot1x)
    (hcertificates : insertEnterpriseCertificateSettings dot1x enterprise = .ok dot1x')
    (hflags : insertEnterpriseFlagSettings dot1x' enterprise = .ok dot1x'') :
    dot1x''.lookup "password" =
      (filled (enterprise.password.or password)).map Value.str := by
  have hsection : dot1x.lookup "password" =
      (filled (enterprise.password.or password)).map Value.str := by
    obtain ⟨_, -, h⟩ := bind_eq_ok.mp h
    obtain ⟨identified, hidentity, h⟩ := bind_eq_ok.mp h
    obtain rfl := Except.ok.inj h
    have hnone : identified.lookup "password" = none := by
      unfold insertRequiredString at hidentity
      split at hidentity
      · obtain rfl := Except.ok.inj hidentity
        rw [AList.lookup_insert_ne (by decide)]
        rfl
      · cases hidentity
    rw [lookup_insertOptionalStrings _ (by simp), hnone, Option.or_none]
    rfl
  have hcertified : dot1x'.lookup "password" = dot1x.lookup "password" := by
    obtain ⟨certified, hfold, h⟩ := bind_eq_ok.mp hcertificates
    obtain rfl := Except.ok.inj h
    have hcert : certified.lookup "password" = dot1x.lookup "password" := by
      refine foldlM_invariant (P := fun values => values.lookup "password" =
        dot1x.lookup "password") ?_ ?_ hfold
      · intro values e values' he hvalues hstep
        have hne : "password" ≠ e.1 := by
          simp only [enterpriseCertificates, List.mem_cons, List.not_mem_nil, or_false] at he
          rcases he with rfl | rfl | rfl <;> simp
        have hstep := mapError_eq_ok hstep
        unfold setCertificateReference at hstep
        split at hstep
        · obtain rfl := Except.ok.inj hstep
          exact hvalues
        · split_ifs at hstep
          · obtain rfl := Except.ok.inj hstep
            rw [AList.lookup_erase_ne hne, hvalues]
          · obtain rfl := Except.ok.inj hstep
            rw [AList.lookup_insert_ne hne, hvalues]
      · split_ifs
        · rfl
        · rw [AList.lookup_insert_ne (by decide)]
    rw [insertOptionalValue_eq, Patch.lookup_apply, Patch.last_optional, if_neg (by decide),
      Option.getD_none, lookup_insertOptionalStrings _ (by simp), hcert]
    rfl
  have hflagged : dot1x''.lookup "password" = dot1x'.lookup "password" := by
    refine foldlM_invariant (P := fun values => values.lookup "password" =
      dot1x'.lookup "password") ?_ rfl hflags
    intro values e values' he hvalues hstep
    have hne : "password" ≠ e.1 ++ "-flags" := by
      simp only [List.mem_cons, List.not_mem_nil, or_false] at he
      rcases he with rfl | rfl | rfl <;> simp
    unfold insertSecretFlags at hstep
    split at hstep
    · split_ifs at hstep
      obtain rfl := Except.ok.inj hstep
      rw [AList.lookup_insert_ne hne, hvalues]
    · obtain rfl := Except.ok.inj hstep
      split_ifs
      · rw [AList.lookup_insert_ne hne, hvalues]
      · exact hvalues
  rw [hflagged, hcertified, hsection]

variable {keyMgmt : String}

theorem writes_enterprise {enterprise : EnterpriseAuth} (hown : enterprise.password = none)
    (h : (enterpriseWifiConnectionSettingsWithKeyMgmt enterprise (some password) keyMgmt).map some =
      .ok credentials) : (Credential.enterprise keyMgmt).Writes password credentials := by
  obtain ⟨built, hbuilt, rfl⟩ := map_eq_ok.mp h
  obtain ⟨dot1x, hdot1x, hbuilt⟩ := bind_eq_ok.mp hbuilt
  obtain ⟨dot1x', hcertificates, hbuilt⟩ := bind_eq_ok.mp hbuilt
  obtain ⟨dot1x'', hflags, hbuilt⟩ := bind_eq_ok.mp hbuilt
  obtain rfl := Except.ok.inj hbuilt
  have hpassword := lookup_enterprisePassword hdot1x hcertificates hflags
  rw [hown, Option.none_or] at hpassword
  exact ⟨dot1x'', hpassword, rfl⟩

theorem writes_wep {keyType : WepKeyType}
    (h : (wepWifiConnectionSettings password keyType).map some = .ok credentials) :
    Credential.wep.Writes password credentials := by
  obtain ⟨built, hbuilt, rfl⟩ := map_eq_ok.mp h
  obtain ⟨security, hsecurity, rfl⟩ := map_eq_ok.mp hbuilt
  obtain ⟨_, -, hsecurity⟩ := bind_eq_ok.mp hsecurity
  obtain rfl := Except.ok.inj hsecurity
  exact ⟨keyType, rfl⟩

/-- The key of WPA or SAE, after it was checked. -/
theorem writes_personal {check : Except AnyError Unit}
    (hkey : keyMgmt = "wpa-psk" ∨ keyMgmt = "sae") (h : (do
      check
      pure (some (securityConnectionSettings (wirelessSecuritySection keyMgmt password)))) =
        .ok credentials) : Credential.personal.Writes password credentials := by
  obtain ⟨_, -, h⟩ := bind_eq_ok.mp h
  obtain rfl := Except.ok.inj h
  exact ⟨keyMgmt, hkey, rfl⟩

theorem personalKeyManagement_cases (wpaFlags rsnFlags : UInt32) :
    personalKeyManagement wpaFlags rsnFlags = "wpa-psk" ∨
      personalKeyManagement wpaFlags rsnFlags = "sae" := by
  unfold personalKeyManagement
  split_ifs
  · exact .inr rfl
  · exact .inl rfl

theorem writes_psk {ap : ScannedAccessPoint}
    (h : (pskWifiConnectionSettings ap password).map some = .ok credentials) :
    Credential.personal.Writes password credentials := by
  obtain ⟨built, hbuilt, rfl⟩ := map_eq_ok.mp h
  refine ⟨personalKeyManagement ap.wpaFlags ap.rsnFlags, personalKeyManagement_cases _ _, ?_⟩
  unfold pskWifiConnectionSettings at hbuilt
  dsimp only at hbuilt
  split_ifs at hbuilt
  · obtain ⟨_, -, hbuilt⟩ := bind_eq_ok.mp hbuilt
    rw [Except.ok.inj hbuilt]
  · rw [Except.ok.inj hbuilt]

/-- Some names of the key management are replaced by others. -/
theorem normalizedKeyMgmt_ne (value : String) : normalizedKeyMgmt value ≠ "none" ∧
    normalizedKeyMgmt value ≠ "" ∧ normalizedKeyMgmt value ≠ "--" := by
  unfold normalizedKeyMgmt
  split <;> simp_all

theorem writes_hinted (hnone : keyMgmt ≠ "none") (hdashes : keyMgmt ≠ "--")
    (h : hintedSettings (some password) wepKeyType keyMgmt = .ok credentials) :
    (hintedCredential keyMgmt).Writes password credentials := by
  unfold hintedSettings at h
  split at h
  · exact (Except.ok.inj h).symm
  · exact absurd rfl hnone
  · exact absurd rfl hdashes
  · exact (Except.ok.inj h).symm
  · exact writes_wep h
  · exact writes_personal (.inr rfl) h
  · exact writes_personal (.inl rfl) h
  · cases h
  · cases h
  · cases h

/-- What is merged into the profile is what the password is written as. -/
theorem writes_of_credentialSettings (hown : target.enterprise.bind EnterpriseAuth.password = none)
    (h : credentialSettings target (some password) wepKeyType settings ap = .ok credentials) :
    (credentialOf target wepKeyType ap settings).Writes password credentials := by
  unfold credentialOf
  rcases henterprise : target.enterprise with _ | enterprise
  · cases ap with
    | some ap =>
      unfold credentialSettings securitySettingsForVisibleAp at h
      rw [henterprise] at h
      dsimp only at h ⊢
      cases hclass : classify ap.flags ap.wpaFlags ap.rsnFlags with
      | owe =>
        rw [hclass] at h
        exact (Except.ok.inj h).symm
      | wep =>
        rw [hclass] at h
        exact writes_wep h
      | personal =>
        rw [hclass] at h
        exact writes_psk h
      | opened | enterprise | unsupported =>
        rw [hclass] at h
        exact (Except.ok.inj h).symm
    | none =>
      rw [credentialSettings, securitySettingsForSavedProfile, henterprise] at h
      dsimp only at h ⊢
      rcases hkey : target.keyMgmt with _ | keyMgmt
      · -- the key management of the profile decides
        rw [hkey, Option.isSome_none, Option.isSome_none, Bool.or_self,
          if_neg Bool.false_ne_true] at h
        dsimp only at h ⊢
        by_cases hpersonal : savedKeyMgmt settings = "wpa-psk" ∨ savedKeyMgmt settings = "sae"
        · rw [if_pos hpersonal] at h
          rw [if_neg (by rcases hpersonal with h | h <;> rw [h] <;> decide),
            if_neg (by rcases hpersonal with h | h <;> simp [h])]
          exact writes_personal hpersonal h
        rw [if_neg hpersonal] at h
        by_cases hwep : savedKeyMgmt settings = "none" ∨ savedKeyMgmt settings = ""
        · rw [if_pos hwep] at h
          rw [if_pos hwep]
          exact writes_wep h
        rw [if_neg hwep, securitySettingsForTargetHint, henterprise, targetKeyMgmt, hkey,
          henterprise, Option.none_or, Option.bind_none, Option.map_none] at h
        rw [if_neg hwep]
        dsimp only [securitySettingsWithoutHint] at h
        cases wepKeyType with
        | some keyType =>
          rw [if_pos ⟨fun h => hpersonal (.inl h), fun h => hpersonal (.inr h), rfl⟩]
          exact writes_wep h
        | none =>
          rw [if_neg (by simp)]
          exact writes_personal (.inl rfl) h
      · rw [hkey, Option.isSome_none, Option.isSome_some, Bool.false_or, if_pos rfl,
          securitySettingsForTargetHint, henterprise, targetKeyMgmt, hkey, Option.some_or,
          Option.map_some] at h
        obtain ⟨hnone, -, hdashes⟩ := normalizedKeyMgmt_ne keyMgmt
        exact writes_hinted hnone hdashes h
  · rw [henterprise, Option.bind_some] at hown
    cases ap with
    | some ap =>
      unfold credentialSettings securitySettingsForVisibleAp at h
      rw [henterprise] at h
      exact writes_enterprise hown h
    | none =>
      rw [credentialSettings, securitySettingsForSavedProfile, henterprise, Option.isSome_some,
        Bool.true_or, if_pos rfl, securitySettingsForTargetHint, henterprise] at h
      exact writes_enterprise hown h

end Sections

/-! ## What the update holds -/

/-- What NetworkManager returned last for a field. -/
def latest (replies : Replies) (s k : String) : Option Value :=
  replies.foldr (fun reply later => later.or (field reply.2 s k)) none

/-- Settings with the secrets that are missing in them. -/
def fillSecrets (settings secrets : ConnectionSettings) : ConnectionSettings :=
  settings.filterMap fun section' values =>
    some (values ∪ ((secrets.lookup section').getD ∅).filterMap fun key value =>
      if key ∈ knownKeys section' then some value else none)

/-- A saved profile, with the secrets NetworkManager returned for it. -/
def withSecrets (settings : ConnectionSettings) (replies : Replies) : ConnectionSettings :=
  replies.foldr (fun reply settings => fillSecrets settings reply.2) settings

theorem lookup_fillSecrets_isSome (settings secrets : ConnectionSettings) (s : String) :
    ((fillSecrets settings secrets).lookup s).isSome = (settings.lookup s).isSome := by
  rw [fillSecrets, Table.lookup_filterMap]
  cases settings.lookup s <;> rfl

theorem field_fillSecrets (settings secrets : ConnectionSettings) (s k : String) :
    field (fillSecrets settings secrets) s k =
      if k ∈ knownKeys s ∧ (settings.lookup s).isSome then
        (field settings s k).or (field secrets s k)
      else field settings s k := by
  rw [field, fillSecrets, Table.lookup_filterMap]
  rcases hsection : settings.lookup s with _ | values
  · rw [if_neg (by simp), field, hsection]
    rfl
  · have hfield : field settings s k = values.lookup k := by
      rw [field, hsection]
      rfl
    rw [Option.bind_some, Option.bind_some, Table.lookup_union, Table.lookup_filterMap,
      lookup_getD, hfield]
    by_cases hk : k ∈ knownKeys s
    · rw [if_pos ⟨hk, rfl⟩]
      simp [hk]
    · rw [if_neg fun h => hk h.1]
      simp [hk]

theorem lookup_withSecrets_isSome (settings : ConnectionSettings)
    (replies : Replies) (s : String) :
    ((withSecrets settings replies).lookup s).isSome = (settings.lookup s).isSome := by
  induction replies with
  | nil => rfl
  | cons reply replies ih => exact (lookup_fillSecrets_isSome _ _ _).trans ih

/-- The saved profile, field by field. -/
theorem field_withSecrets (settings : ConnectionSettings)
    (replies : Replies) (s k : String) :
    field (withSecrets settings replies) s k =
      if k ∈ knownKeys s ∧ (settings.lookup s).isSome then
        (field settings s k).or (latest replies s k)
      else field settings s k := by
  induction replies with
  | nil =>
    split_ifs
    · exact (Option.or_none).symm
    · rfl
  | cons reply replies ih =>
    change field (fillSecrets (withSecrets settings replies) reply.2) s k = _
    rw [field_fillSecrets, lookup_withSecrets_isSome, ih]
    by_cases h : k ∈ knownKeys s ∧ (settings.lookup s).isSome = true
    · rw [if_pos h, if_pos h, if_pos h, Option.or_assoc]
      rfl
    · rw [if_neg h, if_neg h, if_neg h]

theorem mergeReplies_field {replies : Replies} {s k : String}
    (hknown : k ∈ knownKeys s) : ∀ {settings preserved : ConnectionSettings},
      (settings.lookup s).isSome → mergeReplies settings replies = .ok preserved →
      field preserved s k = (latest replies s k).or (field settings s k) := by
  induction replies with
  | nil =>
    intro settings preserved _ h
    cases h
    rfl
  | cons reply replies ih =>
    intro settings preserved hsection h
    obtain ⟨merged, hmerged, hrest⟩ := foldlM_cons_eq_ok.mp h
    have hsupported : (Address.flat s k).Supported := hknown
    have hslot : field merged s k = (field reply.2 s k).or (field settings s k) :=
      mergeSecrets_slot hmerged hsupported hsection
    have hpreserved := ih (by rw [mergeSecrets_isSome hmerged]; exact hsection) hrest
    rw [hpreserved, hslot, ← Option.or_assoc]
    rfl

/-- An update is of the settings of the edit, with the secrets that are missing in them. -/
theorem written_field {edit : ProfileEdit} {replies : Replies}
    {written : ConnectionSettings} (h : Prepared edit replies written)
    (hremember : edit.explicitRemember = false) {s : String} (hs : ∀ k, ¬ Container s k)
    (k : String) : field written s k = field (withSecrets edit.settings replies) s k := by
  obtain ⟨collected, hcollected, hwritten⟩ := h
  rw [hremember, if_neg Bool.false_ne_true] at hwritten
  obtain rfl := Except.ok.inj hwritten
  rw [field_withSecrets]
  unfold Collected at hcollected
  split_ifs at hcollected with hsecrets
  · obtain ⟨-, preserved, hpreserved, hmerged⟩ := hcollected
    by_cases hknown : k ∈ knownKeys s
    · by_cases hsection : (edit.settings.lookup s).isSome = true
      · have hpresent : (preserved.lookup s).isSome = true := by
          rw [mergeReplies_isSome s hpreserved]
          exact hsection
        have hsupported : (Address.flat s k).Supported := hknown
        have hslot : field collected s k =
            (field edit.settings s k).or (field preserved s k) :=
          mergeSecrets_slot hmerged hsupported hpresent
        rw [if_pos ⟨hknown, hsection⟩, hslot, mergeReplies_field hknown hsection hpreserved]
        cases field edit.settings s k with
        | none => rw [Option.none_or, Option.none_or, Option.or_none]
        | some value => rfl
      · have hnone : edit.settings.lookup s = none :=
          Option.isNone_iff_eq_none.mp (Option.isSome_eq_false_iff.mp (Bool.eq_false_iff.mpr hsection))
        have hnone' : collected.lookup s = none := by
          refine Option.isNone_iff_eq_none.mp (Option.isSome_eq_false_iff.mp ?_)
          rw [mergeSecrets_isSome hmerged, mergeReplies_isSome s hpreserved]
          exact Bool.eq_false_iff.mpr hsection
        rw [if_neg fun h => hsection h.2, field, field, hnone, hnone']
    · rw [if_neg fun h => hknown h.1, (mergeSecrets_sameExcept hmerged).field_eq s k (hs k) hknown,
        (mergeReplies_sameExcept hpreserved).field_eq s k (hs k) hknown]
  · obtain ⟨rfl, rfl⟩ := hcollected
    split_ifs
    · exact (Option.or_none).symm
    · rfl

/-! ## Where the password is read -/

/-- What the saved profile holds: what is in its settings, or else what NetworkManager returned. -/
def held (settings : ConnectionSettings) (replies : Replies)
    (s k : String) : Option Value :=
  (field settings s k).or (latest replies s k)

/-- There is no other text than the password. -/
def Agrees (password : String) (value : Option Value) : Prop :=
  ∀ secret, secretText value = some secret → secret = password

/-- The password of 802.1X is written, and it is read, or there is no other text. -/
def ReachesEnterprise (settings : ConnectionSettings)
    (replies : Replies) (password keyMgmt : String) : Prop :=
  match kindFor settings keyMgmt with
  | .personal => Agrees password (held settings replies "802-11-wireless-security" "psk")
  | .leap => Agrees password (held settings replies "802-11-wireless-security" "leap-password")
  | _ => password = "" → Agrees password (held settings replies "802-1x" "password")

/-- The password is written where the profile has its secret, or there is no other text. -/
def Reaches (settings : ConnectionSettings) (replies : Replies)
    (target : Target) (ap : Option ScannedAccessPoint) (password : String)
    (wepKeyType : Option WepKeyType) : Prop :=
  match credentialOf target wepKeyType ap settings with
  | .untouched => ∀ secret, primarySecret (withSecrets settings replies) = some secret →
      secret = password
  | .owe => Agrees password (field (withSecrets settings replies) "802-1x" "password")
  | .wep =>
    let key := wepSecretKey (settings.lookup "802-11-wireless-security")
    key = "wep-key0" ∨ Agrees password (held settings replies "802-11-wireless-security" key)
  | .personal => True
  | .enterprise keyMgmt => ReachesEnterprise settings replies password keyMgmt

section Placement

variable {settings credentials : ConnectionSettings} {replies : Replies}
  {password : String} {s k : String}

theorem agrees_own (password : String) (other : Option Value) :
    Agrees password ((some (.str password)).or other) := by
  intro secret h
  have hfilled : (some password).filter (fun text => text ≠ "") = some secret := h
  exact (Option.some.inj (Option.filter_eq_some_iff.mp hfilled).1).symm

/-- A profile into which settings were merged, at a secret of a section of theirs. -/
theorem field_merged_secret (hknown : k ∈ knownKeys s)
    (hs : (credentials.lookup s).isSome) :
    field (withSecrets (mergeConnectionSettings settings credentials) replies) s k =
      (field credentials s k).or (held settings replies s k) := by
  have hsome : ((mergeConnectionSettings settings credentials).lookup s).isSome = true := by
    obtain ⟨values, hvalues⟩ := Option.isSome_iff_exists.mp hs
    rw [lookup_mergeConnectionSettings, hvalues]
    rfl
  rw [field_withSecrets, if_pos ⟨hknown, hsome⟩, field_mergeConnectionSettings, Option.or_assoc]
  rfl

/-- At a value that is no secret. -/
theorem field_merged_public (hk : k ∉ knownKeys s) :
    field (withSecrets (mergeConnectionSettings settings credentials) replies) s k =
      (field credentials s k).or (field settings s k) := by
  rw [field_withSecrets, if_neg fun h => hk h.1, field_mergeConnectionSettings]

/-- In another section. -/
theorem field_merged_other (hs : credentials.lookup s = none) :
    field (withSecrets (mergeConnectionSettings settings credentials) replies) s k =
      field (withSecrets settings replies) s k := by
  have hfield : field credentials s k = none := by
    rw [field, hs]
    rfl
  rw [field_withSecrets, field_withSecrets, lookup_mergeConnectionSettings, hs,
    field_mergeConnectionSettings, hfield, Option.none_or]

variable {keyMgmt : String}

/-- Where a profile has its secret, by the key management it names. -/
theorem primarySlot_of_key
    (h : field settings "802-11-wireless-security" "key-mgmt" = some (.str keyMgmt)) :
    primarySlot settings = slotFor settings keyMgmt := by
  rw [primarySlot, keyMgmtOf, h]
  rfl

theorem wepSecretKey_eq (settings : ConnectionSettings) :
    wepSecretKey (settings.lookup "802-11-wireless-security") = wepKeyAt
      ((field settings "802-11-wireless-security" "wep-tx-keyidx").bind Value.asU32) := by
  rw [wepSecretKey, field]
  cases settings.lookup "802-11-wireless-security" <;> rfl

theorem wepKeyAt_mem (index : Option UInt32) : wepKeyAt index ∈ wepKeys := by
  have hindex : min (index.getD 0).toNat 3 < wepKeys.length :=
    Nat.lt_of_le_of_lt (Nat.min_le_right _ 3) (by decide)
  rw [wepKeyAt, List.getD_eq_getElem?_getD, List.getElem?_eq_getElem hindex, Option.getD_some]
  exact List.getElem_mem hindex

theorem knownKeys_of_wepKey {key : String} (h : key ∈ wepKeys) :
    key ∈ knownKeys "802-11-wireless-security" := by
  simp only [wepKeys, List.mem_cons, List.not_mem_nil, or_false] at h
  rcases h with rfl | rfl | rfl | rfl <;> decide

/-- The first WEP key is written, the one in use is read. -/
theorem reaches_wep {keyType : WepKeyType} :
    let merged := withSecrets (mergeConnectionSettings settings
      (securityConnectionSettings (wepValues password keyType))) replies
    let key := wepSecretKey (settings.lookup "802-11-wireless-security")
    Agrees password (field merged (primarySlot merged).1 (primarySlot merged).2) ↔
      key = "wep-key0" ∨ Agrees password (held settings replies "802-11-wireless-security" key) := by
  intro merged key
  have hkey : field merged "802-11-wireless-security" "key-mgmt" = some (.str "none") :=
    field_merged_public (by decide)
  have hindex : field merged "802-11-wireless-security" "wep-tx-keyidx" =
      field settings "802-11-wireless-security" "wep-tx-keyidx" :=
    field_merged_public (by decide)
  have hwep : hasWepSettings merged none = true := by
    rw [hasWepSettings, hkey]
    simp [Value.asStr]
  have hkind : ∀ authAlg, secretKind "none" authAlg none = .wep := by
    intro authAlg
    simp [secretKind, isPartOf]
  have hslot : primarySlot merged = ("802-11-wireless-security", key) := by
    rw [primarySlot_of_key hkey, slotFor, kindFor, hkind, hindex, ← wepSecretKey_eq]
    exact if_pos hwep
  have hmem : key ∈ wepKeys := by
    rw [show key = _ from wepSecretKey_eq settings]
    exact wepKeyAt_mem _
  have hfield : field merged "802-11-wireless-security" key =
      ((wepValues password keyType).lookup key).or
        (held settings replies "802-11-wireless-security" key) :=
    field_merged_secret (knownKeys_of_wepKey hmem) rfl
  rw [hslot]
  change Agrees password (field merged "802-11-wireless-security" key) ↔ _
  rw [hfield]
  by_cases hfirst : key = "wep-key0"
  · rw [hfirst]
    exact ⟨fun _ => .inl rfl, fun _ => agrees_own password _⟩
  · have hother : (wepValues password keyType).lookup key = none := by
      simp only [wepKeys, List.mem_cons, List.not_mem_nil, or_false] at hmem
      rcases hmem with h | h | h | h
      · exact absurd h hfirst
      all_goals
        rw [h]
        rfl
    rw [hother, Option.none_or]
    exact ⟨.inr, fun h => h.resolve_left hfirst⟩

/-- The key of WPA or SAE is read where it is written. -/
theorem reaches_personal (hkeyMgmt : keyMgmt = "wpa-psk" ∨ keyMgmt = "sae") :
    let merged := withSecrets (mergeConnectionSettings settings
      (securityConnectionSettings (wirelessSecuritySection keyMgmt password))) replies
    Agrees password (field merged (primarySlot merged).1 (primarySlot merged).2) := by
  intro merged
  have hkey : field merged "802-11-wireless-security" "key-mgmt" = some (.str keyMgmt) :=
    field_merged_public (by decide)
  have hkind : ∀ authAlg, secretKind keyMgmt authAlg none = .personal := by
    intro authAlg
    rcases hkeyMgmt with rfl | rfl <;> rfl
  have hfield : field merged "802-11-wireless-security" "psk" = (some (.str password)).or
      (held settings replies "802-11-wireless-security" "psk") :=
    field_merged_secret (by decide) rfl
  rw [primarySlot_of_key hkey, slotFor, kindFor, hkind]
  change Agrees password (field merged "802-11-wireless-security" "psk")
  rw [hfield]
  exact agrees_own password _

/-- Nothing but the key management is written; a password of 802.1X stays. -/
theorem reaches_owe :
    let merged := withSecrets (mergeConnectionSettings settings oweWifiConnectionSettings) replies
    Agrees password (field merged (primarySlot merged).1 (primarySlot merged).2) ↔
      Agrees password (field (withSecrets settings replies) "802-1x" "password") := by
  intro merged
  have hkey : field merged "802-11-wireless-security" "key-mgmt" = some (.str "owe") :=
    field_merged_public (by decide)
  have hkind : ∀ authAlg, secretKind "owe" authAlg none = .absent := fun _ => rfl
  have hfield : field merged "802-1x" "password" =
      field (withSecrets settings replies) "802-1x" "password" := field_merged_other rfl
  rw [primarySlot_of_key hkey, slotFor, kindFor, hkind]
  change Agrees password (field merged "802-1x" "password") ↔ _
  rw [hfield]

theorem secretKind_ne_wep (hnone : keyMgmt ≠ "none") (hempty : keyMgmt ≠ "")
    (authAlg : Option String) : secretKind keyMgmt authAlg none ≠ .wep := by
  rw [secretKind, if_neg (not_or.mpr ⟨hnone, hempty⟩)]
  split_ifs <;> simp [accessPointSecretKind]

/-- The password of 802.1X is written; it is not read if the key management is another. -/
theorem reaches_enterprise {dot1x : Values} (hnone : keyMgmt ≠ "none") (hempty : keyMgmt ≠ "")
    (hdot1x : dot1x.lookup "password" = (filled (some password)).map Value.str) :
    let merged := withSecrets (mergeConnectionSettings settings
      (tableOf [("802-11-wireless-security", keyManagementSection keyMgmt), ("802-1x", dot1x)]))
      replies
    Agrees password (field merged (primarySlot merged).1 (primarySlot merged).2) ↔
      ReachesEnterprise settings replies password keyMgmt := by
  intro merged
  have hkey : field merged "802-11-wireless-security" "key-mgmt" = some (.str keyMgmt) :=
    field_merged_public (by decide)
  have hkinds : kindFor merged keyMgmt = kindFor settings keyMgmt := by
    rw [kindFor, kindFor, show field merged "802-11-wireless-security" "auth-alg" = _ from
      field_merged_public (by decide)]
    rfl
  have hpassword : field merged "802-1x" "password" =
      (dot1x.lookup "password").or (held settings replies "802-1x" "password") :=
    field_merged_secret (by decide) rfl
  have hdefault : Agrees password (field merged "802-1x" "password") ↔
      (password = "" → Agrees password (held settings replies "802-1x" "password")) := by
    rw [hpassword, hdot1x]
    by_cases hblank : password = ""
    · subst hblank
      exact ⟨fun h _ => h, fun h => h rfl⟩
    · rw [show filled (some password) = some password from if_pos (by simpa using hblank)]
      exact ⟨fun _ h => absurd h hblank, fun _ => agrees_own password _⟩
  rw [primarySlot_of_key hkey, slotFor, hkinds, ReachesEnterprise]
  cases hkind : kindFor settings keyMgmt with
  | personal =>
    change Agrees password (field merged "802-11-wireless-security" "psk") ↔ _
    rw [show field merged "802-11-wireless-security" "psk" =
      held settings replies "802-11-wireless-security" "psk" from
        field_merged_secret (by decide) rfl]
  | leap =>
    change Agrees password (field merged "802-11-wireless-security" "leap-password") ↔ _
    rw [show field merged "802-11-wireless-security" "leap-password" =
      held settings replies "802-11-wireless-security" "leap-password" from
        field_merged_secret (by decide) rfl]
  | wep => exact absurd hkind (secretKind_ne_wep hnone hempty _)
  | enterprise => exact hdefault
  | absent => exact hdefault

end Placement

/-- The key management of 802.1X is never one of those for WEP. -/
theorem credentialOf_enterprise {target : Target} {wepKeyType : Option WepKeyType}
    {ap : Option ScannedAccessPoint} {settings : ConnectionSettings} {keyMgmt : String}
    (h : credentialOf target wepKeyType ap settings = .enterprise keyMgmt) :
    keyMgmt ≠ "none" ∧ keyMgmt ≠ "" := by
  have hhinted : ∀ key, hintedCredential key ≠ .enterprise keyMgmt := by
    intro key
    unfold hintedCredential
    split <;> exact nofun
  unfold credentialOf at h
  split at h
  · cases h
    unfold enterpriseKeyMgmt
    split_ifs <;> decide
  · cases h
    cases hkey : targetKeyMgmt target with
    | none => decide
    | some key =>
      obtain ⟨value, -, rfl⟩ := Option.map_eq_some_iff.mp hkey
      exact ⟨(normalizedKeyMgmt_ne value).1, (normalizedKeyMgmt_ne value).2.1⟩
  · split at h <;> cases h
  · split at h
    · exact absurd h (hhinted _)
    · dsimp only at h
      split_ifs at h

/-- The sections with the credentials are those of the merge. -/
theorem savedActivationChange_lookup {target : Target} {password : Option String}
    {wepKeyType : Option WepKeyType} {user : Option String} {ap : Option ScannedAccessPoint}
    {settings changed : ConnectionSettings}
    (h : savedActivationChange target password wepKeyType user ap settings = .ok changed) :
    ∃ credentials, credentialSettings target password wepKeyType settings ap = .ok credentials ∧
      ∀ s, s ∉ profileSections → changed.lookup s = AList.lookup s
        (match credentials with
          | some credentials => mergeConnectionSettings settings credentials
          | none => settings) := by
  obtain ⟨applied, happlied, hmetadata⟩ := bind_eq_ok.mp h
  obtain ⟨credentials, hcredentials, hprofile⟩ := bind_eq_ok.mp happlied
  refine ⟨credentials, hcredentials, fun s hs => ?_⟩
  have hsection := (applyTargetConnectionMetadata_spec hmetadata).1 s fun h =>
    hs (h ▸ List.mem_cons_self)
  refine hsection.trans ((lookup_applyTargetProfileSettings hprofile hs).trans ?_)
  cases credentials <;> rfl

/-- **A supplied password ends up where the profile has its secret** exactly if it is written
there, or what is there is empty or the password already. Here `edit.original` are the settings of
the saved profile, `replies` the secrets NetworkManager returned for it, and `written` is the
profile that is activated. -/
theorem password_reaches_iff {target : Target} {ap : Option ScannedAccessPoint} {password : String}
    {wepKeyType : Option WepKeyType} {user : Option String} {edit : ProfileEdit}
    {replies : Replies} {written : ConnectionSettings}
    (hown : target.enterprise.bind EnterpriseAuth.password = none)
    (hchange : savedActivationChange target (some password) wepKeyType user ap edit.original =
      .ok edit.settings)
    (hremember : edit.explicitRemember = false) (hwritten : Prepared edit replies written) :
    (∀ secret, primarySecret written = some secret → secret = password) ↔
      Reaches edit.original replies target ap password wepKeyType := by
  obtain ⟨credentials, hcredentials, hlookup⟩ := savedActivationChange_lookup hchange
  have hwrites := writes_of_credentialSettings hown hcredentials
  -- the profile that is written has the secrets of the profile the credentials were merged into
  have hsame : ∀ base, (∀ s, s ∉ profileSections →
      edit.settings.lookup s = base.lookup s) →
      primarySecret written = primarySecret (withSecrets base replies) := by
    intro base hbase
    have hfields : ∀ s, s ∉ profileSections → (∀ k, ¬ Container s k) → ∀ k,
        field written s k = field (withSecrets base replies) s k := by
      intro s hs hcontainer k
      rw [written_field hwritten hremember hcontainer, field_withSecrets, field_withSecrets,
        field, hbase s hs, ← field]
    exact primarySecret_congr
      (hfields "802-11-wireless-security" (by decide) fun k => by simp [Container])
      (hfields "802-1x" (by decide) (fun k => by simp [Container]) "password")
  have hread : ∀ credentials, (∀ s, s ∉ profileSections → edit.settings.lookup s =
      (mergeConnectionSettings edit.original credentials).lookup s) →
      ((∀ secret, primarySecret written = some secret → secret = password) ↔
        let merged := withSecrets (mergeConnectionSettings edit.original credentials) replies
        Agrees password (field merged (primarySlot merged).1 (primarySlot merged).2)) := by
    intro credentials hcredentials
    rw [hsame _ hcredentials, primarySecret_eq]
    rfl
  unfold Reaches
  cases hcredential : credentialOf target wepKeyType ap edit.original with
  | untouched =>
    rw [hcredential] at hwrites
    obtain rfl : credentials = none := hwrites
    rw [hsame _ hlookup]
  | owe =>
    rw [hcredential] at hwrites
    obtain rfl : credentials = some oweWifiConnectionSettings := hwrites
    exact (hread _ hlookup).trans reaches_owe
  | wep =>
    rw [hcredential] at hwrites
    obtain ⟨keyType, rfl⟩ := hwrites
    exact (hread _ hlookup).trans reaches_wep
  | personal =>
    rw [hcredential] at hwrites
    obtain ⟨keyMgmt, hkeyMgmt, rfl⟩ := hwrites
    exact (hread _ hlookup).trans ⟨fun _ => trivial, fun _ => reaches_personal hkeyMgmt⟩
  | enterprise keyMgmt =>
    rw [hcredential] at hwrites
    obtain ⟨dot1x, hdot1x, rfl⟩ := hwrites
    obtain ⟨hnone, hempty⟩ := credentialOf_enterprise hcredential
    exact (hread _ hlookup).trans (reaches_enterprise hnone hempty hdot1x)

/-- A request without anything but the network. -/
def plainTarget (keyMgmt : Option String) : Target where
  ssid := .home
  connectionName := none
  isPrivate := false
  hidden := false
  keyMgmt
  enterprise := none
  profile := ⟨none, none, none, none, none, none, none, none⟩

def wepAccessPoint : ScannedAccessPoint := .home 0

/-- A saved network with WEP that uses the key with an index. -/
def wepProfile (index : UInt32) : ConnectionSettings :=
  tableOf [("connection", tableOf [("id", .str "home"), ("type", .str "802-11-wireless")]),
    ("802-11-wireless-security", tableOf [("key-mgmt", .str "none"), ("wep-tx-keyidx", .u32 index)])]

/-- The edit that brings a password into it. -/
def wepEdit (index : UInt32) (password : String) : ProfileEdit where
  original := wepProfile index
  settings := match savedActivationChange (plainTarget none) (some password) none none
      (some wepAccessPoint) (wepProfile index) with
    | .ok settings => settings
    | .error _ => ∅
  version := 1
  uuid := "6e1f"
  owner := ":1.5"
  explicitRemember := false

/-- The second key, as NetworkManager returns it. -/
def wepReplies : Replies :=
  [("802-11-wireless-security", tableOf [("802-11-wireless-security",
    tableOf [("wep-key1", .str "12345")])])]

def wepWritten (index : UInt32) (password : String) : ConnectionSettings :=
  match mergeReplies (wepEdit index password).settings wepReplies with
  | .ok preserved =>
    match Credentials.mergeSecrets preserved (wepEdit index password).settings with
    | .ok written => written
    | .error _ => ∅
  | .error _ => ∅

theorem wepWritten_prepared (index : UInt32) :
    Prepared (wepEdit index "abcde") wepReplies (wepWritten index "abcde") := by
  have hsecrets : (Credentials.hasSecrets (wepEdit index "abcde").settings ||
    (wepEdit index "abcde").explicitRemember) = true := rfl
  refine ⟨_, ?_, rfl⟩
  rw [Collected, if_pos hsecrets]
  exact ⟨rfl, _, rfl, rfl⟩

/-- The first key is the one in use. -/
theorem password_reaches_first_key :
    primarySecret (wepWritten 0 "abcde") = some "abcde" ∧
      ((∀ secret, primarySecret (wepWritten 0 "abcde") = some secret → secret = "abcde") ↔
        Reaches (wepProfile 0) wepReplies (plainTarget none) (some wepAccessPoint) "abcde" none) :=
  ⟨rfl, @password_reaches_iff (plainTarget none) (some wepAccessPoint) "abcde" none none
    (wepEdit 0 "abcde") wepReplies (wepWritten 0 "abcde") rfl rfl rfl (wepWritten_prepared 0)⟩

/-- The second key is the one in use: the password goes into the first one, and the profile is
activated with the old key. -/
theorem password_beside_key_in_use :
    ¬ ∀ (target : Target) (ap : Option ScannedAccessPoint) (password : String)
        (wepKeyType : Option WepKeyType) (user : Option String) (edit : ProfileEdit)
        (replies : Replies) (written : ConnectionSettings),
        target.enterprise.bind EnterpriseAuth.password = none →
        savedActivationChange target (some password) wepKeyType user ap edit.original =
          .ok edit.settings →
        edit.explicitRemember = false → Prepared edit replies written →
        ∀ secret, primarySecret written = some secret → secret = password := by
  intro h
  have heq := h (plainTarget none) (some wepAccessPoint) "abcde" none none (wepEdit 1 "abcde")
    wepReplies (wepWritten 1 "abcde") rfl rfl rfl (wepWritten_prepared 1) "12345" rfl
  exact absurd heq (by decide)

end WifiSettings

end NmDaemon
