import NmDaemon.WifiAddresses

/-!
# Where the two readers of radio restrictions agree

The details of a profile take the address of its access point as text, and the matcher
takes it as bytes. NetworkManager stores six bytes and the editor of the daemon stores
text, and neither is read by both. A band that the daemon does not know is no restriction
for the details, and one that nothing meets for the matcher.

* `filter_eq`, `matcher_eq` — both readers as a test of the address, of the band and of the
  channel;
* `readers_agree_iff` — the profiles on which they agree for every access point;
* `pinned_profile_retried_elsewhere` — a profile that is pinned to one access point, and
  a fallback to another.
-/

namespace NmDaemon

namespace Wifi

variable {path : String} {settings : ConnectionSettings} {details : WifiProfileDetails}
  {wireless : Values} {ap : AccessPoint} {target : WifiConnectTarget}

/-! ## What is stored -/

section

variable (wireless : Values)

/-- There is nothing that either reader takes for an address. -/
def storesNoAddress : Bool :=
  (filledText wireless "bssid").isNone && (setting settingBytes wireless "bssid").isNone

/-- There is no band, or one of those the daemon knows. -/
def storesKnownBand : Bool :=
  (filledText wireless "band").all fun band => ["bg", "a", "6GHz"].contains band

def storedBand : WifiBand :=
  ((filledText wireless "band").map WifiBand.fromNmValue).getD .auto

def storedChannel : ℕ := (settingU32 wireless "channel").getD 0

/-- A frequency is in the stored band. -/
def bandAllows (frequency : ℕ) : Bool :=
  storedBand wireless = .auto ||
    WifiBand.fromFrequencyLabel (frequencyBand frequency) = some (storedBand wireless)

/-- A frequency has the stored channel. -/
def channelAllows (frequency : ℕ) : Bool :=
  storedChannel wireless = 0 || frequencyChannel frequency = storedChannel wireless

/-- There is a channel, and the table does not have it in the stored band. -/
def storesNoPlace : Bool :=
  storedChannel wireless ≠ 0 && wifiChannels.all fun row =>
    row.2 ≠ storedChannel wireless || !bandAllows wireless row.1

/-- There is text for an address that is not an address. -/
def storesOtherText : Bool :=
  (filledText wireless "bssid").any fun text => !isColonAddress text

/-- There are bytes for an address, but not six. -/
def storesOtherBytes : Bool :=
  (setting settingBytes wireless "bssid").any fun bytes => bytes.length ≠ 6

/-- Both readers take the profile to mean the same: either it has no restriction that only
one of them understands, or no access point can meet what it has. -/
def readAlike : Bool :=
  storesNoAddress wireless && storesKnownBand wireless || storesNoPlace wireless ||
    storesOtherText wireless && (storesOtherBytes wireless || !storesKnownBand wireless)

/-! ## The readers -/

/-- The address as text. -/
def textAllows (bssid : Option String) : Bool :=
  (filledText wireless "bssid").all fun text =>
    bssid.any fun candidate => eqIgnoreAsciiCase candidate text

/-- The address as bytes. -/
def bytesAllow (bssid : String) : Bool :=
  (setting settingBytes wireless "bssid").all fun saved => bssidBytesMatch saved bssid

end

theorem section_of_details (hdetails : wifiProfileDetails path settings = .ok details)
    (hwireless : settings.lookup "802-11-wireless" = some wireless) :
    wifiSettingsSection settings = some wireless ∧ details.bssid = filledText wireless "bssid" ∧
      details.band = storedBand wireless ∧ details.channel = positive wireless "channel" := by
  rw [wifiProfileDetails, hwireless] at hdetails
  split at hdetails
  · cases hdetails
  · rename_i profile hprofile
    cases hdetails
    refine ⟨?_, rfl, rfl, rfl⟩
    rw [savedWifiConnectionFromSettings, hwireless, Option.bind_eq_some_iff] at hprofile
    obtain ⟨connection, hconnection, hprofile⟩ := hprofile
    rw [Option.bind_some] at hprofile
    split at hprofile
    · cases hprofile
    · rename_i htype
      rw [wifiSettingsSection, hwireless, hconnection, Option.bind_some, Option.any_some,
        if_neg htype]

/-- The channel of a candidate. -/
theorem channel_eq (hchannel : ap.channel = frequencyChannel ap.frequency) :
    ((positive wireless "channel").all fun channel =>
      (if ap.channel = 0 then none else some ap.channel) = some channel) =
        channelAllows wireless ap.frequency := by
  rw [channelAllows, storedChannel, positive, ← hchannel]
  cases settingU32 wireless "channel" with
  | none => rfl
  | some channel =>
    by_cases hpositive : 0 < channel
    · rw [Option.filter_some, if_pos (decide_eq_true hpositive), Option.all_some, Option.getD_some,
        decide_eq_false hpositive.ne', Bool.false_or]
      by_cases hzero : ap.channel = 0
      · rw [if_pos hzero, hzero]
        exact (decide_eq_false nofun).trans (decide_eq_false hpositive.ne).symm
      · rw [if_neg hzero]
        exact decide_eq_decide.mpr Option.some_inj
    · rw [Nat.eq_zero_of_not_pos hpositive]
      rfl

/-- The band of a candidate. -/
theorem label_eq (label : String) :
    (if label = "" then none else some label).bind WifiBand.fromFrequencyLabel =
      WifiBand.fromFrequencyLabel label := by
  split
  · rename_i h
    rw [h]
    rfl
  · rfl

/-- The filter of fallback candidates. -/
theorem filter_eq (hdetails : wifiProfileDetails path settings = .ok details)
    (hwireless : settings.lookup "802-11-wireless" = some wireless) (hap : ap.Derived) :
    candidateMatchesProfileRestrictions (candidateFromAccessPoint target ap) details =
      (textAllows wireless target.bssid && bandAllows wireless ap.frequency &&
        channelAllows wireless ap.frequency) := by
  obtain ⟨-, hbssid, hband, hchannel⟩ := section_of_details hdetails hwireless
  rw [candidateMatchesProfileRestrictions, hbssid, hband, hchannel, textAllows, bandAllows,
    ← channel_eq hap.2, ← hap.1, ← label_eq]
  rfl

/-- The stored band as the matcher takes it. -/
def bandText (wireless : Values) (frequency : ℕ) : Bool :=
  (filledText wireless "band").all fun band =>
    some band = (WifiBand.fromFrequencyLabel (frequencyBand frequency)).bind WifiBand.nmValue

/-- The matcher, for an access point of the network. -/
theorem matcher_eq (hdetails : wifiProfileDetails path settings = .ok details)
    (hwireless : settings.lookup "802-11-wireless" = some wireless)
    (hssid : setting settingBytes wireless "ssid" = some ap.exactSsid) :
    settingsMatchAccessPoint settings ap =
      (bytesAllow wireless ap.bssid && bandText wireless ap.frequency &&
        channelAllows wireless ap.frequency) := by
  obtain ⟨hsection, -⟩ := section_of_details hdetails hwireless
  rw [settingsMatchAccessPoint, WifiProfileMatch.fromSettings, hsection, Option.bind_some, hssid,
    Option.map_some, Option.any_some, WifiProfileMatch.matchesAccessPoint, decide_eq_true rfl,
    Bool.true_and, Bool.and_assoc]
  rfl

/-! ## Bands -/

theorem bandText_known (hknown : storesKnownBand wireless = true) (frequency : ℕ) :
    bandText wireless frequency = bandAllows wireless frequency := by
  rw [storesKnownBand] at hknown
  rw [bandText, bandAllows, storedBand]
  cases hband : filledText wireless "band" with
  | none => rfl
  | some band =>
    rw [hband, Option.all_some, List.contains_iff_mem] at hknown
    generalize WifiBand.fromFrequencyLabel (frequencyBand frequency) = actual
    simp only [List.mem_cons, List.not_mem_nil, or_false] at hknown
    rcases hknown with rfl | rfl | rfl <;> rcases actual with _ | _ | _ <;> decide

theorem bandText_unknown (hknown : storesKnownBand wireless = false) (frequency : ℕ) :
    bandText wireless frequency = false := by
  rw [storesKnownBand] at hknown
  rw [bandText]
  cases hband : filledText wireless "band" with
  | none =>
    rw [hband] at hknown
    cases hknown
  | some band =>
    rw [hband, Option.all_some] at hknown
    rw [Option.all_some, decide_eq_false_iff_not]
    intro hsome
    cases hactual : WifiBand.fromFrequencyLabel (frequencyBand frequency) with
    | none =>
      rw [hactual] at hsome
      cases hsome
    | some actual =>
      rw [hactual] at hsome
      cases actual <;> cases hsome <;> cases hknown

/-! ## Places -/

theorem frequencyChannel_row : ∀ row ∈ wifiChannels, frequencyChannel row.1 = row.2 := by
  decide +kernel

theorem row_of_channel {frequency : ℕ} (h : frequencyChannel frequency ≠ 0) :
    (frequency, frequencyChannel frequency) ∈ wifiChannels := by
  rw [frequencyChannel] at h ⊢
  cases hfind : wifiChannels.findSome? fun row => if row.1 = frequency then some row.2 else none with
  | none =>
    rw [hfind] at h
    exact absurd rfl h
  | some channel =>
    obtain ⟨row, hrow, hchannel⟩ := List.exists_of_findSome?_eq_some hfind
    split at hchannel
    · rename_i hfrequency
      cases hchannel
      rw [Option.getD_some, ← hfrequency]
      exact hrow
    · cases hchannel

/-- Without a place no frequency passes. -/
theorem allows_of_noPlace (h : storesNoPlace wireless = true) (frequency : ℕ) :
    (bandAllows wireless frequency && channelAllows wireless frequency) = false := by
  rw [storesNoPlace, Bool.and_eq_true, decide_eq_true_eq, List.all_eq_true] at h
  obtain ⟨hchannel, hrows⟩ := h
  rw [channelAllows, decide_eq_false hchannel, Bool.false_or]
  by_cases hsame : frequencyChannel frequency = storedChannel wireless
  · have hrow := hrows _ (row_of_channel (hsame ▸ hchannel))
    rw [hsame, decide_eq_false (not_not.mpr rfl), Bool.false_or, Bool.not_eq_true'] at hrow
    rw [hrow, Bool.false_and]
  · rw [decide_eq_false hsame, Bool.and_false]

/-- Otherwise one does. -/
theorem exists_place (h : storesNoPlace wireless = false) :
    ∃ frequency, bandAllows wireless frequency = true ∧ channelAllows wireless frequency = true := by
  by_cases hchannel : storedChannel wireless = 0
  · have hany : ∀ frequency, channelAllows wireless frequency = true := by
      intro frequency
      rw [channelAllows, decide_eq_true hchannel, Bool.true_or]
    have hband : ∀ band : WifiBand, ∃ frequency, (band = .auto ||
        WifiBand.fromFrequencyLabel (frequencyBand frequency) = some band) = true := by
      intro band
      cases band with
      | auto => exact ⟨0, rfl⟩
      | ghz24 => exact ⟨2412, by decide +kernel⟩
      | ghz5 => exact ⟨5180, by decide +kernel⟩
      | ghz6 => exact ⟨5955, by decide +kernel⟩
    obtain ⟨frequency, hfrequency⟩ := hband (storedBand wireless)
    exact ⟨frequency, hfrequency, hany frequency⟩
  · rw [storesNoPlace, decide_eq_true hchannel, Bool.true_and, List.all_eq_false] at h
    obtain ⟨row, hrow, hnot⟩ := h
    rw [Bool.not_eq_true, Bool.or_eq_false_iff, decide_eq_false_iff_not, not_not,
      Bool.not_eq_false'] at hnot
    refine ⟨row.1, hnot.2, ?_⟩
    rw [channelAllows, frequencyChannel_row row hrow, decide_eq_true hnot.1, Bool.or_true]

/-! ## Addresses -/

theorem accessPointBssid_some {y : String} (h : accessPointBssid ap = .ok (some y)) :
    parseTargetBssid ap.bssid = .ok y := by
  rw [accessPointBssid] at h
  split at h
  · cases h
  · cases hparse : parseTargetBssid ap.bssid with
    | error e =>
      rw [hparse] at h
      cases h
    | ok z =>
      rw [hparse] at h
      cases h
      rfl

/-- Other text equals the address of no candidate. -/
theorem textAllows_other (h : storesOtherText wireless = true)
    (htarget : accessPointBssid ap = .ok target.bssid) :
    textAllows wireless target.bssid = false := by
  rw [storesOtherText] at h
  rw [textAllows]
  cases htext : filledText wireless "bssid" with
  | none =>
    rw [htext] at h
    cases h
  | some text =>
    rw [htext, Option.any_some, Bool.not_eq_true'] at h
    rw [Option.all_some]
    cases hbssid : target.bssid with
    | none => rfl
    | some y =>
      rw [Option.any_some]
      by_contra heq
      rw [hbssid] at htarget
      rw [colon_of_target (accessPointBssid_some htarget) (Bool.not_eq_false _ ▸ heq)] at h
      cases h

/-- Other bytes are the address of no access point. -/
theorem bytesAllow_other (h : storesOtherBytes wireless = true) (bssid : String) :
    bytesAllow wireless bssid = false := by
  rw [storesOtherBytes] at h
  rw [bytesAllow]
  cases hbytes : setting settingBytes wireless "bssid" with
  | none =>
    rw [hbytes] at h
    cases h
  | some saved =>
    rw [hbytes, Option.any_some, decide_eq_true_eq] at h
    rw [Option.all_some, bssidBytesMatch]
    cases hparse : parseBssid bssid with
    | none => rfl
    | some bytes =>
      rw [Option.any_some, decide_eq_false_iff_not]
      rintro rfl
      rw [parseBssid, Option.filter_eq_some_iff] at hparse
      exact h (of_decide_eq_true hparse.2)

/-- Where both readers find something it is the text of the bytes. -/
theorem text_of_bytes {key text : String} {bytes : List UInt8}
    (htext : filledText wireless key = some text)
    (hbytes : setting settingBytes wireless key = some bytes) :
    text ≠ "" ∧ String.fromUTF8? ⟨bytes.toArray⟩ = some text := by
  rw [filledText, Option.filter_eq_some_iff, settingText, setting, Option.bind_eq_some_iff] at htext
  obtain ⟨⟨value, hvalue, htext⟩, hfilled⟩ := htext
  refine ⟨of_decide_eq_true hfilled, ?_⟩
  rw [setting, hvalue, Option.bind_some] at hbytes
  rw [valueText] at htext
  cases value with
  | array signature elements =>
    rw [show valueList Value.asByte (.array signature elements) = some bytes from hbytes] at htext
    exact htext
  | _ => cases hbytes

/-- No address is like no other. -/
theorem bytesAllow_empty (wireless : Values) :
    bytesAllow wireless "" = (setting settingBytes wireless "bssid").isNone := by
  rw [bytesAllow]
  cases setting settingBytes wireless "bssid" <;> rfl

theorem textAllows_none (wireless : Values) :
    textAllows wireless none = (filledText wireless "bssid").isNone := by
  rw [textAllows]
  cases filledText wireless "bssid" <;> rfl

/-- An access point of the network, with an address and a frequency. -/
def seenAt (ssid : List UInt8) (bssid : String) (frequency : ℕ) : AccessPoint where
  ssid := ""
  ssidBytes := ssid
  bssid
  strength := 0
  frequency
  channel := frequencyChannel frequency
  band := frequencyBand frequency

theorem seenAt_exactSsid (ssid : List UInt8) (bssid : String) (frequency : ℕ) :
    (seenAt ssid bssid frequency).exactSsid = ssid := by
  rw [AccessPoint.exactSsid, ssidBytesOrDisplay]
  split
  · rename_i h
    exact h.symm
  · rfl

/-- A target with an address. -/
def targetAt (bssid : Option String) : WifiConnectTarget :=
  { WifiConnectTarget.home with bssid }

theorem accessPointBssid_of_target {bssid y : String} {ssid : List UInt8} {frequency : ℕ}
    (h : parseTargetBssid bssid = .ok y) :
    accessPointBssid (seenAt ssid bssid frequency) = .ok (some y) := by
  rw [accessPointBssid, if_neg]
  · change Except.map some (parseTargetBssid bssid) = _
    rw [h]
    rfl
  · rintro rfl
    exact absurd (parseTargetBssid_ok h).1 (by decide)

/-! ## Agreement -/

/-- The two readers agree on every access point of the network whose band label and channel
are those of its frequency. -/
def ReadersAgree (settings : ConnectionSettings) (details : WifiProfileDetails)
    (ssid : List UInt8) : Prop :=
  ∀ (ap : AccessPoint) (target : WifiConnectTarget), ap.Derived → ap.exactSsid = ssid →
    accessPointBssid ap = .ok target.bssid →
      candidateMatchesProfileRestrictions (candidateFromAccessPoint target ap) details =
        settingsMatchAccessPoint settings ap

section Agreement

variable {ssid : List UInt8} (hdetails : wifiProfileDetails path settings = .ok details)
  (hwireless : settings.lookup "802-11-wireless" = some wireless)
  (hssid : setting settingBytes wireless "ssid" = some ssid)

include hdetails hwireless hssid

/-- What is read alike is taken to mean the same. -/
theorem agree_of_readAlike (h : readAlike wireless = true) : ReadersAgree settings details ssid := by
  rintro ap target hap rfl htarget
  rw [filter_eq hdetails hwireless hap, matcher_eq hdetails hwireless hssid]
  rw [readAlike, Bool.or_eq_true, Bool.or_eq_true] at h
  rcases h with (hplain | hplace) | hother
  · rw [Bool.and_eq_true, storesNoAddress, Bool.and_eq_true, Option.isNone_iff_eq_none,
      Option.isNone_iff_eq_none] at hplain
    obtain ⟨⟨htext, hbytes⟩, hknown⟩ := hplain
    rw [textAllows, htext, bytesAllow, hbytes, bandText_known hknown]
    rfl
  · -- nothing passes
    have hnone := allows_of_noPlace hplace ap.frequency
    rw [Bool.and_assoc, hnone, Bool.and_false]
    cases hknown : storesKnownBand wireless with
    | true => rw [bandText_known hknown, Bool.and_assoc, hnone, Bool.and_false]
    | false => rw [bandText_unknown hknown, Bool.and_false, Bool.false_and]
  · rw [Bool.and_eq_true, Bool.or_eq_true, Bool.not_eq_true'] at hother
    rw [textAllows_other hother.1 htarget, Bool.false_and, Bool.false_and]
    rcases hother.2 with hbytes | hknown
    · rw [bytesAllow_other hbytes, Bool.false_and, Bool.false_and]
    · rw [bandText_unknown hknown, Bool.and_false, Bool.false_and]

/-- At a frequency that passes, the readers have to agree about addresses. -/
theorem addresses_agree (hagree : ReadersAgree settings details ssid) {frequency : ℕ}
    (hband : bandAllows wireless frequency = true)
    (hchannel : channelAllows wireless frequency = true) {bssid : String} {y : Option String}
    (hy : accessPointBssid (seenAt ssid bssid frequency) = .ok y) :
    textAllows wireless y = (bytesAllow wireless bssid && bandText wireless frequency) := by
  have h := hagree (seenAt ssid bssid frequency) (targetAt y) ⟨rfl, rfl⟩
    (seenAt_exactSsid ssid bssid frequency) hy
  rw [filter_eq hdetails hwireless ⟨rfl, rfl⟩, matcher_eq hdetails hwireless
    (hssid.trans (congrArg some (seenAt_exactSsid ssid bssid frequency).symm))] at h
  change (textAllows wireless y && bandAllows wireless frequency &&
    channelAllows wireless frequency) = (bytesAllow wireless bssid && bandText wireless frequency &&
      channelAllows wireless frequency) at h
  rwa [hband, hchannel, Bool.and_true, Bool.and_true, Bool.and_true] at h

/-- Text that is an address is met by an access point. -/
theorem other_text_of_agree (hagree : ReadersAgree settings details ssid) {frequency : ℕ}
    (hband : bandAllows wireless frequency = true)
    (hchannel : channelAllows wireless frequency = true) {text : String}
    (htext : filledText wireless "bssid" = some text)
    (hreject : ∀ bssid, bandText wireless frequency = true → isColonAddress text = true →
      bytesAllow wireless bssid = false) : isColonAddress text = false := by
  by_contra hcolon
  rw [Bool.not_eq_false] at hcolon
  obtain ⟨y, hy, heq⟩ := target_of_colon hcolon
  have h := addresses_agree hdetails hwireless hssid hagree hband hchannel
    (accessPointBssid_of_target hy)
  rw [textAllows, htext, Option.all_some, Option.any_some, heq] at h
  cases hbandText : bandText wireless frequency with
  | true =>
    rw [hreject text hbandText hcolon] at h
    cases h
  | false =>
    rw [hbandText, Bool.and_false] at h
    cases h

/-- Readers that agree read alike. -/
theorem readAlike_of_agree (hagree : ReadersAgree settings details ssid) :
    readAlike wireless = true := by
  rw [readAlike]
  cases hplace : storesNoPlace wireless with
  | true => rw [Bool.or_true, Bool.true_or]
  | false =>
    obtain ⟨frequency, hband, hchannel⟩ := exists_place hplace
    have hempty := addresses_agree hdetails hwireless hssid hagree hband hchannel
      (show accessPointBssid (seenAt ssid "" frequency) = .ok none from rfl)
    rw [textAllows_none, bytesAllow_empty] at hempty
    cases hknown : storesKnownBand wireless with
    | true =>
      rw [bandText_known hknown, hband, Bool.and_true] at hempty
      rw [Bool.and_true, Bool.or_false, Bool.not_true, Bool.or_false, storesNoAddress, ← hempty,
        Bool.and_self]
      cases htext : filledText wireless "bssid" with
      | none => rfl
      | some text =>
        -- both readers find an address; then neither may be met
        rw [htext] at hempty
        obtain ⟨bytes, hbytes⟩ := Option.isSome_iff_exists.mp
          (Option.not_isNone _ ▸ congrArg not hempty.symm)
        obtain ⟨-, hutf8⟩ := text_of_bytes htext hbytes
        have hother : isColonAddress text = false := by
          refine other_text_of_agree hdetails hwireless hssid hagree hband hchannel htext ?_
          intro bssid _ hcolon
          have hsize := colon_size hcolon
          rw [utf8ByteSize_of_bytes hutf8] at hsize
          refine bytesAllow_other ?_ bssid
          rw [storesOtherBytes, hbytes]
          exact decide_eq_true hsize.ne'
        have hlength : bytes.length ≠ 6 := by
          intro hsix
          have hy : parseTargetBssid (formatBssid bytes) = .ok _ :=
            if_pos (looksLikeBssid_format hsix)
          have h := addresses_agree hdetails hwireless hssid hagree hband hchannel
            (accessPointBssid_of_target hy)
          rw [textAllows, htext, bytesAllow, hbytes, Option.all_some, Option.all_some,
            Option.any_some, bssidBytesMatch, parseBssid_format hsix, bandText_known hknown, hband,
            Option.any_some, decide_eq_true rfl, Bool.and_true] at h
          rw [colon_of_target hy h] at hother
          cases hother
        rw [storesOtherText, htext, storesOtherBytes, hbytes, Option.any_some, Option.any_some,
          hother, decide_eq_true hlength]
        rfl
    | false =>
      rw [bandText_unknown hknown, Bool.and_false] at hempty
      obtain ⟨text, htext⟩ := Option.isSome_iff_exists.mp
        (Option.not_isNone _ ▸ congrArg not hempty)
      have hother : isColonAddress text = false := by
        refine other_text_of_agree hdetails hwireless hssid hagree hband hchannel htext ?_
        intro bssid hmatch _
        rw [bandText_unknown hknown] at hmatch
        cases hmatch
      rw [storesOtherText, htext, Option.any_some, hother, Bool.and_false, Bool.or_false,
        Bool.not_false, Bool.or_true]
      rfl

end Agreement

/-- **Where saved restrictions have one meaning.** For a saved profile of a network, the
filter of fallback candidates and the matcher agree on every access point of the network
exactly if the restrictions are stored so that both understand them, or such that no access
point can meet them. -/
theorem readers_agree_iff {ssid : List UInt8}
    (hdetails : wifiProfileDetails path settings = .ok details)
    (hwireless : settings.lookup "802-11-wireless" = some wireless)
    (hssid : setting settingBytes wireless "ssid" = some ssid) :
    ReadersAgree settings details ssid ↔ readAlike wireless = true :=
  ⟨readAlike_of_agree hdetails hwireless hssid, agree_of_readAlike hdetails hwireless hssid⟩

/-- A profile of the network `Home`, with restrictions. -/
def homeProfile (restrictions : List (String × Value)) : ConnectionSettings :=
  tableOf [("connection", ∅),
    ("802-11-wireless", tableOf (("ssid", .array "y" ([72, 111, 109, 101].map .byte)) ::
      restrictions))]

/-- A profile that is restricted to the 5 GHz band. -/
theorem readers_agree_iff_5ghz : ∃ details,
    wifiProfileDetails "/settings/1" (homeProfile [("band", .str "a")]) = .ok details ∧
      ReadersAgree (homeProfile [("band", .str "a")]) details [72, 111, 109, 101] :=
  ⟨_, rfl, (readers_agree_iff rfl rfl rfl).mpr (by decide +kernel)⟩

/-- As NetworkManager stores it, the profile is pinned to `00:11:22:33:44:FF`. -/
def pinnedProfile : ConnectionSettings :=
  homeProfile [("bssid", .array "y" ([0, 17, 34, 51, 68, 255].map .byte))]

/-- The matcher does not accept another access point for it, and the filter of fallback
candidates does. -/
theorem pinned_profile_retried_elsewhere : ∃ details ap target,
    wifiProfileDetails "/settings/1" pinnedProfile = .ok details ∧ ap.Derived ∧
      ap.exactSsid = [72, 111, 109, 101] ∧ ap.bssid = "00:11:22:33:44:55" ∧
      accessPointBssid ap = .ok target.bssid ∧
      candidateMatchesProfileRestrictions (candidateFromAccessPoint target ap) details = true ∧
      settingsMatchAccessPoint pinnedProfile ap = false := by
  refine ⟨_, seenAt [72, 111, 109, 101] "00:11:22:33:44:55" 5180,
    targetAt (some "00:11:22:33:44:55"), rfl, ⟨rfl, rfl⟩, rfl, rfl, ?_, ?_, ?_⟩
  · decide +kernel
  · decide +kernel
  · decide +kernel

end Wifi

end NmDaemon
