import NmDaemon.ConnectionMachine
import NmDaemon.WifiProfiles

/-!
# Radio restrictions of saved profiles

A saved profile can be restricted to one access point, to a band and to a channel. The
daemon has two readers of these restrictions: the details of a profile
(`wifiProfileDetails`), by which `application.rs` drops fallback candidates, and the matcher
of `nm/settings.rs` (`WifiProfileMatch`), by which profiles are attached to the networks of
an inventory and selected for activation.

Frequencies and channels are natural numbers. The channel table is that of
`data/wifi-channels.csv`; as in the generated code, the bounds of a band are those of its
rows. Of an access point, of the details and of a candidate's target the model has what
these readers look at.
-/

namespace NmDaemon

/-! ## Bands and channels -/

def WifiBand.nmValue : WifiBand → Option String
  | .auto => none
  | .ghz24 => some "bg"
  | .ghz5 => some "a"
  | .ghz6 => some "6GHz"

/-- What is not the name of a band is no restriction. -/
def WifiBand.fromNmValue : String → WifiBand
  | "bg" => .ghz24
  | "a" => .ghz5
  | "6GHz" => .ghz6
  | _ => .auto

def WifiBand.fromFrequencyLabel : String → Option WifiBand
  | "2.4 GHz" => some .ghz24
  | "5 GHz" => some .ghz5
  | "6 GHz" => some .ghz6
  | _ => none

namespace Wifi

open NmDaemon.Runtime (SsidBytes)
open NmDaemon.Connection (isHexDigit looksLikeBssid)

/-- The rows of the table: band, frequency in MHz, channel. -/
def channelTable : List (WifiBand × ℕ × ℕ) :=
  [(.ghz24, 2412, 1), (.ghz24, 2417, 2), (.ghz24, 2422, 3), (.ghz24, 2427, 4), (.ghz24, 2432, 5),
    (.ghz24, 2437, 6), (.ghz24, 2442, 7), (.ghz24, 2447, 8), (.ghz24, 2452, 9),
    (.ghz24, 2457, 10), (.ghz24, 2462, 11), (.ghz24, 2467, 12), (.ghz24, 2472, 13),
    (.ghz24, 2484, 14), (.ghz5, 5160, 32), (.ghz5, 5180, 36), (.ghz5, 5200, 40),
    (.ghz5, 5220, 44), (.ghz5, 5240, 48), (.ghz5, 5260, 52), (.ghz5, 5280, 56), (.ghz5, 5300, 60),
    (.ghz5, 5320, 64), (.ghz5, 5500, 100), (.ghz5, 5520, 104), (.ghz5, 5540, 108),
    (.ghz5, 5560, 112), (.ghz5, 5580, 116), (.ghz5, 5600, 120), (.ghz5, 5620, 124),
    (.ghz5, 5640, 128), (.ghz5, 5660, 132), (.ghz5, 5680, 136), (.ghz5, 5700, 140),
    (.ghz5, 5720, 144), (.ghz5, 5745, 149), (.ghz5, 5765, 153), (.ghz5, 5785, 157),
    (.ghz5, 5805, 161), (.ghz5, 5825, 165), (.ghz5, 4915, 183), (.ghz5, 4920, 184),
    (.ghz5, 4925, 185), (.ghz5, 4935, 187), (.ghz5, 4940, 188), (.ghz5, 4945, 189),
    (.ghz5, 4960, 192), (.ghz5, 4980, 196), (.ghz6, 5955, 1), (.ghz6, 5975, 5), (.ghz6, 5995, 9),
    (.ghz6, 6015, 13), (.ghz6, 6035, 17), (.ghz6, 6055, 21), (.ghz6, 6075, 25), (.ghz6, 6095, 29),
    (.ghz6, 6115, 33), (.ghz6, 6135, 37), (.ghz6, 6155, 41), (.ghz6, 6175, 45), (.ghz6, 6195, 49),
    (.ghz6, 6215, 53), (.ghz6, 6235, 57), (.ghz6, 6255, 61), (.ghz6, 6275, 65), (.ghz6, 6295, 69),
    (.ghz6, 6315, 73), (.ghz6, 6335, 77), (.ghz6, 6355, 81), (.ghz6, 6375, 85), (.ghz6, 6395, 89),
    (.ghz6, 6415, 93), (.ghz6, 6435, 97), (.ghz6, 6455, 101), (.ghz6, 6475, 105),
    (.ghz6, 6495, 109), (.ghz6, 6515, 113), (.ghz6, 6535, 117), (.ghz6, 6555, 121),
    (.ghz6, 6575, 125), (.ghz6, 6595, 129), (.ghz6, 6615, 133), (.ghz6, 6635, 137),
    (.ghz6, 6655, 141), (.ghz6, 6675, 145), (.ghz6, 6695, 149), (.ghz6, 6715, 153),
    (.ghz6, 6735, 157), (.ghz6, 6755, 161), (.ghz6, 6775, 169), (.ghz6, 6815, 173),
    (.ghz6, 6835, 177), (.ghz6, 6855, 181), (.ghz6, 6875, 185), (.ghz6, 6895, 189),
    (.ghz6, 6915, 193), (.ghz6, 6935, 197), (.ghz6, 6955, 201), (.ghz6, 6975, 205),
    (.ghz6, 6995, 209), (.ghz6, 7015, 213), (.ghz6, 7035, 217), (.ghz6, 7055, 221),
    (.ghz6, 7075, 225), (.ghz6, 7095, 229), (.ghz6, 7115, 233)]

def wifiChannels : List (ℕ × ℕ) := channelTable.map Prod.snd

/-- The frequencies of a band. -/
def bandFrequencies (band : WifiBand) : List ℕ :=
  (channelTable.filter fun row => row.1 = band).map fun row => row.2.1

/-- The lowest and the highest frequency of a band. -/
def bandBounds (band : WifiBand) : ℕ × ℕ :=
  match bandFrequencies band with
  | [] => (0, 0)
  | first :: rest => (rest.foldl min first, rest.foldl max first)

def frequencyChannel (frequency : ℕ) : ℕ :=
  (wifiChannels.findSome? fun row => if row.1 = frequency then some row.2 else none).getD 0

def inBand (frequency : ℕ) (band : WifiBand) : Bool :=
  (bandBounds band).1 ≤ frequency && frequency ≤ (bandBounds band).2

def frequencyBand (frequency : ℕ) : String :=
  if inBand frequency .ghz24 then "2.4 GHz"
  else if inBand frequency .ghz5 then "5 GHz"
  else if inBand frequency .ghz6 then "6 GHz"
  else ""

/-! ## Access points -/

structure AccessPoint : Type where
  ssid : String
  /-- empty only in old cache records -/
  ssidBytes : SsidBytes
  bssid : String
  strength : ℕ
  frequency : ℕ
  channel : ℕ
  band : String

def ssidBytesOrDisplay (ssidBytes : SsidBytes) (display : String) : SsidBytes :=
  if ssidBytes = [] then display.toUTF8.data.toList else ssidBytes

def AccessPoint.exactSsid (ap : AccessPoint) : SsidBytes := ssidBytesOrDisplay ap.ssidBytes ap.ssid

/-- The band label and the channel are those of the frequency. -/
def AccessPoint.Derived (ap : AccessPoint) : Prop :=
  ap.band = frequencyBand ap.frequency ∧ ap.channel = frequencyChannel ap.frequency

/-! ## Addresses -/

def isSeparator (c : Char) : Bool := c = ':' || c = '-'

/-- `eq_ignore_ascii_case` -/
def eqIgnoreAsciiCase (a b : String) : Bool :=
  a.toList.map Char.toLower = b.toList.map Char.toLower

/-- `Bssid::parse`: the normal form of an address. -/
def parseTargetBssid (value : String) : Except String String :=
  if looksLikeBssid value then
    .ok (String.ofList (value.toList.map fun c => (if c = '-' then ':' else c).toUpper))
  else .error ("invalid BSSID '" ++ value ++ "'; expected six hexadecimal octets")

/-- The address of a connect target for an access point. -/
def accessPointBssid (ap : AccessPoint) : Except String (Option String) :=
  if ap.bssid = "" then .ok none else (parseTargetBssid ap.bssid).map some

def hexValue (c : Char) : Option ℕ :=
  if '0' ≤ c && c ≤ '9' then some (c.toNat - '0'.toNat)
  else if 'a' ≤ c && c ≤ 'f' then some (c.toNat - 'a'.toNat + 10)
  else if 'A' ≤ c && c ≤ 'F' then some (c.toNat - 'A'.toNat + 10)
  else none

/-- One more digit, as long as the number fits into a byte. -/
def addDigit (n : ℕ) (c : Char) : Option ℕ :=
  (hexValue c).bind fun d => if n * 16 + d < 256 then some (n * 16 + d) else none

/-- `u8::from_str_radix(_, 16)`: digits, perhaps after a plus sign. -/
def parseHexByte (part : List Char) : Option UInt8 :=
  let digits := match part with
    | '+' :: rest => rest
    | _ => part
  if digits = [] then none else (digits.foldlM addDigit 0).map UInt8.ofNat

def parseBssid (value : String) : Option (List UInt8) :=
  ((value.toList.splitOnP isSeparator).mapM parseHexByte).filter fun bytes => bytes.length = 6

def bssidBytesMatch (saved : List UInt8) (apBssid : String) : Bool :=
  (parseBssid apBssid).any fun bytes => saved = bytes

/-! ## The details of a profile -/

structure WifiProfileDetails : Type where
  path : String
  id : String
  bssid : Option String
  band : WifiBand
  channel : Option ℕ

/-- Text that is not empty. -/
def filledText (values : Values) (key : String) : Option String :=
  (settingText values key).filter fun value => value ≠ ""

def settingU32 (values : Values) (key : String) : Option ℕ :=
  (setting Value.asU32 values key).map UInt32.toNat

def positive (values : Values) (key : String) : Option ℕ :=
  (settingU32 values key).filter fun value => 0 < value

/-- What a saved Wi-Fi profile restricts connections to. -/
def wifiProfileDetails (path : String) (settings : ConnectionSettings) :
    Except ErrorReport WifiProfileDetails :=
  match savedWifiConnectionFromSettings path settings with
  | none => .error ⟨.notFound, .profileOperation, .networkManager,
      "connection is not a saved Wi-Fi profile: " ++ path, []⟩
  | some profile =>
    let wireless := (settings.lookup "802-11-wireless").getD ∅
    .ok
      { path := profile.path
        id := profile.id
        bssid := filledText wireless "bssid"
        band := ((filledText wireless "band").map WifiBand.fromNmValue).getD .auto
        channel := positive wireless "channel" }

/-! ## Fallback candidates -/

def candidateFromAccessPoint (target : WifiConnectTarget) (ap : AccessPoint) : ConnectCandidate where
  target
  band := if ap.band = "" then none else some ap.band
  channel := if ap.channel = 0 then none else some ap.channel
  strength := some ap.strength

def candidateMatchesProfileRestrictions (candidate : ConnectCandidate)
    (profile : WifiProfileDetails) : Bool :=
  (profile.bssid.all fun bssid =>
    candidate.target.bssid.any fun candidate => eqIgnoreAsciiCase candidate bssid) &&
  (profile.band = .auto ||
    candidate.band.bind WifiBand.fromFrequencyLabel = some profile.band) &&
  (profile.channel.all fun channel => candidate.channel = some channel)

/-! ## The matcher -/

structure WifiProfileMatch : Type where
  ssidBytes : SsidBytes
  bssidBytes : Option (List UInt8)
  band : Option String
  channel : ℕ

def apMatchesBandChannel (ap : AccessPoint) (band : Option String) (channel : ℕ) : Bool :=
  let actualBand :=
    (WifiBand.fromFrequencyLabel (frequencyBand ap.frequency)).bind WifiBand.nmValue
  (band.all fun band => some band = actualBand) &&
    (channel = 0 || frequencyChannel ap.frequency = channel)

namespace WifiProfileMatch

def fromSettings (settings : ConnectionSettings) : Option WifiProfileMatch :=
  (wifiSettingsSection settings).bind fun wireless =>
    (setting settingBytes wireless "ssid").map fun ssidBytes =>
      { ssidBytes
        bssidBytes := setting settingBytes wireless "bssid"
        band := filledText wireless "band"
        channel := (settingU32 wireless "channel").getD 0 }

def matchesAccessPoint (matcher : WifiProfileMatch) (ap : AccessPoint) : Bool :=
  matcher.ssidBytes = ap.exactSsid &&
    (matcher.bssidBytes.all fun saved => bssidBytesMatch saved ap.bssid) &&
    apMatchesBandChannel ap matcher.band matcher.channel

end WifiProfileMatch

def settingsMatchAccessPoint (settings : ConnectionSettings) (ap : AccessPoint) : Bool :=
  (WifiProfileMatch.fromSettings settings).any fun matcher => matcher.matchesAccessPoint ap

end Wifi

end NmDaemon
