import NmDaemon.Errors
import NmDaemon.Runtime

/-!
# What a user can ask for

The connect requests of the command line and of the wire, and the choices a hotspot is
started with. Arguments whose parser only checks their form (paths, interface names,
BSSIDs) are strings; channels and signal strengths are natural numbers. The enterprise
credentials and the profile settings of a connect target are kept as the JSON records they
are on the wire: nothing here looks into them.
-/

namespace NmDaemon

/-! ## Connect requests -/

inductive WepKeyType : Type where
  | key
  | phrase

inductive Security : Type where
  | opened
  | owe
  | oweTransition
  | wpa
  | wpa2Or3
  | wep
  | enterprise
  | other (value : String)
  deriving DecidableEq

def Security.name : Security → String
  | .opened => "--"
  | .owe => "OWE"
  | .oweTransition => "OWE-TM"
  | .wpa => "WPA"
  | .wpa2Or3 => "WPA2/3"
  | .wep => "WEP"
  | .enterprise => "Enterprise"
  | .other value => value

/-- The exact bytes of an SSID, and the text they are shown as. -/
structure Ssid : Type where
  bytes : List UInt8
  display : String
  nonempty : bytes ≠ []
  size : bytes.length ≤ 32
  deriving DecidableEq

/-- What is said of bytes that are no SSID. -/
def ssidSizeMessage (bytes : List UInt8) : String :=
  "Wi-Fi SSID must be 1-32 bytes; got " ++ toString bytes.length ++ " bytes"

def validateSsidBytes (bytes : List UInt8) : Except String Unit :=
  if bytes = [] ∨ 32 < bytes.length then .error (ssidSizeMessage bytes) else .ok ()

/-- The network to connect to, how far it is pinned, and what its profile is to have. -/
structure WifiConnectTarget : Type where
  ssid : Ssid
  apPath : Option String
  bssid : Option String
  ifname : Option String
  devicePath : Option String
  connectionName : Option String
  isPrivate : Bool
  hidden : Bool
  security : Option Security
  keyMgmt : Option String
  enterprise : Option Json
  profile : Json
  deriving DecidableEq

/-- The network of the examples. -/
def Ssid.home : Ssid := ⟨[104, 111, 109, 101], "home", by decide, by decide⟩

/-- A request for it that says nothing else. -/
def WifiConnectTarget.home : WifiConnectTarget where
  ssid := .home
  apPath := none
  bssid := none
  ifname := none
  devicePath := none
  connectionName := none
  isPrivate := false
  hidden := false
  security := none
  keyMgmt := none
  enterprise := none
  profile := .null

structure ConnectCandidate : Type where
  target : WifiConnectTarget
  band : Option String
  channel : Option ℕ
  strength : Option ℕ
  deriving DecidableEq

structure ConnectRequest : Type where
  networkKey : Option String
  password : Option String
  wepKeyType : Option WepKeyType
  candidate : ConnectCandidate
  alternatives : List ConnectCandidate

/-! ## Hotspots and bands -/

inductive HotspotSecurity : Type where
  | wpaPsk
  | sae

inductive WifiBand : Type where
  | auto
  | ghz24
  | ghz5
  | ghz6
  deriving DecidableEq

def WifiBand.name : WifiBand → String
  | .auto => "auto"
  | .ghz24 => "2.4"
  | .ghz5 => "5"
  | .ghz6 => "6"

end NmDaemon
