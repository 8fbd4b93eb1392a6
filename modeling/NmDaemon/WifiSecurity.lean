import NmDaemon.WifiRadio

/-!
# The security of access points

`auth.rs` and the classification in `model.rs`: what an access point's capability flags say
about how one authenticates with it.
-/

namespace NmDaemon

inductive SecurityClass : Type where
  | opened
  | enhancedOpen
  | legacy
  | personal
  | enterprise
  | unknown
  deriving DecidableEq

inductive WifiAuthentication : Type where
  | opened
  | owe
  | personal
  | wep
  | enterprise
  | unsupported

namespace Wifi

/-! ## The flags -/

def apFlagsPrivacy : UInt32 := 0x1
def keyMgmtPsk : UInt32 := 0x100
def keyMgmt8021x : UInt32 := 0x200
def keyMgmtSae : UInt32 := 0x400
def keyMgmtOwe : UInt32 := 0x800
def keyMgmtOweTm : UInt32 := 0x1000
def keyMgmtEapSuiteB192 : UInt32 := 0x2000

/-- An access point, with its device and its capabilities. -/
structure ScannedAccessPoint : Type extends AccessPoint where
  deviceIface : String
  flags : UInt32
  wpaFlags : UInt32
  rsnFlags : UInt32

/-- A secured access point of the network `home`. -/
def ScannedAccessPoint.home (rsnFlags : UInt32) : ScannedAccessPoint where
  ssid := "home"
  ssidBytes := [104, 111, 109, 101]
  bssid := "AA:BB:CC:DD:EE:FF"
  strength := 60
  frequency := 2412
  channel := 1
  band := "2.4 GHz"
  deviceIface := "wlan0"
  flags := 1
  wpaFlags := 0
  rsnFlags

def hasOwe (flags : UInt32) : Bool := flags &&& (keyMgmtOwe ||| keyMgmtOweTm) ≠ 0

def flagsArePasswordless (flags : UInt32) : Bool :=
  flags &&& (keyMgmtPsk ||| keyMgmt8021x ||| keyMgmtSae ||| keyMgmtEapSuiteB192) = 0 &&
    (flags = 0 || hasOwe flags)

section

variable (wpaFlags rsnFlags : UInt32)

def apUsesOwe : Bool := (wpaFlags ||| rsnFlags) &&& keyMgmtOwe ≠ 0

def apIsPasswordless (flags wpaFlags rsnFlags : UInt32) : Bool :=
  apUsesOwe wpaFlags rsnFlags ||
    (flags &&& apFlagsPrivacy = 0 && flagsArePasswordless wpaFlags && flagsArePasswordless rsnFlags)

def apSupportsPsk : Bool :=
  (wpaFlags ||| rsnFlags) &&& (keyMgmtPsk ||| keyMgmtSae) ≠ 0

def apSupportsEnterprise : Bool :=
  (wpaFlags ||| rsnFlags) &&& (keyMgmt8021x ||| keyMgmtEapSuiteB192) ≠ 0

def enterpriseKeyMgmt : String :=
  if (wpaFlags ||| rsnFlags) &&& keyMgmtEapSuiteB192 ≠ 0 then "wpa-eap-suite-b-192" else "wpa-eap"

/-! ## Labels and classes -/

def passwordlessSecurity : Security :=
  if (wpaFlags ||| rsnFlags) &&& keyMgmtOwe ≠ 0 then .owe
  else if (wpaFlags ||| rsnFlags) &&& keyMgmtOweTm ≠ 0 then .oweTransition
  else .opened

def securedNetworkLabel : Security :=
  if rsnFlags ≠ 0 then .wpa2Or3 else if wpaFlags ≠ 0 then .wpa else .wep

def securityLabel (flags wpaFlags rsnFlags : UInt32) : Security :=
  if apIsPasswordless flags wpaFlags rsnFlags then passwordlessSecurity wpaFlags rsnFlags
  else securedNetworkLabel wpaFlags rsnFlags

def securityClass (flags wpaFlags rsnFlags : UInt32) : SecurityClass :=
  match securityLabel flags wpaFlags rsnFlags with
  | .opened | .oweTransition => .opened
  | .owe => .enhancedOpen
  | .wep => .legacy
  | .wpa | .wpa2Or3 =>
    if apSupportsEnterprise wpaFlags rsnFlags then .enterprise
    else if apSupportsPsk wpaFlags rsnFlags then .personal
    else .unknown
  | .enterprise => .enterprise
  | .other _ => .unknown

def ScannedAccessPoint.securityClass (ap : ScannedAccessPoint) : SecurityClass :=
  Wifi.securityClass ap.flags ap.wpaFlags ap.rsnFlags

def classify (flags wpaFlags rsnFlags : UInt32) : WifiAuthentication :=
  match securityClass flags wpaFlags rsnFlags with
  | .opened => .opened
  | .enhancedOpen => .owe
  | .personal => .personal
  | .legacy => .wep
  | .enterprise => .enterprise
  | .unknown => .unsupported

/-- `sae` only where nothing but SAE is offered. -/
def personalKeyManagement : String :=
  if (wpaFlags ||| rsnFlags) &&& keyMgmtSae ≠ 0 ∧ (wpaFlags ||| rsnFlags) &&& keyMgmtPsk = 0 then
    "sae"
  else "wpa-psk"

end

end Wifi

end NmDaemon
