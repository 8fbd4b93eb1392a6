import NmDaemon.Runtime
import NmDaemon.Variant

/-!
# Saved Wi-Fi profiles

`nm/settings.rs`: what the daemon reads off the settings of a saved profile to know which
network it is for. Text may be stored as a string or as its UTF-8 bytes; an SSID is always
bytes.
-/

namespace NmDaemon

namespace Wifi

open NmDaemon.Runtime (SsidBytes)

def settingBytes (value : Value) : Option (List UInt8) := valueList Value.asByte value

/-- The profile says that it is of another type. -/
def otherType (connection : Values) : Bool :=
  (settingText connection "type").any fun type => type ≠ "802-11-wireless"

/-- The Wi-Fi section, unless the profile is of another type. -/
def wifiSettingsSection (settings : ConnectionSettings) : Option Values :=
  (settings.lookup "802-11-wireless").bind fun wireless =>
    if (settings.lookup "connection").any otherType then none else some wireless

def settingsMatchWifiSsid (settings : ConnectionSettings) (ssid : SsidBytes) : Bool :=
  (wifiSettingsSection settings).any fun wireless =>
    (setting settingBytes wireless "ssid").any fun saved => saved = ssid

/-- What a list of saved profiles says of one. The fields that are only shown are left
out. -/
structure SavedWifiConnection : Type where
  path : String
  id : String
  ssidBytes : SsidBytes
  autoconnect : Bool
  deriving DecidableEq

def asBool : Value → Option Bool
  | .bool b => some b
  | _ => none

def savedWifiConnectionFromSettings (path : String) (settings : ConnectionSettings) :
    Option SavedWifiConnection :=
  (settings.lookup "connection").bind fun connection =>
    (settings.lookup "802-11-wireless").bind fun wireless =>
      if otherType connection then none
      else some
        { path
          id := (settingText connection "id").getD path
          ssidBytes := (setting settingBytes wireless "ssid").getD []
          autoconnect := (setting asBool connection "autoconnect").getD true }

end Wifi

end NmDaemon
