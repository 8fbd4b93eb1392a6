import NmDaemon.Base.Client
import NmDaemon.WifiRadio

/-!
# Hotspots

`nm/hotspot.rs` and `daemon_hotspot.rs`: a hotspot is started with a profile that
NetworkManager keeps only as long as it is up, and it is stopped by looking for a device in
access-point mode, deactivating what that device carries and deleting the profile of it.

* `World`, `Action` — what the operations work on: the devices, the active connections, the
  profiles, and (for the record) which profiles hotspot starts of the daemon have added. All
  of it can change between two calls, also by other hotspot operations;
* `Ask`, `networkManager` — the calls the operations make. Each of them can fail, and a read is
  otherwise answered with what there is;
* `startHotspot`, `stopHotspot`, `runHotspotWorker` — the operations.

An active connection keeps its path and its profile for good, and paths are not used again.
What a wait polls for is asked as often as there is time for (`rounds`). The names of
states, the hexadecimal form of an SSID and the payload for sharing, which nothing here
reads, are left out; so is the lock that keeps the profile edits of the daemon apart.
-/

namespace NmDaemon

def HotspotSecurity.keyManagement : HotspotSecurity → String
  | .wpaPsk => "wpa-psk"
  | .sae => "sae"

def HotspotSecurity.minimumPassphraseLen : HotspotSecurity → ℕ
  | .wpaPsk | .sae => 8

namespace Hotspot

open Client (Prog Service ask lift ensure)
open NmDaemon.Runtime (SsidBytes)
open Wifi (settingBytes settingU32 positive asBool)

/-! ## The world -/

structure Device : Type where
  path : String
  deviceType : ℕ
  interface : String
  state : ℕ
  mode : ℕ
  capabilities : ℕ
  /-- the path of what it carries, or `/` -/
  active : String

/-- An active connection. -/
structure Link : Type where
  profile : String
  state : ℕ

structure World : Type where
  devices : List Device
  wirelessEnabled : Bool
  links : Table String Link
  profiles : Table String ConnectionSettings
  /-- the profiles that hotspot starts of the daemon have added -/
  added : List String

/-- What others do. -/
inductive Action : Type where
  | devices (devices : List Device) (wirelessEnabled : Bool)
  /-- somebody activates a profile -/
  | link (path profile : String) (state : ℕ)
  | linkState (path : String) (state : ℕ)
  | save (profile : String) (settings : ConnectionSettings)
  | remove (profile : String)
  /-- another hotspot start of the daemon adds a profile and activates it -/
  | hotspot (profile path : String) (settings : ConnectionSettings)

namespace World

/-- A new active connection. -/
def bring (s : World) (path : String) (link : Link) : Option World :=
  if s.links.lookup path = none then some { s with links := s.links.insert path link }
  else none

/-- A hotspot profile is added and activated. -/
def addHotspot (s : World) (profile path : String) (settings : ConnectionSettings) : Option World :=
  (s.bring path ⟨profile, 0⟩).map fun s =>
    { s with profiles := s.profiles.insert profile settings, added := profile :: s.added }

def device (s : World) (path : String) : Option Device := s.devices.find? fun d => d.path = path

end World

def others (s : World) : Action → Option World
  | .devices devices wirelessEnabled => some { s with devices, wirelessEnabled }
  | .link path profile state => s.bring path ⟨profile, state⟩
  | .linkState path state =>
    (s.links.lookup path).map fun link =>
      { s with links := AList.insert path { link with state } s.links }
  | .save profile settings => some { s with profiles := s.profiles.insert profile settings }
  | .remove profile => some { s with profiles := s.profiles.erase profile }
  | .hotspot profile path settings => s.addHotspot profile path settings

/-! ## Calls -/

/-- The calls of hotspot operations. -/
inductive Ask : Type where
  /-- a proxy; there is none if NetworkManager has changed -/
  | proxy
  | getDevices
  | deviceType (device : String)
  | interface (device : String)
  | deviceState (device : String)
  /-- the active connection of a device -/
  | activeConnection (device : String)
  | wirelessCapabilities (device : String)
  | mode (device : String)
  | wirelessEnabled
  /-- the state of an active connection -/
  | linkState (path : String)
  /-- the profile of an active connection -/
  | linkProfile (path : String)
  | getSettings (profile : String)
  /-- add a profile that is not kept, and activate it -/
  | addAndActivate (settings : ConnectionSettings) (device : String)
  | deactivate (path : String)
  | delete (profile : String)
  | cancelled
  /-- is the time for the activation up? -/
  | expired
  /-- the name of the host, without the white space around it -/
  | hostname
  | randomPassphrase (length : ℕ)
  | randomUuid

abbrev Reply : Ask → Type
  | .proxy | .deactivate _ | .delete _ => Except ErrorReport Unit
  | .getDevices => Except ErrorReport (List String)
  | .deviceType _ => Except ErrorReport ℕ
  | .deviceState _ | .wirelessCapabilities _ | .mode _ | .linkState _ => Option ℕ
  | .interface _ | .activeConnection _ | .linkProfile _ | .hostname => Option String
  | .wirelessEnabled => Option Bool
  | .getSettings _ => Except ErrorReport ConnectionSettings
  | .addAndActivate _ _ => Except ErrorReport (String × String)
  | .cancelled | .expired => Bool
  | .randomPassphrase _ | .randomUuid => Except ErrorReport String

/-- A read is answered with what there is, or it fails. -/
def readOk {α : Type} [DecidableEq α] (s : World) (value : Option α) : Option α → Option World
  | none => some s
  | some reply => if value = some reply then some s else none

/-- What NetworkManager does when it is asked. Reads report its state, or fail. -/
def serve (s : World) : (c : Ask) → Reply c → Option World
  | .proxy, _ | .cancelled, _ | .expired, _ | .hostname, _ | .randomPassphrase _, _
  | .randomUuid, _ | .deactivate _, _ => some s
  | .getDevices, r => readOk s (some (s.devices.map Device.path)) r.toOption
  | .deviceType path, r => readOk s ((s.device path).map Device.deviceType) r.toOption
  | .interface path, r => readOk s ((s.device path).map Device.interface) r
  | .deviceState path, r => readOk s ((s.device path).map Device.state) r
  | .activeConnection path, r => readOk s ((s.device path).map Device.active) r
  | .wirelessCapabilities path, r => readOk s ((s.device path).map Device.capabilities) r
  | .mode path, r => readOk s ((s.device path).map Device.mode) r
  | .wirelessEnabled, r => readOk s (some s.wirelessEnabled) r
  | .linkState path, r => readOk s ((s.links.lookup path).map Link.state) r
  | .linkProfile path, r => readOk s ((s.links.lookup path).map Link.profile) r
  | .getSettings profile, r => readOk s (s.profiles.lookup profile) r.toOption
  | .addAndActivate settings _, .ok (profile, path) => s.addHotspot profile path settings
  | .addAndActivate _ _, .error _ => some s
  | .delete profile, .ok () => some { s with profiles := s.profiles.erase profile }
  | .delete _, .error _ => some s

/-- NetworkManager, and what else the operations ask. -/
def networkManager : Service World Ask Reply Action where
  serve := serve
  rival := others

abbrev Process (α : Type) : Type := ExceptT ErrorReport (Prog Ask Reply) α

/-! ## Errors -/

def validationError (message : String) (details : List (String × Json)) : ErrorReport :=
  ⟨.validationError, .hotspotOperation, .validation, message, details⟩

def cancelledError : ErrorReport :=
  ⟨.cancelled, .hotspotOperation, .cancellation, "hotspot start was cancelled", []⟩

def notFound (message : String) (details : List (String × Json)) : ErrorReport :=
  ⟨.notFound, .hotspotOperation, .networkManager, message, details⟩

/-! ## Devices -/

structure WifiDevice : Type where
  path : String
  iface : String

structure HotspotDevice : Type where
  path : String
  interface : String
  apCapable : Bool
  inUse : Bool
  state : ℕ
  mode : String
  bands : List WifiBand

def capAp : ℕ := 0x40

def capFreq2Ghz : ℕ := 0x200

def capFreq5Ghz : ℕ := 0x400

def wifiModeAp : ℕ := 3

def capabilityBands (capabilities : ℕ) : List WifiBand :=
  (if capabilities &&& capFreq2Ghz ≠ 0 then [.ghz24] else []) ++
    (if capabilities &&& capFreq5Ghz ≠ 0 then [.ghz5] else [])

def wifiModeName : ℕ → String
  | 1 => "adhoc"
  | 2 => "infrastructure"
  | 3 => "access-point"
  | 4 => "mesh"
  | _ => "unknown"

def proxy : Process Unit := ask .proxy id

def wifiDevice (path : String) : Process (Option WifiDevice) := do
  proxy
  let deviceType ← ask (.deviceType path) id
  if deviceType ≠ 2 then pure none
  else do
    let iface ← ask (.interface path) fun r => .ok (r.getD path)
    pure (some ⟨path, iface⟩)

def readDevices : List String → Process (List WifiDevice)
  | [] => pure []
  | path :: paths => do
    let device ← wifiDevice path
    let rest ← readDevices paths
    pure (device.toList ++ rest)

def wifiDevices : Process (List WifiDevice) := do
  let paths ← ask .getDevices id
  readDevices paths

/-- What a device can do, as read from NetworkManager. -/
def hotspotDevice (device : WifiDevice) : Process HotspotDevice := do
  proxy
  let state ← ask (.deviceState device.path) fun r => .ok (r.getD 0)
  let active ← ask (.activeConnection device.path) fun r => .ok (r.getD "/")
  proxy
  let capabilities ← ask (.wirelessCapabilities device.path) fun r => .ok (r.getD 0)
  let mode ← ask (.mode device.path) fun r => .ok (r.getD 0)
  pure
    { path := device.path
      interface := device.iface
      apCapable := capabilities &&& capAp ≠ 0
      inUse := active ≠ "/"
      state
      mode := wifiModeName mode
      bands := capabilityBands capabilities }

def readHotspotDevices : List WifiDevice → Process (List HotspotDevice)
  | [] => pure []
  | device :: devices => do
    let device ← hotspotDevice device
    let rest ← readHotspotDevices devices
    pure (device :: rest)

def hotspotDevices : Process (List HotspotDevice) := do
  let devices ← wifiDevices
  readHotspotDevices devices

/-! ## Status -/

structure HotspotStatus : Type where
  active : Bool
  devicePath : Option String
  deviceIface : Option String
  ssid : Option String
  band : Option WifiBand
  channel : Option ℕ
  security : Option HotspotSecurity
  hidden : Bool
  profilePath : Option String
  activeConnection : Option String
  state : Option ℕ

/-- No hotspot. -/
def HotspotStatus.none : HotspotStatus :=
  ⟨false, .none, .none, .none, .none, .none, .none, false, .none, .none, .none⟩

variable (displaySsid : SsidBytes → String)

/-- What a profile says of a hotspot. -/
def hotspotProfileStatus (settings : ConnectionSettings) : HotspotStatus :=
  let wireless := (settings.lookup "802-11-wireless").getD ∅
  { HotspotStatus.none with
    ssid := some (displaySsid ((setting settingBytes wireless "ssid").getD []))
    band := (setting Value.asStr wireless "band").map WifiBand.fromNmValue
    channel := positive wireless "channel"
    security := match (settings.lookup "802-11-wireless-security").bind fun section_ =>
        setting Value.asStr section_ "key-mgmt" with
      | some "sae" => some .sae
      | some "wpa-psk" => some .wpaPsk
      | _ => .none
    hidden := (setting asBool wireless "hidden").getD false }

/-- What a device in access-point mode carries. -/
def hotspotStatusForDevice (device : HotspotDevice) : Process (Option HotspotStatus) := do
  proxy
  let mode ← ask (.mode device.path) fun r => .ok (r.getD 0)
  if mode ≠ wifiModeAp then pure .none
  else do
    proxy
    let active ← ask (.activeConnection device.path) fun r => .ok (r.getD "/")
    if active = "/" then pure .none
    else do
      proxy
      let state ← ask (.linkState active) fun r => .ok (r.getD 0)
      let profile ← ask (.linkProfile active) fun r => .ok (r.getD "/")
      proxy
      let settings ← ask (.getSettings profile) id
      pure (some
        { hotspotProfileStatus displaySsid settings with
          active := true
          devicePath := some device.path
          deviceIface := some device.interface
          profilePath := some profile
          activeConnection := some active
          state := some state })

def firstStatus : List HotspotDevice → Process HotspotStatus
  | [] => pure .none
  | device :: devices => do
    match ← hotspotStatusForDevice displaySsid device with
    | some status => pure status
    | none => firstStatus devices

def hotspotStatus : Process HotspotStatus := do
  let devices ← hotspotDevices
  firstStatus displaySsid devices

/-! ## Capabilities -/

inductive HotspotUnavailableReason : Type where
  | noWifiDevice
  | apModeUnsupported
  | wifiDisabled
  | deviceBusy

def HotspotUnavailableReason.name : HotspotUnavailableReason → String
  | .noWifiDevice => "no-wifi-device"
  | .apModeUnsupported => "ap-mode-unsupported"
  | .wifiDisabled => "wifi-disabled"
  | .deviceBusy => "device-busy"

def availableHotspotDevice (device : HotspotDevice) : Bool := device.apCapable && !device.inUse

def hotspotAvailability (devices : List HotspotDevice) (wirelessEnabled hasPreferred : Bool) :
    Option HotspotUnavailableReason × String :=
  if devices.isEmpty then (some .noWifiDevice, "NetworkManager reports no Wi-Fi device")
  else if !devices.any HotspotDevice.apCapable then
    (some .apModeUnsupported, "No Wi-Fi device advertises access-point mode")
  else if !wirelessEnabled then (some .wifiDisabled, "The Wi-Fi radio is turned off")
  else if !hasPreferred then
    (some .deviceBusy, "Every access-point-capable Wi-Fi device is already in use")
  else (none, "A Wi-Fi hotspot can be started")

structure HotspotCapabilities : Type where
  supported : Bool
  unsupportedReason : Option HotspotUnavailableReason
  message : String
  recommendedDevice : Option String
  supportedBands : List WifiBand
  supportedSecurity : List HotspotSecurity
  devices : List HotspotDevice

/-- Whether a hotspot can be started, on which devices, and why not. -/
def hotspotCapabilities : Process HotspotCapabilities := do
  let devices ← hotspotDevices
  let wirelessEnabled ← ask .wirelessEnabled fun r => .ok (r.getD false)
  let recommended := devices.find? availableHotspotDevice
  let availability := hotspotAvailability devices wirelessEnabled recommended.isSome
  pure
    { supported := availability.1.isNone
      unsupportedReason := availability.1
      message := availability.2
      recommendedDevice := recommended.map HotspotDevice.path
      supportedBands := [.auto, .ghz24, .ghz5]
      supportedSecurity := [.wpaPsk, .sae]
      devices }

/-! ## Starting -/

structure HotspotRequest : Type where
  ssid : Option String
  passphrase : Option String
  security : HotspotSecurity
  band : WifiBand
  channel : Option ℕ
  hidden : Bool
  device : Option String

structure ResolvedHotspot : Type where
  ssid : String
  ssidBytes : SsidBytes
  passphrase : String
  generatedPassphrase : Bool
  generatedSsid : Bool
  device : HotspotDevice
  band : WifiBand
  channel : Option ℕ

/-- The device that is asked for, or the first that is free. -/
def selectHotspotDevice (devices : List HotspotDevice) :
    Option String → Except ErrorReport HotspotDevice
  | none =>
    match devices.find? availableHotspotDevice with
    | some device => .ok device
    | none => .error (notFound "no unused access-point-capable Wi-Fi device is available" [])
  | some requested =>
    match devices.find? fun device => device.path = requested || device.interface = requested with
    | none => .error (notFound "requested Wi-Fi device does not exist" [("device", .str requested)])
    | some device =>
      if device.apCapable then .ok device
      else .error (validationError (device.interface ++ " does not support access-point mode")
        [("unsupported_reason", .str HotspotUnavailableReason.apModeUnsupported.name)])

def validatePassphrase (passphrase : String) (security : HotspotSecurity) :
    Except ErrorReport Unit :=
  if passphrase.length < security.minimumPassphraseLen ∨ 63 < passphrase.length then
    .error (validationError ("hotspot passphrase must be " ++
      toString security.minimumPassphraseLen ++ "-63 characters") [("field", .str "passphrase")])
  else .ok ()

def resolveBand (requested : WifiBand) (device : HotspotDevice) : Except ErrorReport WifiBand :=
  if requested = .auto then .ok .auto
  else if requested ∈ device.bands then .ok requested
  else .error (validationError (device.interface ++ " cannot host a hotspot on the requested band")
    [("available_bands", .arr (device.bands.map fun band => .str band.name)),
      ("requested_band", .str requested.name)])

def defaultHotspotSsid : Process String :=
  ask .hostname fun r =>
    .ok (match r.filter fun host => host ≠ "" && host.utf8ByteSize ≤ 24 with
      | some host => host ++ "-hotspot"
      | none => "nm-daemon-hotspot")

def generatedPassphraseLen : ℕ := 12

def resolvePassphrase (request : HotspotRequest) : Process String :=
  match request.passphrase with
  | some passphrase => do
    lift (validatePassphrase passphrase request.security)
    pure passphrase
  | none => ask (.randomPassphrase generatedPassphraseLen) id

def resolveSsid (request : HotspotRequest) : Process String :=
  match request.ssid with
  | some ssid => pure ssid
  | none => defaultHotspotSsid

/-- The device, the name and the passphrase of a hotspot; what is not given is generated. -/
def resolveHotspot (request : HotspotRequest) : Process ResolvedHotspot := do
  let capabilities ← hotspotCapabilities
  match capabilities.unsupportedReason with
  | some reason =>
    throw (validationError capabilities.message [("unsupported_reason", .str reason.name)])
  | none => do
    let device ← lift (selectHotspotDevice capabilities.devices request.device)
    let ssid ← resolveSsid request
    let ssidBytes := ssid.toUTF8.data.toList
    lift ((validateSsidBytes ssidBytes).mapError fun message =>
      validationError message [("field", .str "ssid")])
    let passphrase ← resolvePassphrase request
    let band ← lift (resolveBand request.band device)
    pure
      { ssid
        ssidBytes
        passphrase
        generatedPassphrase := request.passphrase.isNone
        generatedSsid := request.ssid.isNone
        device
        band
        channel := request.channel }

/-- The profile of a hotspot. -/
def hotspotConnectionSettings (resolved : ResolvedHotspot) (request : HotspotRequest) :
    Process ConnectionSettings := do
  let uuid ← ask .randomUuid id
  pure (tableOf
    [("connection", tableOf [("id", .str resolved.ssid), ("uuid", .str uuid),
        ("type", .str "802-11-wireless"), ("autoconnect", .bool false),
        ("interface-name", .str resolved.device.interface)]),
      ("802-11-wireless", tableOf ([("ssid", .array "y" (resolved.ssidBytes.map .byte)),
        ("mode", .str "ap"), ("hidden", .bool request.hidden)] ++
        (resolved.band.nmValue.map fun band => ("band", .str band)).toList ++
        (resolved.channel.map fun channel => ("channel", .u32 (.ofNat channel))).toList)),
      ("802-11-wireless-security", tableOf [("key-mgmt", .str request.security.keyManagement),
        ("psk", .str resolved.passphrase), ("proto", .array "s" [.str "rsn"]),
        ("pairwise", .array "s" [.str "ccmp"]), ("group", .array "s" [.str "ccmp"])]),
      ("ipv4", tableOf [("method", .str "shared")]),
      ("ipv6", tableOf [("method", .str "ignore")])])

/-- A start of the command line cannot be cancelled. -/
def checkCancellation (cancellable : Bool) : Process Unit :=
  if cancellable then ask .cancelled fun
    | true => .error cancelledError
    | false => .ok ()
  else pure ()

/-- The state of an activation, which is unknown if it cannot be read. -/
def activationState (path : String) : Process ℕ :=
  tryCatch (do
    proxy
    ask (.linkState path) fun r => .ok (r.getD 0)) fun _ => pure 0

def timedOut : ErrorReport :=
  ⟨.timeout, .hotspotOperation, .networkManager, "timed out waiting for the hotspot to activate", []⟩

/-- Looks until the connection is activated, at most so many times. -/
def awaitHotspotActivation (cancellable : Bool) (path : String) : ℕ → Process Unit
  | 0 => throw timedOut
  | rounds + 1 => do
    checkCancellation cancellable
    let state ← activationState path
    if state = 2 then pure ()
    else if 3 ≤ state then
      throw ⟨.activationFailed, .hotspotOperation, .networkManager,
        "NetworkManager deactivated the hotspot during activation", []⟩
    else do
      let expired ← ask .expired .ok
      if expired then throw timedOut else awaitHotspotActivation cancellable path rounds

/-- Errors of a cleanup are ignored. -/
def bestEffort (p : Process Unit) : Process Unit := tryCatch p fun _ => pure ()

def deleteConnection (profile : String) : Process Unit := do
  proxy
  ask (.delete profile) id

def removeHotspotProfile (profile : String) : Process Unit :=
  if profile = "/" then pure () else bestEffort (deleteConnection profile)

def rollBackHotspot (profile path : String) : Process Unit := do
  bestEffort (ask (.deactivate path) id)
  removeHotspotProfile profile

structure HotspotStartResult : Type where
  message : String
  generatedPassphrase : Bool
  generatedSsid : Bool
  passphrase : String
  hotspot : HotspotStatus

/-- What a start reports. -/
def startedHotspotResult (request : HotspotRequest) (resolved : ResolvedHotspot)
    (profile path : String) : HotspotStartResult where
  message := "Hotspot " ++ resolved.ssid ++ " is running"
  generatedPassphrase := resolved.generatedPassphrase
  generatedSsid := resolved.generatedSsid
  passphrase := resolved.passphrase
  hotspot :=
    { active := true
      devicePath := some resolved.device.path
      deviceIface := some resolved.device.interface
      ssid := some resolved.ssid
      band := some resolved.band
      channel := resolved.channel
      security := some request.security
      hidden := request.hidden
      profilePath := some profile
      activeConnection := some path
      state := some 2 }

/-- A start adds a volatile profile, activates it and waits; when that fails, it is rolled back. -/
def startHotspot (rounds : ℕ) (request : HotspotRequest) (cancellable : Bool) :
    Process HotspotStartResult := do
  let status ← hotspotStatus displaySsid
  match status.ssid with
  | some active => throw (validationError ("a hotspot is already running for " ++ active) [])
  | none => do
    let resolved ← resolveHotspot request
    checkCancellation cancellable
    let settings ← hotspotConnectionSettings resolved request
    let created ← ask (.addAndActivate settings resolved.device.path) id
    tryCatch (do
      awaitHotspotActivation cancellable created.2 rounds
      pure (startedHotspotResult request resolved created.1 created.2)) fun error => do
      rollBackHotspot created.1 created.2
      throw error

/-! ## Stopping -/

structure HotspotStopResult : Type where
  status : String
  message : String
  ssid : Option String
  deviceIface : Option String

/-- Remove the profile of a status, if it has one. -/
def removeProfileOf (status : HotspotStatus) : Process Unit :=
  match status.profilePath with
  | some profile => removeHotspotProfile profile
  | none => pure ()

def stopHotspot : Process HotspotStopResult := do
  let status ← hotspotStatus displaySsid
  match status.activeConnection, status.ssid with
  | some path, some ssid => do
    ask (.deactivate path) id
    removeProfileOf status
    pure ⟨"stopped", "Hotspot " ++ ssid ++ " stopped", some ssid, status.deviceIface⟩
  | _, _ => pure ⟨"noop", "No hotspot is running", none, none⟩

/-! ## Operations of the daemon -/

/-- How a start ends for its caller. -/
inductive WorkerEvent : Type where
  | succeeded (result : HotspotStartResult)
  | cancelled
  | error (error : ErrorReport)

/-- A success after the request was cancelled is taken back. -/
def runHotspotWorker (rounds : ℕ) (request : HotspotRequest) : Process WorkerEvent :=
  tryCatch (do
    let result ← startHotspot displaySsid rounds request true
    proxy
    let cancelled ← ask .cancelled .ok
    if cancelled then do
      let _ ← bestEffort (do
        let _ ← stopHotspot displaySsid
        pure ())
      pure .cancelled
    else pure (.succeeded result)) fun error => pure (.error error)

inductive Operation : Type where
  /-- a request to the daemon -/
  | start (request : HotspotRequest)
  /-- a command that is not forwarded to the daemon -/
  | directStart (request : HotspotRequest)
  | stop

def operation (rounds : ℕ) : Operation → Process Unit
  | .start request => do
    let _ ← runHotspotWorker displaySsid rounds request
    pure ()
  | .directStart request => do
    let _ ← startHotspot displaySsid rounds request false
    pure ()
  | .stop => do
    let _ ← stopHotspot displaySsid
    pure ()

end Hotspot

end NmDaemon
