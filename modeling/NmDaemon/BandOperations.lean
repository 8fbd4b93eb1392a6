import NmDaemon.Base.Part
import NmDaemon.BandSettings
import NmDaemon.CredentialPreservation
import NmDaemon.HotspotOperations
import NmDaemon.WifiSecurity

/-!
# Band selection

`nm/band.rs` and `daemon_band.rs`: the band of a saved profile is written, the profile is
activated again and the band of the connection is verified. If that fails or is cancelled, the
band from before is written back, into the settings the profile has by then, and the profile is
activated once more.

* `Ask`, `bandWorld` — the calls of a selection. The edits are those of `Profiles`, for any
  service of a profile; everything else can be answered with anything. The request can be
  cancelled at any time;
* `selectWifiBand`, `commitBandChange`, `rollbackBandChange` — the operation;
* `runBandWorker` — its terminal event.

What `wifi_band_status` reads is one call here (`readings`), as is the wait for the connection
with the target that is built for it. The lock that keeps the profile edits of the daemon apart
and the events before the terminal one are left out.
-/

namespace NmDaemon

namespace Band

open Client (Prog Service Part ask lift ensure attempt perform)
open NmDaemon.Runtime (SsidBytes)
open Hotspot (WifiDevice)
open ProfileSettings (selectedBand setSelectedBand ensureSameBandTarget restoreBandFields)
open Profiles (Profile Foreign beginProfileEdit profileEdit isUnder)
open Wifi (ScannedAccessPoint SavedWifiConnection savedWifiConnectionFromSettings)

/-! ## The status -/

structure WifiBandStatus : Type where
  path : String
  id : String
  ssid : String
  deviceIface : String
  current : WifiBand
  selected : WifiBand
  available : List WifiBand

structure WifiBandSelectionResult : Type where
  status : String
  changed : Bool
  band : WifiBandStatus
  message : String

/-- What an operation works with: one profile, through one connection to NetworkManager. -/
structure Scope : Type where
  /-- the owner the connection is pinned to, or the well-known name -/
  destination : String
  path : String
  displaySsid : SsidBytes → String
  /-- the error with which an edit of the profile fails, by its message -/
  raise : String → AnyError

/-- What is read for the status. -/
structure Readings : Type where
  profile : ConnectionSettings
  /-- the device the profile is active on -/
  device : Option WifiDevice
  activeAp : Option ScannedAccessPoint
  /-- the settings, for what they select -/
  settings : ConnectionSettings
  accessPoints : List ScannedAccessPoint

/-- What is there, or else an error. -/
def orError {α : Type} (error : DomainError) : Option α → Except AnyError α
  | some a => .ok a
  | none => .error (.ofDomain error)

def savedWifiConnectionByPath (path : String) (settings : ConnectionSettings) :
    Except AnyError SavedWifiConnection :=
  orError (.notFound .profileOperation ("connection is not a saved Wi-Fi profile: " ++ path))
    (savedWifiConnectionFromSettings path settings)

/-- The bands of the access points of the network, and that of the connection. -/
def availableBands (readings : Readings) (device : WifiDevice) (ssid : SsidBytes)
    (active : ScannedAccessPoint) (current : WifiBand) : List WifiBand :=
  let found := (readings.accessPoints.filter fun ap =>
    ap.deviceIface = device.iface && ap.exactSsid = ssid &&
      ap.securityClass = active.securityClass).filterMap fun ap =>
    WifiBand.fromFrequencyLabel ap.band
  -- an ordered set
  [.auto, .ghz24, .ghz5, .ghz6].filter fun band => band ∈ current :: found

/-- The status that the readings amount to. -/
def bandStatus (scope : Scope) (readings : Readings) : Except AnyError WifiBandStatus := do
  let profile ← savedWifiConnectionByPath scope.path readings.profile
  let device ← orError ((DomainError.notFound .bandOperation
    ("Wi-Fi profile " ++ profile.id ++ " is not active")).withDetail "path" (.str profile.path))
    readings.device
  let activeAp ← orError (.notFound .bandOperation
    ("active access point is unavailable for " ++ profile.id)) readings.activeAp
  let current ← orError (.new .unknown .bandOperation .networkManager
    ("unsupported active Wi-Fi band: " ++ activeAp.band)) (WifiBand.fromFrequencyLabel activeAp.band)
  pure
    { path := profile.path
      id := profile.id
      ssid := scope.displaySsid profile.ssidBytes
      deviceIface := device.iface
      current
      selected := selectedBand readings.settings
      available := availableBands readings device profile.ssidBytes activeAp current }

/-! ## Calls -/

/-- Where the operation looks whether it is cancelled. -/
inductive Check : Type where
  | start
  /-- with the lock for profile edits -/
  | locked
  | reactivating
  | reactivated
  /-- after a rollback, to tell why it was -/
  | normalizing
  /-- when a success is reported -/
  | reporting

/-- What the status is read for. -/
inductive Look : Type where
  | before
  | reactivated
  | after

/-- What the profile is activated for. -/
inductive Activation : Type where
  | selection
  | recovery

/-- The calls of a band selection. -/
inductive Ask : Type where
  /-- a call of an edit of the profile -/
  | edit (call : Profiles.Call)
  | cancelled (check : Check)
  | readings (look : Look)
  | wifiDevices
  /-- the settings of the profile -/
  | settings
  | activate (activation : Activation) (device : String)
  /-- wait for the connection -/
  | wait (ssid : SsidBytes) (device : WifiDevice)
  /-- the active connection of a device -/
  | activeConnection (device : String)
  /-- the profile of an active connection -/
  | connectionOf (active : String)
  | currentOwner

abbrev Reply : Ask → Type
  | .edit call => Profiles.Reply call
  | .cancelled _ => Bool
  | .readings _ => Except AnyError Readings
  | .wifiDevices => Except AnyError (List WifiDevice)
  | .settings => Except AnyError ConnectionSettings
  | .activate _ _ => Except AnyError Unit
  | .wait _ _ => Except AnyError Unit
  | .activeConnection _ => Except AnyError String
  | .connectionOf _ => Except AnyError String
  | .currentOwner => Except AnyError String

structure World : Type where
  profile : Profile
  cancelled : Bool

/-- What others do. -/
inductive Action : Type where
  | profile (action : Foreign)
  /-- the request is cancelled -/
  | cancel

/-- The surroundings of an operation, for a service of the profile. -/
def bandWorld (nm : Service Profile Profiles.Call Profiles.Reply Foreign) :
    Service World Ask Reply Action where
  serve s
    | .edit call, reply => (nm.serve s.profile call reply).map fun profile => { s with profile }
    | .cancelled _, reply => if reply = s.cancelled then some s else none
    | _, _ => some s
  rival s
    | .profile action => (nm.rival s.profile action).map fun profile => { s with profile }
    | .cancel => some { s with cancelled := true }

abbrev Process (α : Type) : Type := ExceptT AnyError (Prog Ask Reply) α

/-- An event of a history of a selection. -/
abbrev Happening : Type := Client.Event World Ask Reply Action

/-- What an event is for the profile. -/
def seen : Happening → Option Profiles.Happening
  | .own s (.edit call) reply => some (.own s.profile call reply)
  | .rival (.profile action) => some (.rival action)
  | _ => none

/-- The profile is part of the surroundings. -/
def profilePart (nm : Service Profile Profiles.Call Profiles.Reply Foreign) :
    Part nm (bandWorld nm) where
  call := .edit
  reply _ reply := reply
  state := World.profile
  action
    | .profile action => some action
    | .cancel => none
  seen := seen
  seen_own _ _ _ := rfl
  seen_rival
    | .profile _ => rfl
    | .cancel => rfl
  serve s c r s' h := by
    obtain ⟨profile, hserve, rfl⟩ := Option.map_eq_some_iff.mp h
    exact hserve
  rival_some s a s' b h hb := by
    cases a with
    | cancel => cases hb
    | profile action =>
      cases hb
      obtain ⟨profile, hrival, rfl⟩ := Option.map_eq_some_iff.mp h
      exact hrival
  rival_none s a s' h hb := by
    cases a with
    | cancel =>
      cases h
      rfl
    | profile action => cases hb

/-! ## The operation -/

variable (scope : Scope)

def cancelledError : AnyError :=
  .ofDomain (.cancelledOperation .bandOperation "Wi-Fi band selection cancelled")

def checkBandCancelled (check : Check) : Process Unit := do
  let cancelled ← ask (.cancelled check) .ok
  if cancelled then throw cancelledError

def wifiBandStatus (look : Look) : Process WifiBandStatus :=
  ask (.readings look) fun readings => readings.bind (bandStatus scope)

/-- An edit of the profile, or a part of one. -/
def edit {α : Type} (p : Profiles.NmProgram α) : Process α :=
  perform .edit (fun _ reply => reply) scope.raise p

def validateRequestedBand (before : WifiBandStatus) (requested : WifiBand) :
    Except AnyError Unit :=
  if requested = .auto ∨ requested ∈ before.available then .ok ()
  else .error (.ofDomain ((((DomainError.validation .bandOperation
    ("requested Wi-Fi band is not available for " ++ before.ssid)).withDetail "path"
      (.str before.path)).withDetail "requested" (.str requested.name)).withDetail "available"
        (.arr (before.available.map fun band => .str band.name))))

def bandSelectionIsUnchanged (before : WifiBandStatus) (requested : WifiBand) : Bool :=
  before.selected = requested && (requested = .auto || before.current = requested)

def unchangedBandSelection (before : WifiBandStatus) : WifiBandSelectionResult where
  status := "unchanged"
  changed := false
  message := "Wi-Fi band selection for " ++ before.ssid ++ " is unchanged"
  band := before

structure BandChange : Type where
  device : WifiDevice
  before : WifiBandStatus
  ssidBytes : SsidBytes
  original : ConnectionSettings

def prepareBandChange (before : WifiBandStatus) : Process BandChange := do
  let devices ← ask .wifiDevices id
  let device ← lift (orError (.notFound .bandOperation
    ("active Wi-Fi device " ++ before.deviceIface ++ " disappeared"))
    (devices.find? fun device => device.iface = before.deviceIface))
  let settings ← ask .settings id
  let profile ← lift (savedWifiConnectionByPath scope.path settings)
  let begun ← edit scope (beginProfileEdit scope.destination false)
  pure { device, before, ssidBytes := profile.ssidBytes, original := begun.settings }

/-- The edit of a selection, of the settings the profile has. -/
def chooseBand (original : ConnectionSettings) (requested : WifiBand)
    (current : ConnectionSettings) : Except String ConnectionSettings := do
  ensureSameBandTarget current original
  if selectedBand current = selectedBand original then .ok (setSelectedBand current requested)
  else .error "band changed before update; retry explicitly"

/-- The edit of a rollback. -/
def restoreBand (original : ConnectionSettings) (applied : WifiBand)
    (current : ConnectionSettings) : Except String ConnectionSettings := do
  ensureSameBandTarget current original
  restoreBandFields current original applied

def verifyBand (requested : WifiBand) (status : WifiBandStatus) : Except AnyError Unit :=
  if requested ≠ .auto ∧ status.current ≠ requested then
    .error (.ofDomain (((DomainError.new .activationFailed .bandOperation .networkManager
      ("NetworkManager reconnected " ++ status.ssid ++ " on a different band")).withDetail
        "requested" (.str requested.name)).withDetail "current" (.str status.current.name)))
  else .ok ()

def reactivateBand (change : BandChange) (requested : WifiBand) : Process Unit := do
  checkBandCancelled .reactivating
  ask (.activate .selection change.device.path) fun reply =>
    reply.mapError (.context ("reactivate " ++ change.before.ssid ++ " after Wi-Fi band selection"))
  ask (.wait change.ssidBytes change.device) id
  let status ← wifiBandStatus scope .reactivated
  lift (verifyBand requested status)

/-- The profile on the device is still the one to be reactivated, or there is none. -/
def ensureNotReplaced (device : WifiDevice) : Process Unit := do
  let active ← ask (.activeConnection device.path) id
  if active = "/" then pure ()
  else do
    let current ← ask (.connectionOf active) id
    ensure (current = scope.path)
      ⟨["another profile is active; recovery will not reconnect it"],
        .inr (.internalError, .internal, [])⟩

def rollbackBandChange (change : BandChange) (requested : WifiBand) : Process Unit := do
  edit scope (profileEdit scope.destination false (restoreBand change.original requested) false)
  ensureNotReplaced scope change.device
  ask (.activate .recovery change.device.path) id

/-- What is said of a failure that could not be recovered from. -/
def unconfirmedRecovery : String :=
  "Band recovery was not confirmed; inspect the current connection before retrying: "

/-- The error of a change that failed after the band was written. -/
def recoverBandChange (change : BandChange) (requested : WifiBand) (error : AnyError) :
    Process Unit := do
  match ← attempt (rollbackBandChange scope change requested) with
  | .error rollback => throw (error.context (unconfirmedRecovery ++ rollback.display))
  | .ok () => do
    let cancelled ← ask (.cancelled .normalizing) .ok
    throw (if cancelled then cancelledError else error)

def commitBandChange (change : BandChange) (requested : WifiBand) : Process Unit := do
  edit scope (profileEdit scope.destination false (chooseBand change.original requested) false)
  tryCatch (do
    reactivateBand scope change requested
    checkBandCancelled .reactivated) (recoverBandChange scope change requested)

/-- The change, once it is known that there is something to change. -/
def changeBand (before : WifiBandStatus) (requested : WifiBand) :
    Process WifiBandSelectionResult := do
  let change ← prepareBandChange scope before
  commitBandChange scope change requested
  let after ← wifiBandStatus scope .after
  pure
    { status := "selected"
      changed := true
      message := "Wi-Fi band selection updated for " ++ after.ssid
      band := after }

def selectWifiBand (requested : WifiBand) : Process WifiBandSelectionResult := do
  checkBandCancelled .start
  checkBandCancelled .locked
  let before ← wifiBandStatus scope .before
  lift (validateRequestedBand before requested)
  if bandSelectionIsUnchanged before requested then pure (unchangedBandSelection before)
  else changeBand scope before requested

/-! ## The worker -/

/-- How a selection ends for its caller. -/
inductive Terminal : Type where
  | succeeded (result : WifiBandSelectionResult)
  /-- a success after the request was cancelled -/
  | cancelledLate
  | error (report : ErrorReport)

def Terminal.event : Terminal → String
  | .succeeded _ => "succeeded"
  | .cancelledLate => "cancelled"
  | .error report => if report.code = .cancelled then "cancelled" else "failed"

/-- What the event says of a cancellation or a failure. -/
def Terminal.message : Terminal → String
  | .succeeded _ => ""
  | .cancelledLate => "Wi-Fi band selection was cancelled"
  | .error report => report.message

/-- `Application::select_band` -/
def selectBand (requested : WifiBand) : Process WifiBandSelectionResult :=
  tryCatch (selectWifiBand scope requested) fun error => throw (error.ensureDomain .bandOperation)

def emitBandSuccess (result : WifiBandSelectionResult) : Prog Ask Reply Terminal :=
  .call (.cancelled .reporting) fun cancelled =>
    .done (if cancelled then .cancelledLate else .succeeded result)

def emitBandError (error : AnyError) : Terminal :=
  .error (.fromError error .bandOperation)

def runBandWorker (requested : WifiBand) : Prog Ask Reply Terminal :=
  Prog.bind (do
    let result ← selectBand scope requested
    ensureCurrentOwner scope.destination (ask .currentOwner id) .ofDomain
    pure result : Process WifiBandSelectionResult) fun
    | .ok result => emitBandSuccess result
    | .error error => .done (emitBandError error)

end Band

end NmDaemon
