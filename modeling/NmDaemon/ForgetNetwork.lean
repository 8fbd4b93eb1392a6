import NmDaemon.ActivationAbort
import NmDaemon.ConnectionMachine

/-!
# Forgetting a network

`forget.rs`: disconnect from a network and delete its saved profiles. Connect tasks for the
network are cancelled first and waited for; if one of them does not end, or the connection
does not go down, nothing is deleted.

The operation runs while requests come and go. What it can be sure of when it deletes is
shown here: the connect tasks it has cancelled are gone, and what it deletes are profiles
it has read, of exactly this SSID. A request that is registered after the cancellation is
not kept out.

The name of a profile is only used to order the profiles, by `lowercase`; the cache, the
audit record and the request id of the result are left out.
-/

namespace NmDaemon

namespace Network

open Client (Prog Service Exec Event Ends Assertion Guarantee Stable ask lift outcome)
open NmDaemon.Runtime (DaemonRuntime SsidBytes TaskHandle)
open Wifi (SavedWifiConnection savedWifiConnectionFromSettings)

/-! ## The operation -/

inductive ForgetStatus : Type where
  | forgotten
  | partially
  | failed
  | notSaved
  | disconnectPending
  | cancellationPending

structure ForgetProfileFailure : Type where
  id : String
  path : String
  message : String

/-- What is reported of a network that was to be forgotten. -/
structure ForgetResult : Type where
  status : ForgetStatus
  ssid : String
  message : String
  wasActive : Bool
  disconnected : Bool
  profilesFound : ℕ
  /-- their names and paths -/
  deletedProfiles : List (String × String)
  failedProfiles : List ForgetProfileFailure
  cancelledConnectRequests : List String
  pendingConnectRequests : List String
  warnings : List String

def ForgetResult.base (status : ForgetStatus) (ssid message : String) : ForgetResult :=
  { status
    ssid
    message
    wasActive := false
    disconnected := false
    profilesFound := 0
    deletedProfiles := []
    failedProfiles := []
    cancelledConnectRequests := []
    pendingConnectRequests := []
    warnings := [] }

structure ForgetCompletion : Type where
  ssid : String
  wasActive : Bool
  disconnected : Bool
  cancelledConnectRequests : List String
  deletedProfiles : List (String × String)
  failedProfiles : List ForgetProfileFailure
  warnings : List String

def noProfilesMessage (completion : ForgetCompletion) : String :=
  if completion.disconnected then
    "Disconnected from " ++ completion.ssid ++ "; no saved profile remained"
  else completion.ssid ++ " has no saved profiles to forget"

def successfulForgetMessage (completion : ForgetCompletion) (deleted : ℕ) : String :=
  let action :=
    if completion.wasActive && completion.disconnected then "Disconnected and forgot" else "Forgot"
  if deleted = 1 then action ++ " " ++ completion.ssid
  else action ++ " " ++ toString deleted ++ " saved profiles for " ++ completion.ssid

def completionMessage (completion : ForgetCompletion) : String :=
  match completion.deletedProfiles.length, completion.failedProfiles.length with
  | 0, 0 => noProfilesMessage completion
  | deleted, 0 => successfulForgetMessage completion deleted
  | deleted, failed =>
    "Forgot " ++ toString deleted ++ " of " ++ toString (deleted + failed) ++
      " saved profiles for " ++ completion.ssid ++ "; " ++ toString failed ++ " failed"

/-- What is reported once the profiles were deleted, as far as that went. -/
def ForgetResult.completed (completion : ForgetCompletion) : ForgetResult :=
  let failed := completion.failedProfiles.length
  let profilesFound := completion.deletedProfiles.length + failed
  let status : ForgetStatus :=
    if profilesFound = 0 then .notSaved
    else if failed = 0 then .forgotten
    else if profilesFound = failed then .failed
    else .partially
  { ForgetResult.base status completion.ssid (completionMessage completion) with
    wasActive := completion.wasActive
    disconnected := completion.disconnected
    profilesFound
    deletedProfiles := completion.deletedProfiles
    failedProfiles := completion.failedProfiles
    cancelledConnectRequests := completion.cancelledConnectRequests
    warnings := completion.warnings }

def ForgetResult.cancellationPending (ssid : String) (cancelled pending : List String) :
    ForgetResult :=
  { ForgetResult.base .cancellationPending ssid
      "Connection cancellation is still pending; try Forget again when the connection action finishes" with
    cancelledConnectRequests := cancelled
    pendingConnectRequests := pending }

def ForgetResult.disconnectPending (ssid : String) (profilesFound : ℕ)
    (cancelled warnings : List String) : ForgetResult :=
  { ForgetResult.base .disconnectPending ssid
      ("Could not confirm disconnection from " ++ ssid ++ "; no saved profiles were deleted") with
    wasActive := true
    profilesFound
    cancelledConnectRequests := cancelled
    warnings }

/-- The settings of a listed profile, unless it is gone by now. -/
def connectionSettingsIfPresent (path : String) : Process (Option ConnectionSettings) := do
  match ← ask (.getSettings path) .ok with
  | .ok settings => pure (some settings)
  | .error e => do
    let listed ← ask .listConnections id
    if path ∈ listed then throw e else pure none

def readConnections : List String → Process (List SavedWifiConnection)
  | [] => pure []
  | path :: paths => do
    let settings ← connectionSettingsIfPresent path
    let rest ← readConnections paths
    pure ((settings.bind (savedWifiConnectionFromSettings path)).toList ++ rest)

def savedWifiConnections (lowercase : String → String) : Process (List SavedWifiConnection) := do
  let paths ← ask .listConnections id
  let connections ← readConnections paths
  pure (connections.insertionSort fun a b => lowercase a.id ≤ lowercase b.id)

def profilesFor (lowercase : String → String) (ssid : SsidBytes) :
    Process (List SavedWifiConnection) := do
  let connections ← savedWifiConnections lowercase
  pure (connections.filter fun profile => profile.ssidBytes = ssid)

def anyActive (ssid : SsidBytes) : List String → Process Bool
  | [] => pure false
  | device :: devices => do
    match ← ask (.activeConnection device) id with
    | none => anyActive ssid devices
    | some path =>
      if ← activeConnectionMatchesSsid path ssid then pure true else anyActive ssid devices

def wifiConnectionActiveForSsid (ssid : SsidBytes) : Process Bool := do
  let devices ← ask .wifiDevices id
  anyActive ssid devices

/-- The warnings of the profiles that could not be changed. -/
def disableAutoconnect : List SavedWifiConnection → Process (List String)
  | [] => pure []
  | profile :: profiles => do
    if profile.autoconnect then
      let changed ← ask (.disableAutoconnect profile.path) .ok
      let warnings ← disableAutoconnect profiles
      match changed with
      | .ok _ => pure warnings
      | .error e =>
        pure (("Could not disable autoconnect for '" ++ profile.id ++ "': " ++ e.message) :: warnings)
    else disableAutoconnect profiles

/-- Look until the connection is down or the time is up. There is no bound on how often it
is looked; `rounds` is how often it is at most in an execution. -/
def confirm (ssid : SsidBytes) : ℕ → Process Bool
  | 0 => pure false
  | rounds + 1 => do
    if ← ask .expired .ok then pure false
    else if ← wifiConnectionActiveForSsid ssid then confirm ssid rounds
    else pure true

def disconnectAndConfirm (ssid : SsidBytes) (rounds : ℕ) : Process (Bool × List String) := do
  let _ ← disconnectWifiForSsid ssid
  let confirmed ← confirm ssid rounds
  pure (confirmed, if confirmed then [] else
    ["NetworkManager did not confirm disconnection within 10 seconds; no profiles were deleted."])

/-- Whether an active connection was disconnected, and the warnings. -/
def disconnectIfActive (ssid : SsidBytes) (rounds : ℕ) (wasActive : Bool) :
    Process (Bool × List String) :=
  if wasActive then disconnectAndConfirm ssid rounds else pure (false, [])

def deleteProfiles : List SavedWifiConnection →
    Process (List (String × String) × List ForgetProfileFailure)
  | [] => pure ([], [])
  | profile :: profiles => do
    let reply ← ask (.delete profile.path) .ok
    let (deleted, failed) ← deleteProfiles profiles
    match reply with
    | .ok _ => pure ((profile.id, profile.path) :: deleted, failed)
    | .error e => pure (deleted, ⟨profile.id, profile.path, e.message⟩ :: failed)

variable (lowercase : String → String) (rounds : ℕ) (target : WifiConnectTarget)

/-- Forgetting after the tasks were cancelled: the profiles are kept from connecting, the device is
disconnected, and only then are they deleted. -/
def ForgetService.run (cancelled : List String) : Process ForgetResult := do
  let profiles ← profilesFor lowercase target.ssid.bytes
  let wasActive ← wifiConnectionActiveForSsid target.ssid.bytes
  let warnings ← disableAutoconnect profiles
  let (disconnected, unconfirmed) ← disconnectIfActive target.ssid.bytes rounds wasActive
  if wasActive && !disconnected then
    pure (.disconnectPending target.ssid.display profiles.length cancelled (warnings ++ unconfirmed))
  else do
    let (deletedProfiles, failedProfiles) ← deleteProfiles profiles
    pure (.completed
      { ssid := target.ssid.display
        wasActive
        disconnected
        cancelledConnectRequests := cancelled
        deletedProfiles
        failedProfiles
        warnings := warnings ++ unconfirmed })

/-- A job on the long-work lane, bound to the NetworkManager that is there when it is
submitted. -/
def callWork {α : Type} (task : Process α) : Process α := do
  let owner ← ask .currentOwner id
  ask .submitWork id
  let result ← task
  ensureOwner owner
  pure result

def execute : Process ForgetResult := do
  lift ((Connection.validate target).mapError fun message =>
    ⟨.validationError, .profileOperation, .validation, message, []⟩)
  let cancelled ← ask (.cancelConnects target.ssid.bytes) .ok
  let pending ← ask (.waitForTasks cancelled) .ok
  if pending ≠ [] then pure (.cancellationPending target.ssid.display cancelled pending)
  else callWork (ForgetService.run lowercase rounds target cancelled)

end Network

end NmDaemon
