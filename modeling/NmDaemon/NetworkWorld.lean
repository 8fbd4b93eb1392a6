import NmDaemon.Base.Client
import NmDaemon.Errors
import NmDaemon.RuntimeRequests
import NmDaemon.WifiProfiles

/-!
# The runtime and the network it works on

Operations of the daemon look at NetworkManager with several calls, between which requests
are registered and cancelled, workers activate connections, and other programs do what they
like. The world is what all of them share: the runtime, and of NetworkManager the Wi-Fi
devices, the connections they carry and the saved profiles.

* `world` — the machine of what can happen;
* `Ask`, `daemon` — the calls an operation makes, answered in the world as it is then. A
  call to NetworkManager may also fail, and then it has done nothing.

A worker activates a profile for the SSID its request was registered with, be it a saved
one or one it creates. An active connection keeps its path and its profile for good; paths
are not used again.
-/

namespace NmDaemon

namespace Network

open Client (Prog Service ask)
open NmDaemon.Runtime (DaemonRuntime SsidBytes)
open Wifi (settingsMatchWifiSsid)

/-- An active connection. -/
structure Link : Type where
  profile : String
  /-- the flag and the SSID of the request that activated it, if one of the daemon's did -/
  request : Option (ℕ × SsidBytes)

structure World : Type where
  runtime : DaemonRuntime
  /-- the unique name NetworkManager has on the bus -/
  owner : String
  /-- the Wi-Fi devices -/
  devices : List String
  /-- the active connection of a device -/
  carried : Table String String
  links : Table String Link
  profiles : Table String ConnectionSettings

/-- What others do. -/
inductive Action : Type where
  | runtime (action : Runtime.Action)
  /-- a connect worker has a profile activated -/
  | activate (cell : ℕ) (device path profile : String)
  /-- somebody else does -/
  | link (device path profile : String)
  | unlink (device : String)
  | devices (devices : List String)
  /-- a profile is added or changed -/
  | save (profile : String) (settings : ConnectionSettings)
  | remove (profile : String)
  /-- NetworkManager restarts -/
  | restart (owner : String)

/-- A device carries a new connection. -/
def World.bring (s : World) (device path : String) (link : Link) : World :=
  { s with carried := s.carried.insert device path, links := s.links.insert path link }

/-- The SSID of the connect request that a worker is for. -/
def requestedSsid (runtime : DaemonRuntime) (cell : ℕ) : Option SsidBytes :=
  (runtime.workers.lookup cell).bind fun registration =>
    ((runtime.tasks.lookup registration.requestId).filter fun task =>
      task.cancellation = cell ∧ task.kind = .connect).bind Runtime.TaskHandle.targetSsid

/-- What else can happen: the runtime goes on, connections come up and go. -/
def step (s : World) : Action → Option (World × Unit)
  | .runtime action => (Runtime.step s.runtime action).map fun r => ({ s with runtime := r.1 }, ())
  | .activate cell device path profile =>
    match requestedSsid s.runtime cell, s.profiles.lookup profile with
    | some ssid, some settings =>
      if settingsMatchWifiSsid settings ssid ∧ s.links.lookup path = none then
        some (s.bring device path ⟨profile, some (cell, ssid)⟩, ())
      else none
    | _, _ => none
  | .link device path profile =>
    if s.links.lookup path = none then some (s.bring device path ⟨profile, none⟩, ())
    else none
  | .unlink device => some ({ s with carried := s.carried.erase device }, ())
  | .devices devices => some ({ s with devices }, ())
  | .save profile settings =>
    some ({ s with profiles := s.profiles.insert profile settings }, ())
  | .remove profile => some ({ s with profiles := s.profiles.erase profile }, ())
  | .restart owner => some ({ s with owner }, ())

/-- The world from the start of the daemon on. -/
def world : Machine World Action Unit where
  start := ⟨Runtime.runtime.start, "", [], ∅, ∅, ∅⟩
  step := step

/-! ## Calls -/

/-- The calls of forgetting and of aborts. -/
inductive Ask : Type where
  | currentOwner
  | wifiDevices
  /-- the active connection of a device -/
  | activeConnection (device : String)
  /-- the profile of an active connection -/
  | activeProfile (path : String)
  | getSettings (profile : String)
  | listConnections
  | deactivate (path : String)
  | disableAutoconnect (profile : String)
  | delete (profile : String)
  /-- raise the flags of the connect tasks for an SSID -/
  | cancelConnects (ssid : SsidBytes)
  /-- wait for tasks; those that are still there when the time is up -/
  | waitForTasks (requestIds : List String)
  /-- have the long-work lane take a job -/
  | submitWork
  /-- is the time for a confirmation up? -/
  | expired

abbrev Reply : Ask → Type
  | .currentOwner => Except ErrorReport String
  | .wifiDevices | .listConnections => Except ErrorReport (List String)
  | .activeConnection _ => Except ErrorReport (Option String)
  | .activeProfile _ => Option String
  | .getSettings _ => Except ErrorReport ConnectionSettings
  | .deactivate _ | .disableAutoconnect _ | .delete _ | .submitWork => Except ErrorReport Unit
  | .cancelConnects _ | .waitForTasks _ => List String
  | .expired => Bool

abbrev Process (α : Type) : Type := ExceptT ErrorReport (Prog Ask Reply) α

def pendingTaskIds (runtime : DaemonRuntime) (requestIds : List String) : List String :=
  (requestIds.filter fun id => (runtime.tasks.lookup id).isSome).insertionSort (· ≤ ·)

/-- A read is answered with what there is. -/
def answered {α : Type} [DecidableEq α] (s : World) (value : α) : Except ErrorReport α → Option World
  | .ok reply => if reply = value then some s else none
  | .error _ => some s

/-- A change is made if it is answered. -/
def changed (s s' : World) : Except ErrorReport Unit → Option World
  | .ok _ => some s'
  | .error _ => some s

/-- Settings with autoconnect switched off. -/
def withoutAutoconnect (settings : ConnectionSettings) : ConnectionSettings :=
  AList.insert "connection"
    (((settings.lookup "connection").getD ∅).insert "autoconnect" (.bool false)) settings

/-- What NetworkManager does when it is asked, with this reply; a read may always fail. -/
def serve (s : World) : (c : Ask) → Reply c → Option World
  | .currentOwner, reply => answered s s.owner reply
  | .wifiDevices, reply => answered s s.devices reply
  | .activeConnection device, reply => answered s (s.carried.lookup device) reply
  | .activeProfile path, reply =>
    match reply with
    | some profile =>
      if (s.links.lookup path).map Link.profile = some profile then some s else none
    | none => some s
  | .getSettings profile, reply =>
    match reply with
    | .ok settings => if s.profiles.lookup profile = some settings then some s else none
    | .error _ => some s
  | .listConnections, reply => answered s s.profiles.keys reply
  | .deactivate path, reply =>
    let carried := s.carried.filterMap fun _ active => if active = path then none else some active
    changed s { s with carried } reply
  | .disableAutoconnect profile, reply =>
    let profiles := s.profiles.filterMap fun path settings =>
      some (if path = profile then withoutAutoconnect settings else settings)
    changed s { s with profiles } reply
  | .delete profile, reply => changed s { s with profiles := s.profiles.erase profile } reply
  | .cancelConnects ssid, requestIds =>
    let r := s.runtime.cancelConnectsForSsid ssid
    if requestIds = r.2 then some { s with runtime := r.1 } else none
  | .waitForTasks requestIds, pending =>
    if pending = pendingTaskIds s.runtime requestIds then some s else none
  | .submitWork, _ => some s
  | .expired, _ => some s

/-- What an operation of the daemon shares with everybody else. -/
def daemon : Service World Ask Reply Action where
  serve := serve
  rival s action := (step s action).map Prod.fst

/-! ## Looking at connections -/

/-- The daemon's NetworkManager is still the one at `destination`. -/
def ensureOwner (destination : String) : Process Unit :=
  ensureCurrentOwner destination (ask .currentOwner id) fun e => .fromError (.ofDomain e) .connect

def connectionMatchesSsid (profile : String) (ssid : SsidBytes) : Process Bool :=
  ask (.getSettings profile) fun r => r.map fun settings => settingsMatchWifiSsid settings ssid

def activeConnectionMatchesSsid (path : String) (ssid : SsidBytes) : Process Bool := do
  match ← ask (.activeProfile path) .ok with
  | none => pure false
  | some profile => connectionMatchesSsid profile ssid

/-- The devices that carry a connection for the SSID are disconnected, one after the
other. -/
def disconnectDevices (ssid : SsidBytes) : List String → Bool → Process Bool
  | [], disconnected => pure disconnected
  | device :: devices, disconnected => do
    match ← ask (.activeConnection device) id with
    | none => disconnectDevices ssid devices disconnected
    | some path =>
      if ← activeConnectionMatchesSsid path ssid then
        ask (.deactivate path) id
        disconnectDevices ssid devices true
      else disconnectDevices ssid devices disconnected

/-- Whether anything was disconnected. -/
def disconnectWifiForSsid (ssid : SsidBytes) : Process Bool := do
  let devices ← ask .wifiDevices id
  disconnectDevices ssid devices false

/-- A queued abort, when its turn comes. -/
def runAbort (abort : Runtime.Abort) : Process Bool := do
  ensureOwner abort.destination
  disconnectWifiForSsid abort.targetSsid

end Network

end NmDaemon
