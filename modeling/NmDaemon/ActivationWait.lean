import NmDaemon.ConnectionMachine

/-!
# Waiting for an activation

`connect_wait.rs` and `deadline.rs`: while a connection comes up its device is observed again
and again, and every observation either ends the wait or tells when to look again.

* `WifiActivationStatus`, `Observation` — what is observed;
* `ActivationWait` — what is remembered: whether there was progress, the failure that is
  pending with the time it began, the last status;
* `observe`, `nextWake` — an observation, and the time to the next one;
* `follow` — a whole sequence of observations, up to the one that decides.

A device falls back to low states also while NetworkManager replaces one connection by
another, so a failure counts only when it has lasted for a grace period. Times are in
nanoseconds on the monotonic clock.
-/

namespace NmDaemon

/-! ## Reasons -/

inductive ReasonCategory : Type where
  | none
  | userRequested
  | authentication
  | configuration
  | hardware
  | carrier
  | addressAssignment
  | service
  | dependency
  | lifecycle
  | unknown

def ReasonCategory.name : ReasonCategory → String
  | .none => "none"
  | .userRequested => "user-requested"
  | .authentication => "authentication"
  | .configuration => "configuration"
  | .hardware => "hardware"
  | .carrier => "carrier"
  | .addressAssignment => "address-assignment"
  | .service => "service"
  | .dependency => "dependency"
  | .lifecycle => "lifecycle"
  | .unknown => "unknown"

structure TypedReason : Type where
  code : ℕ
  name : String
  category : ReasonCategory

/-- The reasons by their number. -/
def deviceReasons : List (String × ReasonCategory) :=
  [("none", .none), ("unknown", .unknown), ("now-managed", .lifecycle),
    ("now-unmanaged", .lifecycle), ("config-failed", .configuration),
    ("ip-config-unavailable", .addressAssignment), ("ip-config-expired", .addressAssignment),
    ("no-secrets", .authentication), ("supplicant-disconnect", .authentication),
    ("supplicant-config-failed", .configuration), ("supplicant-failed", .authentication),
    ("supplicant-timeout", .authentication), ("ppp-start-failed", .service),
    ("ppp-disconnect", .service), ("ppp-failed", .service),
    ("dhcp-start-failed", .addressAssignment), ("dhcp-error", .addressAssignment),
    ("dhcp-failed", .addressAssignment), ("shared-start-failed", .service),
    ("shared-failed", .service), ("autoip-start-failed", .addressAssignment),
    ("autoip-error", .addressAssignment), ("autoip-failed", .addressAssignment),
    ("modem-busy", .service), ("modem-no-dial-tone", .service), ("modem-no-carrier", .carrier),
    ("modem-dial-timeout", .service), ("modem-dial-failed", .service),
    ("modem-init-failed", .service), ("gsm-apn-failed", .configuration),
    ("gsm-registration-not-searching", .service), ("gsm-registration-denied", .authentication),
    ("gsm-registration-timeout", .service), ("gsm-registration-failed", .service),
    ("gsm-pin-check-failed", .authentication), ("firmware-missing", .hardware),
    ("removed", .lifecycle), ("sleeping", .lifecycle), ("connection-removed", .lifecycle),
    ("user-requested", .userRequested), ("carrier", .carrier), ("connection-assumed", .none),
    ("supplicant-available", .none), ("modem-not-found", .hardware), ("bluetooth-failed", .service),
    ("gsm-sim-not-inserted", .hardware), ("gsm-sim-pin-required", .authentication),
    ("gsm-sim-puk-required", .authentication), ("gsm-sim-wrong", .authentication),
    ("infiniband-mode", .configuration), ("dependency-failed", .dependency),
    ("br2684-failed", .service), ("modem-manager-unavailable", .service),
    ("ssid-not-found", .configuration), ("secondary-connection-failed", .dependency),
    ("dcb-fcoe-failed", .service), ("teamd-control-failed", .service), ("modem-failed", .hardware),
    ("modem-available", .none), ("sim-pin-incorrect", .authentication), ("new-activation", .lifecycle),
    ("parent-changed", .dependency), ("parent-managed-changed", .dependency),
    ("ovsdb-failed", .service), ("ip-address-duplicate", .addressAssignment),
    ("ip-method-unsupported", .configuration), ("sriov-configuration-failed", .configuration),
    ("peer-not-found", .dependency), ("device-handler-failed", .service),
    ("unmanaged-by-default", .lifecycle), ("unmanaged-external-down", .lifecycle),
    ("unmanaged-link-not-init", .lifecycle), ("unmanaged-quitting", .lifecycle),
    ("unmanaged-sleeping", .lifecycle), ("unmanaged-user-conf", .lifecycle),
    ("unmanaged-user-explicit", .lifecycle), ("unmanaged-user-settings", .lifecycle),
    ("unmanaged-user-udev", .lifecycle), ("networking-off", .lifecycle),
    ("modem-no-operator-code", .service)]

def deviceStateReason (code : ℕ) : TypedReason :=
  let spec := deviceReasons[code]?.getD ("unknown", .unknown)
  ⟨code, spec.1, spec.2⟩

namespace Waiting

open Admission (ConnectFailureReason)
open Connection (connectFailure)

/-! ## Observations -/

structure WifiActivationStatus : Type where
  iface : String
  deviceState : ℕ
  /-- the state the reason is for, and the reason -/
  deviceStateReason : ℕ × ℕ
  activeConnectionPath : Option String
  activeConnectionState : Option ℕ

def nmDeviceStateDisconnected : ℕ := 30
def nmDeviceStateActivated : ℕ := 100
def nmActiveConnectionStateActivated : ℕ := 2

namespace WifiActivationStatus

def activated (status : WifiActivationStatus) : Bool :=
  status.deviceState = nmDeviceStateActivated &&
    status.activeConnectionState = some nmActiveConnectionStateActivated

/-- Terminal if there was progress before. -/
def terminalFailureAfterProgress (status : WifiActivationStatus) : Bool :=
  status.deviceState ≤ nmDeviceStateDisconnected

/-- Why the device is in its state; 0 is no reason. -/
def reason (status : WifiActivationStatus) : ℕ := status.deviceStateReason.2

end WifiActivationStatus

structure Observation : Type where
  /-- the status of the device, if it could be read -/
  status : Option WifiActivationStatus
  ssidMatches : Bool
  /-- the active connection that was asked for, and its state if it has one -/
  requestedActivePath : Option String
  requestedActiveState : Option ℕ
  now : ℕ

def requestedActivationStopped (o : Observation) : Bool :=
  o.requestedActivePath.isSome && o.requestedActiveState.all fun state => state ≥ 3

/-! ## Reports -/

section

variable (target : WifiConnectTarget) (status : WifiActivationStatus)

def targetAppearsToNeedSecret : Bool :=
  (match target.security with
    | some .wpa | some .wpa2Or3 | some .wep => true
    | _ => false) || (target.hidden && target.security.isNone)

def activationFailureReason : ConnectFailureReason :=
  match status.reason with
  | 7 => .passwordUnavailable
  | 5 | 6 | 15 | 16 | 17 => .dhcpFailed
  | 53 => .notFound
  | 11 => .timeout
  | 8 | 9 | 10 => if targetAppearsToNeedSecret target then .wrongPassword else .activationFailed
  | _ => .activationFailed

def targetRadioDetails : String :=
  match target.bssid with
  | some bssid => " (BSSID " ++ bssid ++ ")"
  | none => ""

/-- The state and reason at the end of a message. -/
def stateText : String :=
  "device state " ++ toString status.deviceState ++ ", reason (" ++
    toString status.deviceStateReason.1 ++ ", " ++ toString status.deviceStateReason.2 ++
    "), active connection state " ++
    match status.activeConnectionState with
    | some state => "Some(" ++ toString state ++ ")"
    | none => "None"

/-- How long a supplicant may leave an access point alone after a wrong key. -/
def wpaWrongKeyRetrySeconds : ℕ := 10

/-- What a failure is called for the user. -/
def activationFailureMessage (reason : ConnectFailureReason) : String :=
  let network := target.ssid.display ++ targetRadioDetails target
  match reason with
  | .wrongPassword =>
    "wrong password for " ++ network ++ "; wpa_supplicant may ignore this AP for about " ++
      toString wpaWrongKeyRetrySeconds ++ " seconds before retrying is useful"
  | .passwordUnavailable =>
    "saved password unavailable for " ++ network ++
      "; NetworkManager requested secrets but no usable secret was provided"
  | .dhcpFailed =>
    "connected to Wi-Fi network " ++ network ++ " but DHCP/IP configuration failed on " ++
      status.iface
  | _ =>
    "connection activation failed for " ++ network ++ " on " ++ status.iface ++ ": " ++
      stateText status

/-- The report on a status. -/
def activationError (reason : ConnectFailureReason) (message : String) : ErrorReport :=
  let typedReason := NmDaemon.deviceStateReason status.reason
  let details : List (String × Json) :=
    [("ssid", .str target.ssid.display), ("device_iface", .str status.iface),
      ("device_state", .int status.deviceState), ("reason", .str typedReason.name),
      ("reason_category", .str typedReason.category.name), ("reason_code", .int typedReason.code)] ++
      (status.activeConnectionState.map fun state : ℕ => ("active_connection_state", Json.int state)).toList ++
      (target.bssid.map fun bssid => ("bssid", Json.str bssid)).toList
  { connectFailure reason message with
    details := details.foldl (fun fields e => Json.insertField e.1 e.2 fields) [] }

/-- The report on a failure with a status. -/
def failureReport : ErrorReport :=
  let reason := activationFailureReason target status
  activationError target status reason (activationFailureMessage target status reason)

end

/-! ## The wait -/

def activationFailureGrace : ℕ := 3000 * 10 ^ 6

structure PendingFailure : Type where
  since : ℕ
  status : WifiActivationStatus

structure ActivationWait : Type where
  sawProgress : Bool
  hasCurrentStatus : Bool
  pendingFailure : Option PendingFailure
  lastStatus : Option WifiActivationStatus

def ActivationWait.new : ActivationWait := ⟨false, false, none, none⟩

/-- The pending failure keeps its time, and the first reason that is one. -/
def latchPendingFailure (pending : Option PendingFailure) (status : WifiActivationStatus)
    (now : ℕ) : PendingFailure :=
  let pending := pending.getD ⟨now, status⟩
  if pending.status.reason = 0 ∧ status.reason ≠ 0 then { pending with status } else pending

namespace ActivationWait

/-- A status is there, and may show progress. -/
def noted (wait : ActivationWait) (status : WifiActivationStatus) (o : Observation) :
    ActivationWait :=
  { wait with
    hasCurrentStatus := true
    sawProgress := wait.sawProgress || (status.deviceState > 30 || o.requestedActivePath.isSome) }

def checkTerminalFailure (wait : ActivationWait) (target : WifiConnectTarget)
    (status : WifiActivationStatus) (o : Observation) :
    ActivationWait × Except ErrorReport Unit :=
  if wait.sawProgress && (status.terminalFailureAfterProgress || requestedActivationStopped o) then
    let pending := latchPendingFailure wait.pendingFailure status o.now
    ({ wait with pendingFailure := some pending },
      if o.now - pending.since < activationFailureGrace then .ok ()
      else .error (failureReport target pending.status))
  else ({ wait with pendingFailure := none }, .ok ())

/-- One observation: is the target active? -/
def observe (wait : ActivationWait) (target : WifiConnectTarget) (o : Observation) :
    ActivationWait × Except ErrorReport Bool :=
  match o.status with
  | none => ({ wait with hasCurrentStatus := false }, .ok o.ssidMatches)
  | some status =>
    if o.ssidMatches && status.activated then (wait.noted status o, .ok true)
    else
      match (wait.noted status o).checkTerminalFailure target status o with
      | (wait, .error e) => (wait, .error e)
      | (wait, .ok ()) => ({ wait with lastStatus := some status }, .ok false)

section Observe

variable {wait : ActivationWait} {target : WifiConnectTarget} {o : Observation}
  {status : WifiActivationStatus}

theorem observe_missing (hs : o.status = none) :
    wait.observe target o = ({ wait with hasCurrentStatus := false }, .ok o.ssidMatches) := by
  rw [observe, hs]

theorem observe_activated (hs : o.status = some status)
    (hdone : (o.ssidMatches && status.activated) = true) :
    wait.observe target o = (wait.noted status o, .ok true) := by
  rw [observe, hs]
  exact if_pos hdone

theorem observe_waiting (hs : o.status = some status)
    (hdone : (o.ssidMatches && status.activated) = false)
    (hcheck : ((wait.noted status o).sawProgress &&
      (status.terminalFailureAfterProgress || requestedActivationStopped o)) = false) :
    wait.observe target o =
      ({ wait.noted status o with pendingFailure := none, lastStatus := some status }, .ok false) := by
  rw [observe, hs]
  simp [hdone, checkTerminalFailure, hcheck]

/-- A failure is pending. -/
theorem observe_failing (hs : o.status = some status)
    (hdone : (o.ssidMatches && status.activated) = false)
    (hcheck : ((wait.noted status o).sawProgress &&
      (status.terminalFailureAfterProgress || requestedActivationStopped o)) = true) :
    let pending := latchPendingFailure wait.pendingFailure status o.now
    wait.observe target o =
      if o.now - pending.since < activationFailureGrace then
        ({ wait.noted status o with pendingFailure := some pending, lastStatus := some status },
          .ok false)
      else ({ wait.noted status o with pendingFailure := some pending },
        .error (failureReport target pending.status)) := by
  intro pending
  have hpending : latchPendingFailure (wait.noted status o).pendingFailure status o.now = pending := rfl
  rw [observe, hs]
  simp only [hdone, Bool.false_eq_true, if_false, checkTerminalFailure, hcheck, if_true, hpending]
  by_cases hyoung : o.now - pending.since < activationFailureGrace
  · simp only [if_pos hyoung]
  · simp only [if_neg hyoung]

end Observe

/-- The longest duration there is. -/
def durationMax : ℕ := (2 ^ 64 - 1) * 10 ^ 9 + 999999999

/-- `Deadline::wait_at`. -/
def waitAt (deadline now max : ℕ) : ℕ := min max (deadline - now)

/-- How long to wait for an event before the next observation. -/
def nextWake (wait : ActivationWait) (deadline now : ℕ) : ℕ :=
  let graceWait := (wait.pendingFailure.map fun pending =>
    activationFailureGrace - (now - pending.since)).filter fun remaining =>
      wait.hasCurrentStatus || remaining ≠ 0
  waitAt deadline now (graceWait.getD durationMax)

end ActivationWait

/-! ## A sequence of observations -/

inductive Verdict : Type where
  | connected
  | failed (report : ErrorReport)

/-- What has come of the observations so far. -/
structure Watch : Type where
  wait : ActivationWait
  verdict : Option Verdict

/-- One more observation, if nothing is decided. -/
def Watch.next (target : WifiConnectTarget) (watch : Watch) (o : Observation) : Watch :=
  match watch.verdict with
  | some _ => watch
  | none =>
    match watch.wait.observe target o with
    | (wait, .ok true) => ⟨wait, some .connected⟩
    | (wait, .ok false) => ⟨wait, none⟩
    | (wait, .error report) => ⟨wait, some (.failed report)⟩

def follow (target : WifiConnectTarget) (observations : List Observation) : Watch :=
  observations.foldl (Watch.next target) ⟨.new, none⟩

theorem follow_snoc (target : WifiConnectTarget) (before : List Observation) (o : Observation) :
    follow target (before ++ [o]) = (follow target before).next target o :=
  List.foldl_append

end Waiting

end NmDaemon
