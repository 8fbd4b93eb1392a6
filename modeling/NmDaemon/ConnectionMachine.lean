import NmDaemon.ConnectWorkflow

/-!
# The connection machine

`connect.rs`: one attempt to connect to a target. It activates a saved profile if there is a
usable one and creates one otherwise, with one scan in between if the target is not
visible, and then waits until the connection is up. A profile it created is its own until
that is verified: if the attempt fails before, the profile is deleted again.

The machine is a program; NetworkManager, the cancellation flag and whoever is told of the
progress answer its questions. Its own state is passed along, also with an error, since
what has to be cleaned up is read off it. Caching, the history of attempts and logging,
all best effort, are left out.
-/

namespace NmDaemon

namespace Connection

open Client (Prog ask lift)
open Admission (ConnectFailureReason)
open Portal (ConnectivityStatus)
open Connect (ConnectPhase ConnectEnginePath ConnectResult)

/-! ## Questions -/

/-- An activation NetworkManager has accepted. -/
structure WifiActivation : Type where
  profilePath : String
  activePath : String
  /-- the scope of the credential requests for it -/
  scope : ℕ

/-- The calls of a connection attempt. -/
inductive Ask : Type where
  /-- is the cancellation flag set? -/
  | cancelled
  | progress (phase : ConnectPhase)
  /-- is the target active already? -/
  | activeTargetMatches (target : WifiConnectTarget)
  | activateSaved (target : WifiConnectTarget) (password : Option String)
      (wepKeyType : Option WepKeyType)
  | addAndActivate (target : WifiConnectTarget) (password : Option String)
      (wepKeyType : Option WepKeyType)
  | targetVisible (target : WifiConnectTarget)
  | scan (ifname : Option String) (ssid : List UInt8)
  /-- wait until the target is active -/
  | waitActive (target : WifiConnectTarget) (activePath : Option String) (scope : Option ℕ)
  /-- the scope ends -/
  | dropScope (scope : ℕ)
  /-- a proxy for a profile; there is none if NetworkManager has changed -/
  | profileProxy (path : String)
  | delete (path : String)
  /-- the status after the connection is up, with its connectivity -/
  | activeStatus
  | connectivitySnapshot

abbrev Reply : Ask → Type
  | .cancelled => Bool
  | .progress _ | .scan _ _ | .waitActive _ _ _ | .profileProxy _ | .delete _ =>
    Except ErrorReport Unit
  | .activeTargetMatches _ | .targetVisible _ => Except ErrorReport Bool
  | .activateSaved _ _ _ | .addAndActivate _ _ _ => Except ErrorReport (Option WifiActivation)
  | .dropScope _ => Unit
  | .activeStatus => Option (Option ConnectivityStatus)
  | .connectivitySnapshot => Except ErrorReport ConnectivityStatus

abbrev Process (α : Type) : Type := ExceptT ErrorReport (Prog Ask Reply) α

/-! ## Errors -/

def errorCode : ConnectFailureReason → ErrorCode
  | .secretRequired => .secretRequired
  | .wrongPassword => .wrongPassword
  | .passwordUnavailable => .passwordUnavailable
  | .authorizationRequired => .authorizationRequired
  | .unsupportedAuth => .unsupportedAuth
  | .validationError => .validationError
  | .notFound => .notFound
  | .timeout => .timeout
  | .dhcpFailed => .dhcpFailed
  | .activationFailed => .activationFailed
  | .unknown => .unknown

def connectFailure (reason : ConnectFailureReason) (message : String) : ErrorReport :=
  ⟨errorCode reason, .connect, .networkManager, message, []⟩

def checkCancelled : Process Unit :=
  ask .cancelled fun
    | true => .error ⟨.cancelled, .connect, .cancellation, "connection attempt cancelled", []⟩
    | false => .ok ()

def isHexDigit (c : Char) : Bool :=
  ('0' ≤ c && c ≤ '9') || ('a' ≤ c && c ≤ 'f') || ('A' ≤ c && c ≤ 'F')

/-- Six pairs of hexadecimal digits with separators between them. -/
def looksLikeBssid (value : String) : Bool :=
  let isSeparator := fun c : Char => c = ':' || c = '-'
  value.toList.countP isSeparator = 5 &&
    (value.toList.splitOnP isSeparator).all fun part => part.length = 2 && part.all isHexDigit

/-- What is wrong with a target. -/
def validate (target : WifiConnectTarget) : Except String Unit :=
  if target.hidden && target.bssid.isNone && looksLikeBssid target.ssid.display then
    .error ("hidden Wi-Fi target must be an SSID, but '" ++ target.ssid.display ++
      "' looks like a BSSID")
  else .ok ()

/-! ## States -/

inductive ProfileKind : Type where
  | saved
  | created

inductive ConnectionState : Type where
  | alreadyActive
  | savedProfile
  | createProfile
  | rescan
  | verify (kind : ProfileKind)

def ConnectionState.phase : ConnectionState → ConnectPhase
  | .alreadyActive => .checkingActive
  | .savedProfile => .activatingSavedProfile
  | .createProfile => .creatingProfile
  | .rescan => .rescanning
  | .verify _ => .verifying

structure ActivationOutcome : Type where
  message : String
  path : ConnectEnginePath

inductive StateTransition : Type where
  | next (state : ConnectionState)
  | connected (outcome : ActivationOutcome)

/-- What the machine remembers. -/
structure Machine : Type where
  rescanned : Bool
  /-- the profile it has to delete if it fails -/
  createdConnection : Option String
  activationPath : Option String
  activationScope : Option ℕ

def Machine.new : Machine := ⟨false, none, none, none⟩

/-- A part that can fail, with what the machine remembers then. -/
abbrev Stateful (α : Type) : Type := ExceptT (ErrorReport × Machine) (Prog Ask Reply) α

/-- A part that leaves the machine as it is. -/
def within {α : Type} (m : Machine) (p : Process α) : Stateful α :=
  Prog.bind p fun r => .done (r.mapError fun e => (e, m))

/-- The outcome of a part that can fail, to go on with either way. -/
def attempt {α : Type} (p : Stateful α) : Process (Except (ErrorReport × Machine) α) :=
  Prog.bind p fun r => .done (.ok r)

variable (target : WifiConnectTarget) (password : Option String) (wepKeyType : Option WepKeyType)

/-! ## Steps -/

def checkAlreadyActive : Process StateTransition := do
  let active ← ask (.activeTargetMatches target) .ok
  match active with
  | .ok true =>
    if password.isNone && target.enterprise.isNone then
      pure (.connected ⟨"Already connected to " ++ target.ssid.display, .alreadyActive⟩)
    else pure (.next .savedProfile)
  | _ => pure (.next .savedProfile)

/-- The machine with an activation it has to wait for. -/
def Machine.activating (m : Machine) (activation : WifiActivation) : Machine :=
  { m with activationPath := some activation.activePath, activationScope := some activation.scope }

def activateSavedProfile (m : Machine) : Process (StateTransition × Machine) := do
  match ← ask (.activateSaved target password wepKeyType) id with
  | some activation => pure (.next (.verify .saved), m.activating activation)
  | none => pure (.next .createProfile, m)

def targetVisibility : Process (Option Bool) :=
  if target.hidden then pure (some false)
  else ask (.targetVisible target) fun r => .ok r.toOption

def shouldRescan (m : Machine) (targetVisible : Option Bool) : Bool :=
  !m.rescanned && !target.hidden && targetVisible ≠ some true

def unavailableActivationError (targetVisible : Option Bool) : ErrorReport :=
  connectFailure
    (if !target.hidden && targetVisible = some true then .unsupportedAuth else .notFound)
    ("no supported D-Bus activation path is available for " ++ target.ssid.display)

def createProfile (m : Machine) : Process (StateTransition × Machine) := do
  match ← ask (.addAndActivate target password wepKeyType) id with
  | some activation =>
    pure (.next (.verify .created),
      { m.activating activation with createdConnection := some activation.profilePath })
  | none => do
    let targetVisible ← targetVisibility target
    if shouldRescan target m targetVisible then pure (.next .rescan, m)
    else throw (unavailableActivationError target targetVisible)

/-- The scope of the credential requests ends. -/
def takeScope (m : Machine) : Process Machine :=
  match m.activationScope with
  | some scope => ask (.dropScope scope) fun _ => .ok { m with activationScope := none }
  | none => pure m

/-- The connection is up. From here on a created profile is kept. -/
def verify (kind : ProfileKind) (m : Machine) : Process (StateTransition × Machine) := do
  ask (.waitActive target m.activationPath m.activationScope) id
  let m ← takeScope m
  match kind with
  | .saved =>
    pure (.connected ⟨"Connected to saved network " ++ target.ssid.display ++ " via D-Bus", .dbus⟩, m)
  | .created =>
    pure (.connected ⟨"Connected to Wi-Fi network " ++ target.ssid.display ++ " via D-Bus", .dbus⟩,
      { m with createdConnection := none })

/-- What a state does: it calls NetworkManager and says which state is next. -/
def step (state : ConnectionState) (m : Machine) : Stateful (StateTransition × Machine) :=
  match state with
  | .alreadyActive => within m do
    let transition ← checkAlreadyActive target password
    pure (transition, m)
  | .savedProfile => within m (activateSavedProfile target password wepKeyType m)
  | .createProfile => within m (createProfile target password wepKeyType m)
  | .rescan =>
    let m := { m with rescanned := true }
    within m do
      ask (.scan target.ifname target.ssid.bytes) id
      pure (.next .savedProfile, m)
  | .verify kind => within m (verify target kind m)

/-- How many more states there can be. -/
def rank (state : ConnectionState) (m : Machine) : ℕ :=
  match state, m.rescanned with
  | .alreadyActive, _ => 6
  | .savedProfile, false => 5
  | .createProfile, false => 4
  | .rescan, _ => 3
  | .savedProfile, true => 2
  | .createProfile, true => 1
  | .verify _, _ => 0

/-- State after state. More than `rank` fuel does not run out. -/
def runStates : ℕ → ConnectionState → Machine → Stateful (ActivationOutcome × Machine)
  | 0, _, m => throw (connectFailure .unknown "out of fuel", m)
  | fuel + 1, state, m => do
    within m checkCancelled
    within m (ask (.progress state.phase) id)
    match ← step target password wepKeyType state m with
    | (.next next, m) => runStates fuel next m
    | (.connected outcome, m) => pure (outcome, m)

/-! ## The whole attempt -/

/-- Delete the profile that was created and not verified. -/
def cleanupCreatedConnection (m : Machine) : Process Unit :=
  match m.createdConnection with
  | none => pure ()
  | some path => do
    let proxy ← ask (.profileProxy path) .ok
    match proxy with
    | .error _ => pure ()
    | .ok _ => ask (.delete path) fun _ => .ok ()

def finishSuccess (outcome : ActivationOutcome) : Process ConnectResult := do
  checkCancelled
  let status ← ask .activeStatus .ok
  let connectivity ← match status.join with
    | some connectivity => pure (some connectivity)
    | none => ask .connectivitySnapshot fun r => .ok r.toOption
  pure (.succeeded target.ssid.display outcome.message outcome.path connectivity)

/-- What is done after the last state. -/
def finish : Except (ErrorReport × Machine) (ActivationOutcome × Machine) → Process ConnectResult
  | .ok (outcome, _) => finishSuccess target outcome
  | .error (error, m) => do
    let m ← takeScope m
    cleanupCreatedConnection m
    throw error

def connectTarget : Process ConnectResult := do
  checkCancelled
  lift ((validate target).mapError fun message =>
    ⟨.validationError, .connect, .internal, message, []⟩)
  let result ← attempt (runStates target password wepKeyType 7 .alreadyActive .new)
  finish target result

end Connection

end NmDaemon
