import NmDaemon.Admission
import NmDaemon.Base.Client
import NmDaemon.Cli
import NmDaemon.Errors
import NmDaemon.Portal

/-!
# The connect workflow

`application.rs`: a connect request has a candidate and possibly alternatives, other access
points of the same network. The workflow tries the candidate and, if that failed for a
reason another access point may not share, one alternative. It reports what it does by
events, the last of which is the outcome.

The workflow is a program. It asks whether it was cancelled, has its events emitted, and
leaves each candidate to the connection machine: what comes back is the phases that were
reported on the way, and a result. Everything that is done with the error of a candidate is
done with its report, so that a report is what a candidate fails with.

Caching and logging, which are best effort, are left out, and so is the recovery prompt of
a result.
-/

namespace NmDaemon

namespace Connect

open Client (Prog ask lift)
open Admission (ConnectFailureReason)
open Portal (ConnectivityStatus)

/-! ## Results -/

/-- How far a connection is. -/
inductive ConnectPhase : Type where
  | starting
  | tryingAccessPoint
  | checkingActive
  | activatingSavedProfile
  | creatingProfile
  | rescanning
  | verifying
  | retryingAlternative
  | connected
  | failed
  | cancelled

inductive ConnectEnginePath : Type where
  | alreadyActive
  | dbus

structure ConnectCandidateInfo : Type where
  attempt : ℕ
  total : ℕ
  bssid : Option String
  band : Option String
  channel : Option ℕ
  strength : Option ℕ

inductive AttemptStatus : Type where
  | connected
  | failed
  deriving DecidableEq

structure ConnectAttemptSummary : Type where
  attempt : ℕ
  status : AttemptStatus
  reason : Option ConnectFailureReason
  bssid : Option String
  band : Option String
  channel : Option ℕ
  durationMs : ℕ
  message : String

structure ConnectResult : Type where
  connected : Bool
  reason : Option ConnectFailureReason
  path : Option ConnectEnginePath
  ssid : String
  message : String
  connectivity : Option ConnectivityStatus
  suggestOpenPortal : Bool
  attempts : List ConnectAttemptSummary
  fallbackUsed : Bool

namespace ConnectResult

/-- The result of a connection. -/
def succeeded (ssid message : String) (path : ConnectEnginePath)
    (connectivity : Option ConnectivityStatus) : ConnectResult :=
  { connected := true
    reason := none
    path := some path
    ssid
    message
    connectivity
    suggestOpenPortal := connectivity.any fun status => status.captivePortal
    attempts := []
    fallbackUsed := false }

def failed (ssid : String) (reason : ConnectFailureReason) (message : String) : ConnectResult :=
  { connected := false
    reason := some reason
    path := none
    ssid
    message
    connectivity := none
    suggestOpenPortal := false
    attempts := []
    fallbackUsed := false }

end ConnectResult

/-- The reason a failed connection is reported with, if its error has one. -/
def connectReason : ErrorCode → Option ConnectFailureReason
  | .validationError => some .validationError
  | .authorizationRequired => some .authorizationRequired
  | .notFound => some .notFound
  | .timeout => some .timeout
  | .cancelled | .activationFailed | .subprocessFailed => some .activationFailed
  | .secretRequired => some .secretRequired
  | .wrongPassword => some .wrongPassword
  | .passwordUnavailable => some .passwordUnavailable
  | .unsupportedAuth => some .unsupportedAuth
  | .dhcpFailed => some .dhcpFailed
  | .conflict | .outcomeUnknown | .networkmanagerUnavailable | .internalError | .unknown => none

/-- A hexadecimal digit; its letters start at `a`, a small or a capital one. -/
def hexDigit (a : Char) (n : ℕ) : Char := Char.ofNat (if n < 10 then 48 + n else a.toNat - 10 + n)

/-- The two digits of a byte. -/
def hexPair (a : Char) (b : UInt8) : List Char :=
  [hexDigit a (b.toNat / 16), hexDigit a (b.toNat % 16)]

def ssidHex (ssid : List UInt8) : String := String.ofList (ssid.flatMap (hexPair 'a'))

structure ConnectTargetIdentity : Type where
  networkKey : Option String
  ssid : String
  ssidBytes : List UInt8
  ssidHex : String
  deviceIface : Option String
  devicePath : Option String
  accessPointPath : Option String
  bssid : Option String

def ConnectTargetIdentity.fromTarget (target : WifiConnectTarget) (networkKey : Option String) :
    ConnectTargetIdentity :=
  { networkKey
    ssid := target.ssid.display
    ssidBytes := target.ssid.bytes
    ssidHex := Connect.ssidHex target.ssid.bytes
    deviceIface := target.ifname
    devicePath := target.devicePath
    accessPointPath := target.apPath
    bssid := target.bssid }

section

variable (request : ConnectRequest)

def identity : ConnectTargetIdentity :=
  .fromTarget request.candidate.target request.networkKey

def candidateInfo (candidate : ConnectCandidate) (attempt total : ℕ) : ConnectCandidateInfo :=
  { attempt
    total
    bssid := candidate.target.bssid
    band := candidate.band
    channel := candidate.channel
    strength := candidate.strength }

inductive ConnectOutcome : Type where
  | succeeded (result : ConnectResult)
  | failed (result : ConnectResult) (error : ErrorReport)
  | cancelled (message : String)

inductive ConnectEvent : Type where
  | started (phase : ConnectPhase) (target : ConnectTargetIdentity) (message : String)
  | progress (phase : ConnectPhase) (target : ConnectTargetIdentity) (message : String)
      (candidate : Option ConnectCandidateInfo) (previousReason : Option ConnectFailureReason)
  | finished (phase : ConnectPhase) (target : ConnectTargetIdentity) (outcome : ConnectOutcome)
  | cancelled (phase : ConnectPhase) (target : ConnectTargetIdentity) (message : String)

/-! ## The surroundings of the workflow -/

/-- The access point NetworkManager is connected to. -/
structure ActiveAccessPoint : Type where
  bssid : String
  band : String
  channel : ℕ
  strength : ℕ

inductive Ask : Type where
  /-- is the cancellation flag set? -/
  | cancelled
  | emit (event : ConnectEvent)
  /-- run the connection machine for a candidate -/
  | candidate (candidate : ConnectCandidate) (password : Option String)
      (wepKeyType : Option WepKeyType) (publishFailure : Bool)
  /-- the milliseconds since the candidate was started -/
  | elapsed
  /-- the active access point, if that can be found out -/
  | activeAccessPoint

abbrev Reply : Ask → Type
  | .cancelled => Bool
  | .emit _ => Except ErrorReport Unit
  | .candidate _ _ _ _ => List ConnectPhase × Except ErrorReport ConnectResult
  | .elapsed => ℕ
  | .activeAccessPoint => Option ActiveAccessPoint

abbrev Workflow (α : Type) : Type := ExceptT ErrorReport (Prog Ask Reply) α

def emit (event : ConnectEvent) : Workflow Unit := ask (.emit event) id

/-! ## Events -/

def connectPhaseMessage : ConnectPhase → String
  | .starting => "starting Wi-Fi connection"
  | .tryingAccessPoint => "trying Wi-Fi access point"
  | .checkingActive => "checking current Wi-Fi connection"
  | .activatingSavedProfile => "activating saved NetworkManager profile"
  | .creatingProfile => "creating NetworkManager Wi-Fi profile"
  | .rescanning => "rescanning for selected Wi-Fi network"
  | .verifying => "verifying Wi-Fi activation"
  | .retryingAlternative => "retrying an alternate Wi-Fi access point"
  | .connected => "Wi-Fi connection succeeded"
  | .failed => "Wi-Fi connection failed"
  | .cancelled => "Wi-Fi connection cancelled"

def cancelledConnect (message : String) : Workflow ConnectOutcome := do
  emit (.cancelled .cancelled (identity request) message)
  pure (.cancelled message)

def startConnect : Workflow (Option ConnectOutcome) := do
  emit (.started .starting (identity request) "starting Wi-Fi connection")
  if ← ask .cancelled .ok then
    some <$> cancelledConnect request "cancelled before connection attempt started"
  else pure none

def finishConnectCancellation : Workflow (Option ConnectOutcome) := do
  if ← ask .cancelled .ok then
    some <$> cancelledConnect request "connection attempt was cancelled"
  else pure none

/-- Which attempt this is. -/
def ordinal (candidate : ConnectCandidateInfo) : String :=
  "(attempt " ++ toString candidate.attempt ++ "/" ++ toString candidate.total ++ ")"

def candidateMessage (action : String) (candidate : ConnectCandidateInfo) : String :=
  match candidate.band, candidate.channel with
  | some band, some channel =>
    action ++ " " ++ band ++ " access point on channel " ++ toString channel ++ " " ++
      ordinal candidate
  | some band, none => action ++ " " ++ band ++ " access point " ++ ordinal candidate
  | none, _ => action ++ " Wi-Fi access point " ++ ordinal candidate

def emitTryingCandidate (target : ConnectTargetIdentity) (candidate : ConnectCandidateInfo) :
    Workflow Unit :=
  emit (.progress .tryingAccessPoint target (candidateMessage "trying" candidate) (some candidate)
    none)

def retryMessage (previous next : ConnectCandidateInfo) (reason : ConnectFailureReason) : String :=
  let failure :=
    match reason with
    | .dhcpFailed => "connected but did not receive an IP address"
    | .notFound => "became unavailable"
    | .timeout => "timed out"
    | _ => "failed"
  previous.band.getD "selected" ++ " access point " ++ failure ++ "; trying " ++
    next.band.getD "alternate"

def emitRetry (target : ConnectTargetIdentity) (previous next : ConnectCandidateInfo)
    (reason : ConnectFailureReason) : Workflow Unit :=
  emit (.progress .retryingAlternative target (retryMessage previous next reason) (some next)
    (some reason))

def emitFinishedConnect (outcome : ConnectOutcome) : Workflow Unit :=
  let phase : ConnectPhase :=
    match outcome with
    | .succeeded _ => .connected
    | .failed _ _ => .failed
    | .cancelled _ => .cancelled
  emit (.finished phase (identity request) outcome)

/-! ## Trying candidates -/

/-- Report the phases; the first one that cannot be reported ends the candidate. -/
def emitPhases (target : ConnectTargetIdentity) (candidate : ConnectCandidateInfo) :
    List ConnectPhase → Workflow Unit
  | [] => pure ()
  | phase :: rest => do
    emit (.progress phase target (connectPhaseMessage phase) (some candidate) none)
    emitPhases target candidate rest

/-- What a candidate comes to. Its failure is not that of the workflow. -/
def runConnectCandidate (candidate : ConnectCandidate)
    (publishFailure : Bool) (info : ConnectCandidateInfo) :
    Workflow (Except ErrorReport ConnectResult) := do
  let (phases, result) ←
    ask (.candidate candidate request.password request.wepKeyType publishFailure) .ok
  tryCatch (do emitPhases (identity request) info phases; pure result) fun error =>
    pure (.error error)

def retryableCandidateFailure : ConnectFailureReason → Bool
  | .dhcpFailed | .notFound | .timeout | .activationFailed => true
  | _ => false

/-- The reason of a failed attempt. -/
def failureReason (report : ErrorReport) : ConnectFailureReason :=
  (connectReason report.code).getD .unknown

def credentialFailure (report : ErrorReport) : Bool :=
  report.details.any fun detail => detail.1 = "credential_outcome"

def connectAttemptSummary (candidate : ConnectCandidateInfo) (status : AttemptStatus)
    (reason : Option ConnectFailureReason) (durationMs : ℕ) (message : String) :
    ConnectAttemptSummary :=
  { attempt := candidate.attempt
    status
    reason
    bssid := candidate.bssid
    band := candidate.band
    channel := candidate.channel
    durationMs
    message }

def recordFailedAttempt (attempts : List ConnectAttemptSummary) (candidate : ConnectCandidateInfo)
    (report : ErrorReport) : Workflow (List ConnectAttemptSummary) := do
  let durationMs ← ask .elapsed .ok
  pure (attempts ++ [connectAttemptSummary candidate .failed (some (failureReason report)) durationMs
    report.message])

def finalFailedConnectOutcome (error : ErrorReport)
    (attempts : List ConnectAttemptSummary) : ConnectOutcome :=
  .failed
    { ConnectResult.failed request.candidate.target.ssid.display (failureReason error)
        error.message with
      fallbackUsed := attempts.length > 1
      attempts }
    error

def activeCandidateInfo (accessPoint : ActiveAccessPoint) (attempt total : ℕ) :
    ConnectCandidateInfo :=
  { attempt
    total
    bssid := if accessPoint.bssid = "" then none else some accessPoint.bssid
    band := if accessPoint.band = "" then none else some accessPoint.band
    channel := if accessPoint.channel = 0 then none else some accessPoint.channel
    strength := some accessPoint.strength }

def recoveryMessage (ssid : String) (attempts : List ConnectAttemptSummary) : String :=
  let failedBand := ((attempts.find? fun attempt => attempt.status = .failed).bind
    fun attempt => attempt.band).getD "first access point"
  let connectedBand := (attempts.getLast?.bind fun attempt => attempt.band).getD
    "alternate access point"
  "Connected to " ++ ssid ++ " on " ++ connectedBand ++ " after " ++ failedBand ++ " failed"

/-- The outcome of an attempt that succeeded, with the access point that is active. -/
def successfulConnectOutcome (result : ConnectResult) (candidate : ConnectCandidateInfo)
    (attempts : List ConnectAttemptSummary) : Workflow ConnectOutcome := do
  let active ← ask .activeAccessPoint .ok
  let actual := (active.map fun accessPoint =>
    activeCandidateInfo accessPoint candidate.attempt candidate.total).getD candidate
  let durationMs ← ask .elapsed .ok
  let attempts := attempts ++
    [connectAttemptSummary actual .connected none durationMs result.message]
  let fallbackUsed := decide (actual.attempt > 1)
  pure (.succeeded
    { result with
      fallbackUsed
      attempts
      message := if fallbackUsed then recoveryMessage result.ssid attempts else result.message })

/-- What is left to do with a candidate that has come to an end: the outcome, or another
candidate to be tried. The outcome of a cancelled request was reported already. -/
inductive Verdict : Type where
  | reported (outcome : ConnectOutcome)
  | outcome (outcome : ConnectOutcome)
  | retry (report : ErrorReport) (attempts : List ConnectAttemptSummary)

/-- What comes after an attempt: an outcome, or another access point. -/
def judge (info : ConnectCandidateInfo)
    (attempts : List ConnectAttemptSummary) (result : Except ErrorReport ConnectResult)
    (alternative : Bool) : Workflow Verdict := do
  match ← finishConnectCancellation request with
  | some outcome => pure (.reported outcome)
  | none =>
    match result with
    | .ok result => .outcome <$> successfulConnectOutcome result info attempts
    | .error report =>
      if report.code = .cancelled then .reported <$> cancelledConnect request report.message
      else do
        let attempts ← recordFailedAttempt attempts info report
        if !credentialFailure report && retryableCandidateFailure (failureReason report) &&
            alternative then pure (.retry report attempts)
        else pure (.outcome (finalFailedConnectOutcome request report attempts))

/-- Try a candidate. -/
def tryCandidate (total : ℕ) (candidate : ConnectCandidate) (attempt : ℕ)
    (attempts : List ConnectAttemptSummary) (alternative : Bool) : Workflow Verdict := do
  let info := candidateInfo candidate attempt total
  emitTryingCandidate (identity request) info
  let result ← runConnectCandidate request candidate (total = 1) info
  judge request info attempts result alternative

/-- The request is over. -/
def finishConnect (outcome : ConnectOutcome) : Workflow ConnectOutcome := do
  emitFinishedConnect request outcome
  pure outcome

/-- Try a candidate, and then what is left of the alternatives. -/
def connectLoop (request : ConnectRequest) (total : ℕ) : List ConnectCandidate →
    ConnectCandidate → ℕ → List ConnectAttemptSummary → Workflow ConnectOutcome
  | [], candidate, attempt, attempts => do
    match ← tryCandidate request total candidate attempt attempts false with
    | .reported outcome => pure outcome
    | .outcome outcome => finishConnect request outcome
    -- there is no such verdict without an alternative
    | .retry report attempts =>
      finishConnect request (finalFailedConnectOutcome request report attempts)
  | next :: rest, candidate, attempt, attempts => do
    match ← tryCandidate request total candidate attempt attempts true with
    | .reported outcome => pure outcome
    | .outcome outcome => finishConnect request outcome
    | .retry report attempts => do
      emitRetry (identity request) (candidateInfo candidate attempt total)
        (candidateInfo next 2 total) (failureReason report)
      connectLoop request total rest next (attempt + 1) attempts

def connectInner : Workflow ConnectOutcome := do
  match ← startConnect request with
  | some outcome => pure outcome
  | none =>
    -- at most one alternative is tried, whatever the request has
    let alternatives := request.alternatives.take 1
    connectLoop request (1 + alternatives.length) alternatives request.candidate 1 []

end

end Connect

end NmDaemon
