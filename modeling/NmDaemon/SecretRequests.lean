import NmDaemon.Activation
import NmDaemon.NetworkCredentials

/-!
# Secret requests and their answers

`daemon_secret.rs`, the parts that are about one request: what NetworkManager asks for, how
long its answers may be kept (`Policy`), and how a frontend's answer or a credential handed
over earlier becomes the reply. Nothing here is shared between threads.
-/

namespace NmDaemon

namespace Secrets

open Credentials

/-! ## Errors -/

/-- The errors of the bus interface that are used. -/
inductive FdoError : Type where
  | accessDenied (message : String)
  | failed (message : String)
  | notSupported (message : String)

/-- The errors NetworkManager understands. -/
inductive SecretAgentError : Type where
  | userCanceled (message : String)
  | noSecrets (message : String)
  | accessDenied (message : String)
  | failed (message : String)

/-- An error of the bus interface, as it is printed. -/
def FdoError.text : FdoError → String
  | .accessDenied message => "org.freedesktop.DBus.Error.AccessDenied: " ++ message
  | .failed message => "org.freedesktop.DBus.Error.Failed: " ++ message
  | .notSupported message => "org.freedesktop.DBus.Error.NotSupported: " ++ message

def SecretAgentError.ofFdo : FdoError → SecretAgentError
  | .accessDenied message => .accessDenied message
  | error => .failed error.text

/-! ## Retention -/

/-- How long the answers to a request may be kept. -/
structure Policy : Type where
  /-- the keys NetworkManager saves -/
  persistent : List String
  /-- some key is owned by an agent, and this agent owns nothing -/
  migrationRequired : Bool

namespace Policy

def empty : Policy := { persistent := [], migrationRequired := false }

def addKey (settings : ConnectionSettings) (section' : String) (policy : Policy) (key : String) :
    Except String Policy := do
  let retention ← flags settings section' key
  if section' = "wifi-p2p" ∧ retention &&& notSaved = 0 then
    throw "WPS enrollment requires explicit temporary policy"
  else if retention &&& (agentOwned ||| notSaved) = 0 then
    return { policy with persistent := key :: policy.persistent }
  else if retention &&& (agentOwned ||| notSaved) = agentOwned then
    return { policy with migrationRequired := true }
  else return policy

def fromRequest (settings : ConnectionSettings) (section' : String) (keys : List String) :
    Except String Policy :=
  if keys.isEmpty then .error "request has no supported credential names"
  else keys.foldlM (addKey settings section') empty

/-- Why a choice to save, or not to save, cannot be honoured. -/
def rejection (policy : Policy) (save : Bool) : Option String :=
  match save, policy.persistent.isEmpty, policy.migrationRequired with
  | false, false, _ => some "temporary-activation-required"
  | true, _, true => some "networkmanager-migration-required"
  | _, _, _ => none

end Policy

/-! ## Requests -/

def allowInteraction : UInt32 := 0x1

def requestNew : UInt32 := 0x2

/-- How long a frontend has to answer, in milliseconds. -/
def secretTimeout : ℕ := 90000

/-- A request of NetworkManager's. Its cancellation flag is shared and not part of it. -/
structure PendingSecretRequest : Type where
  deadline : ℕ
  /-- the scope of the activation it is for -/
  activation : Option ℕ
  saveSupported : Bool
  policy : Policy
  nmOwner : Option String
  id : String
  /-- what makes two requests compete -/
  key : String
  connectionPath : String
  settingName : String
  hints : List String
  secretKeys : List String
  flags : UInt32

namespace PendingSecretRequest

def keyFor (connectionPath settingName : String) : String :=
  connectionPath ++ "\n" ++ settingName

/-- A request as it comes in; policy and activation are found out later. -/
def new (now : ℕ) (id connectionPath settingName : String) (hints : List String)
    (flags : UInt32) : PendingSecretRequest where
  deadline := now + secretTimeout
  activation := none
  saveSupported := true
  policy := .empty
  nmOwner := none
  id := id
  key := keyFor connectionPath settingName
  connectionPath := connectionPath
  settingName := settingName
  hints := hints
  secretKeys := secretKeysFor settingName hints
  flags := flags

section

variable (request : PendingSecretRequest)

/-- The first half of `prepare`: which keys are asked for and how they may be kept. -/
def withPolicy (settings : ConnectionSettings) : Except SecretAgentError PendingSecretRequest :=
  let secretKeys :=
    match wirelessSecretKey settings request.settingName request.hints with
    | some key => [key]
    | none => request.secretKeys
  match Policy.fromRequest settings request.settingName secretKeys with
  | .error _ => .error (.noSecrets "Unsupported or ambiguous credential retention policy")
  | .ok policy =>
    .ok { request with
      secretKeys := secretKeys
      policy := policy
      saveSupported := !policy.persistent.isEmpty && !policy.migrationRequired }

/-- The keys a request asks for: for a wireless network those of its security. -/
def askedKeys (settings : ConnectionSettings) : List String :=
  match wirelessSecretKey settings request.settingName request.hints with
  | some key => [key]
  | none => request.secretKeys

theorem withPolicy_ok {request request' : PendingSecretRequest} {settings : ConnectionSettings}
    (h : request.withPolicy settings = .ok request') :
    ∃ policy, Policy.fromRequest settings request.settingName (request.askedKeys settings) =
        .ok policy ∧
      request' = { request with
        secretKeys := request.askedKeys settings
        policy := policy
        saveSupported := !policy.persistent.isEmpty && !policy.migrationRequired } := by
  simp only [withPolicy] at h
  split at h
  · cases h
  · rename_i policy hpolicy
    cases h
    exact ⟨policy, hpolicy, rfl⟩

/-- The second half of `prepare`: the activation the request is for and who made it. -/
def bound (owner : String) (activation : Option (ℕ × Activation.State)) : PendingSecretRequest where
  __ := request
  activation := activation.map Prod.fst
  nmOwner := some owner
  deadline :=
    match activation with
    | some (_, state) => min request.deadline state.credentialDeadline
    | none => request.deadline

def primarySecretKey : String :=
  request.secretKeys.head?.getD (defaultSecretKeyForSetting request.settingName)

end

end PendingSecretRequest

/-! ## Answers -/

/-- What is sent to a request that waits. -/
structure SecretResponse : Type where
  password : Option String
  values : Table String String
  save : Bool
  cancelled : Bool

/-- What is to be confirmed as stored once the reply was sent. -/
structure Save : Type where
  supplied : ConnectionSettings
  values : Table String String

section

variable (request : PendingSecretRequest)

/-- Only the keys NetworkManager saves are confirmed. What `storage.rs` reads for it from
NetworkManager is in `SecretStorage`. -/
def prepareSave (settings : ConnectionSettings) (values : Table String String) : Save where
  supplied := settings
  values := values.filterMap fun key value =>
    if key ∈ request.policy.persistent then some value else none

def secretValuePresent (connection : ConnectionSettings) (key : String) : Bool :=
  (text connection request.settingName key).any fun value => value ≠ ""

def requestValuesComplete (connection : ConnectionSettings) : Bool :=
  request.secretKeys.all (secretValuePresent request connection)

def applyPassword (connection : ConnectionSettings) (settingName key password : String) :
    Except FdoError ConnectionSettings :=
  match setText connection settingName key password with
  | .ok connection => .ok connection
  | .error _ => .error (.notSupported "Unsupported secret field or peer identity")

/-- Fill in what was handed over earlier; a value that is there is newer and stays. -/
def applyStoredValues (connection : ConnectionSettings)
    (stored : List (String × String)) : Except FdoError (ConnectionSettings × Bool) := do
  let connection ← stored.foldlM (fun connection (key, password) =>
    if secretValuePresent request connection key then .ok connection
    else applyPassword connection request.settingName key password) connection
  return (connection, requestValuesComplete request connection)

/-- The values of an answer; a lone password is for the primary key. -/
def responseValues (password : Option String)
    (values : Table String String) : Table String String :=
  match password.filter fun password => password ≠ "" with
  | none => values
  | some password =>
    if (values.lookup request.primarySecretKey).isSome then values
    else values.insert request.primarySecretKey password

def applyResponseValues (connection : ConnectionSettings) (request : PendingSecretRequest)
    (values : Table String String) : Except FdoError ConnectionSettings :=
  values.pairs.foldlM (fun connection (key, value) =>
    applyPassword connection request.settingName key value) connection

/-- The values of an answer that are written: those that were asked for. -/
def answeredValues (response : SecretResponse) : Table String String :=
  (responseValues request response.password response.values).filterMap
    fun key value => if key ∈ request.secretKeys ∧ value ≠ "" then some value else none

end

/-- The reply an answer makes, and what is to be confirmed as stored. -/
def applySecretResponse (connection : ConnectionSettings) (request : PendingSecretRequest)
    (response : SecretResponse) :
    Except SecretAgentError (ConnectionSettings × Option Save) :=
  if response.cancelled then .error (.userCanceled "secret request cancelled by frontend")
  else
    match request.policy.rejection response.save with
    | some reason => .error (.noSecrets reason)
    | none =>
      let values := answeredValues request response
      if values.pairs.isEmpty then
        .error (.noSecrets "secret request contained no requested values")
      else
        match applyResponseValues connection request values with
        | .error error => .error (.ofFdo error)
        | .ok connection =>
          if requestValuesComplete request connection = false then
            .error (.noSecrets "not all requested secrets were supplied")
          else if response.save = false then .ok (connection, none)
          else .ok (connection, some (prepareSave request connection values))

end Secrets

end NmDaemon
