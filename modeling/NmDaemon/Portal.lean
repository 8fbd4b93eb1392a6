import NmDaemon.Base.Json

/-!
# Captive-portal decisions

`portal.rs`: whether the user interface may open a browser on a captive portal. An
automatic launch needs proof: the caller's own connect request, finished with
success on the connection that is primary now. A manual launch needs none.

What the daemon takes from other crates is collected in `Externals`: the JSON text of
a value and the parsing of a URL.
-/

namespace NmDaemon

namespace Portal

inductive Mode : Type where
  | automatic
  | manual
  deriving DecidableEq

structure PrepareParams : Type where
  mode : Mode
  connectRequestId : Option String
  fallback : Bool

/-- What a launch is for, until when, and where to. -/
structure Intent : Type where
  launchId : String
  episode : String
  url : String
  reason : Mode
  expiresAtMs : ℕ

/-- The primary connection, as far as the portal looks at it. -/
structure PrimaryConnectionIdentity : Type where
  path : String
  uuid : String

/-- The connectivity, as far as the portal looks at it. -/
structure ConnectivityStatus : Type where
  captivePortal : Bool
  checkUri : Option String
  primaryConnection : Option PrimaryConnectionIdentity

/-- A parsed URL. -/
structure Url : Type where
  host : Option String
  username : String
  password : Option String
  text : String

/-- The parts of other crates. -/
structure Externals : Type where
  /-- `serde_json::to_string` -/
  encode : Json → String
  /-- `url::Url::parse` -/
  parseUrl : String → Option Url

variable (x : Externals)

/-- Unicode control characters. -/
def isControl (c : Char) : Bool := c.toNat < 0x20 || (0x7f ≤ c.toNat && c.toNat < 0xa0)

/-- Unicode white space. -/
def isWhitespace (c : Char) : Bool :=
  let n := c.toNat
  (9 ≤ n && n ≤ 13) || n = 0x20 || n = 0x85 || n = 0xa0 || n = 0x1680 ||
    (0x2000 ≤ n && n ≤ 0x200a) || n = 0x2028 || n = 0x2029 || n = 0x202f || n = 0x205f ||
    n = 0x3000

/-- The configured probe, if a browser may be given it. -/
def safeUrl (value : String) : Option String :=
  if value.utf8ByteSize > 4096 ∨
      value.toList.any (fun c => isControl c || isWhitespace c || c.toNat = 92) then none
  else if ¬ "http://".toList.isPrefixOf value.toList then none
  else
    match x.parseUrl value with
    | none => none
    | some parsed =>
      if parsed.host.isNone ∨ parsed.username ≠ "" ∨ parsed.password.isSome then none
      else some parsed.text

/-- The episode: NetworkManager's bus owner fences its restarts, the path of the active
connection fences reconnects. -/
def episodeContext (nmOwner : String) (status : ConnectivityStatus) :
    Except String (String × PrimaryConnectionIdentity) :=
  match status.primaryConnection with
  | none => .error "no primary connection"
  | some primary =>
    if nmOwner = "" ∨ primary.path = "/" ∨ primary.uuid = "" then
      .error "primary connection identity is unavailable"
    else .ok (x.encode (.arr [.str nmOwner, .str primary.path, .str primary.uuid]), primary)

/-- The result a finished connect request carries. -/
def proofResult (proof : Json) : Json := ((proof.index "event").index "data").index "result"

/-- What speaks against an automatic launch. -/
def automaticRefused (params : PrepareParams) (status : ConnectivityStatus) (proof : Json)
    (current : PrimaryConnectionIdentity) : Bool :=
  let result := proofResult proof
  let previous := (result.index "connectivity").index "primary_connection"
  params.fallback ∨
    status.captivePortal = false ∨
    proof.index "status" ≠ .str "finished" ∨
    proof.index "stream" ≠ .str "wifi.connect" ∨
    (proof.index "event").index "event" ≠ .str "succeeded" ∨
    result.index "suggest_open_portal" ≠ .bool true ∨
    previous.index "path" ≠ .str current.path ∨
    previous.index "uuid" ≠ .str current.uuid

/-- Ten seconds after `now`, if 64 bits hold it. -/
def expiry (now : ℕ) : ℕ := min (now + 10000) (2 ^ 64 - 1)

/-- Whether a launch may be prepared, and the intent for it. `launchId` is a fresh
random id, if there are random numbers to be had. -/
def validate (params : PrepareParams) (nmOwner : String) (status : ConnectivityStatus)
    (proof : Json) (launchId : Except String String) (now : ℕ) : Except String Intent :=
  match episodeContext x nmOwner status with
  | .error e => .error e
  | .ok (episode, current) =>
    if params.mode = .automatic ∧ automaticRefused params status proof current then
      .error ("automatic portal launch requires this caller's successful connect on the " ++
        "current captive connection")
    else if params.mode ≠ .automatic ∧ params.connectRequestId.isSome then
      .error "manual portal launch does not take a connect request"
    else
      match launchId with
      | .error e => .error e
      | .ok launchId =>
        .ok
          { launchId
            episode
            url := (status.checkUri.bind (safeUrl x)).getD "http://neverssl.com/"
            reason := params.mode
            expiresAtMs := expiry now }

/-- An automatic launch needs a finished request that succeeded. -/
theorem validate_automatic {params : PrepareParams} {nmOwner : String} {status : ConnectivityStatus}
    {proof : Json} {launchId : Except String String} {now : ℕ} {intent : Intent}
    (hmode : params.mode = .automatic)
    (h : validate x params nmOwner status proof launchId now = .ok intent) :
    proof.index "status" = .str "finished" ∧
      (proof.index "event").index "event" = .str "succeeded" := by
  unfold validate at h
  rcases hep : episodeContext x nmOwner status with e | ⟨episode, current⟩
  · simp [hep] at h
  simp only [hep] at h
  split_ifs at h with hrefused
  have haccepted : automaticRefused params status proof current = false := by
    simpa [hmode] using hrefused
  simp only [automaticRefused, decide_eq_false_iff_not, not_or, not_not] at haccepted
  exact ⟨haccepted.2.2.1, haccepted.2.2.2.2.1⟩

end Portal

end NmDaemon
