import NmDaemon.Admission
import NmDaemon.NetworkEntries
import NmDaemon.WifiSettings

/-!
# The credentials of a connect request

`daemon_connect.rs` and the part of `application.rs` that builds requests: a client asks to
connect by the key of a network or by an exact target, with a password, an enterprise object,
both or neither. The parameters are read twice. Admission reads them as they came, to see
whether credentials are among them: after a failure of the saved credentials a request without
any is refused. The worker reads them later, once the networks around are known, and makes the
candidates that are then tried.

* `bare_resolveConnectCandidates` — a candidate made for a network has no password of its own;
* `intoRequest_exact`, `intoRequest_key` — the candidates of either form, and what they carry;
* `admitAttempt_supplied` — whom admission does not ask for credentials;
* `supplied_counts_iff` — the two readings agree unless the only credentials are those inside
  an exact target.
-/

namespace NmDaemon

namespace ConnectParams

open Fallible Networks
open NmDaemon.Runtime (SsidBytes)
open Admission (ConnectAdmission ConnectAttemptKey ConnectAttemptPolicy)
open Connect (ConnectTargetIdentity)
open Wifi (WifiProfileDetails classify personalKeyManagement enterpriseKeyMgmt
  parseTargetBssid eqIgnoreAsciiCase candidateMatchesProfileRestrictions)
open WifiSettings (EnterpriseAuth TargetProfileSettings)

/-! ## Targets and requests -/

/-- A target with its credentials and what it says of the profile. -/
structure ConnectTarget : Type extends WifiSettings.Target where
  apPath : Option String
  bssid : Option String
  ifname : Option String
  devicePath : Option String
  security : Option Security

structure Candidate : Type where
  target : ConnectTarget
  band : Option String
  channel : Option ℕ
  strength : Option ℕ

structure Request : Type where
  networkKey : Option String
  password : Option String
  wepKeyType : Option WepKeyType
  candidate : Candidate
  alternatives : List Candidate

structure DbusConnectTargetParams : Type where
  remember : Option Bool
  key : Option String
  target : Option ConnectTarget
  password : Option String
  wepKeyType : Option WepKeyType
  enterpriseIdentity : Option String
  enterprise : Option EnterpriseAuth

/-- What is decided elsewhere. -/
structure Env : Type where
  /-- an untyped error with a message -/
  raise : String → AnyError
  displaySsid : SsidBytes → String
  /-- is it the path of an object? -/
  parseObjectPath : String → Except AnyError String
  /-- the records that the credentials and the profile settings are on the wire -/
  enterpriseRecord : EnterpriseAuth → Json
  profileRecord : TargetProfileSettings → Json
  /-- the hash of the serialised parameters -/
  credentialFingerprint : DbusConnectTargetParams → Except AnyError UInt64

/-- What NetworkManager says while a request is built. -/
structure Reads : Type where
  listAllAccessPoints : Except AnyError (List ListedAccessPoint)
  compatibleProfileMatches : List ListedAccessPoint → Except AnyError ProfileMatches
  wifiProfileDetailsByPath : String → Except AnyError WifiProfileDetails

variable (env : Env)

/-- The target as the rest of the daemon passes it on. -/
def ConnectTarget.wire (target : ConnectTarget) : WifiConnectTarget where
  ssid := target.ssid
  apPath := target.apPath
  bssid := target.bssid
  ifname := target.ifname
  devicePath := target.devicePath
  connectionName := target.connectionName
  isPrivate := target.isPrivate
  hidden := target.hidden
  security := target.security
  keyMgmt := target.keyMgmt
  enterprise := target.enterprise.map env.enterpriseRecord
  profile := env.profileRecord target.profile

def Candidate.wire (candidate : Candidate) : ConnectCandidate :=
  ⟨candidate.target.wire env, candidate.band, candidate.channel, candidate.strength⟩

def Candidate.fromTarget (target : ConnectTarget) : Candidate := ⟨target, none, none, none⟩

def Candidate.fromAccessPoint (target : ConnectTarget) (ap : ListedAccessPoint) : Candidate where
  target
  band := if ap.band = "" then none else some ap.band
  channel := if ap.channel = 0 then none else some ap.channel
  strength := some ap.strength

def Request.single (target : ConnectTarget) (password : Option String)
    (wepKeyType : Option WepKeyType) : Request :=
  ⟨none, password, wepKeyType, .fromTarget target, []⟩

/-- The candidate and its alternatives. -/
def Request.candidates (request : Request) : List Candidate :=
  request.candidate :: request.alternatives

/-- A change to the candidate and to every alternative. -/
def Request.eachCandidate (f : Candidate → Candidate) (request : Request) : Request :=
  { request with
    candidate := f request.candidate
    alternatives := request.alternatives.map f }

theorem Request.candidates_eachCandidate (f : Candidate → Candidate) (request : Request) :
    (request.eachCandidate f).candidates = request.candidates.map f := rfl

/-! ## Targets for a network -/

def noEnterprise : EnterpriseAuth :=
  ⟨[], none, none, none, none, none, none, none, none, [], none, none, none, none, none, none,
    none, none, none, none, none, none, none, none⟩

def defaultEnterpriseAuth (identity : String) : EnterpriseAuth :=
  { noEnterprise with
    eap := ["peap"]
    identity := some identity
    phase2Auth := some "mschapv2" }

def noProfileSettings : TargetProfileSettings := ⟨none, none, none, none, none, none, none, none⟩

def connectTargetForSsid (ssid : Ssid) : ConnectTarget where
  ssid
  connectionName := none
  isPrivate := false
  hidden := false
  keyMgmt := none
  enterprise := none
  profile := noProfileSettings
  apPath := none
  bssid := none
  ifname := none
  devicePath := none
  security := none

/-- An untyped error for a message. -/
def untyped {α : Type} (x : Except String α) : Except AnyError α := x.mapError env.raise

def connectTargetForNetworkKey (key : String) (enterpriseIdentity : Option String) :
    Except AnyError ConnectTarget := do
  let target := connectTargetForSsid (← untyped env (ssidForNetworkKey env.displaySsid key))
  pure { target with
    enterprise := (enterpriseIdentity.map defaultEnterpriseAuth).or target.enterprise }

/-- The key managements that an unsaved network can be created with. -/
def keyManagement (network : NetworkEntry) : List String :=
  if network.hasProfile then []
  else
    let ap := network.accessPoint
    match classify ap.flags ap.wpaFlags ap.rsnFlags with
    | .personal => [personalKeyManagement ap.wpaFlags ap.rsnFlags]
    | .wep => ["none"]
    | .enterprise => [enterpriseKeyMgmt ap.wpaFlags ap.rsnFlags]
    | .opened | .owe | .unsupported => []

/-- The defaults of the prompt: only a network that requires enterprise fields has them. -/
def enterpriseDefaults (network : NetworkEntry) : Option EnterpriseAuth :=
  if network.hasProfile then none
  else
    let ap := network.accessPoint
    match classify ap.flags ap.wpaFlags ap.rsnFlags with
    | .enterprise =>
      some { noEnterprise with
        eap := ["peap"]
        phase2Auth := some "mschapv2"
        keyMgmt := some (enterpriseKeyMgmt ap.wpaFlags ap.rsnFlags) }
    | .opened | .owe | .personal | .wep | .unsupported => none

def enterpriseAuthForNetwork (network : NetworkEntry) (identity : Option String) :
    Option EnterpriseAuth :=
  identity.map fun identity =>
    { (enterpriseDefaults network).getD (defaultEnterpriseAuth identity) with
      identity := some identity }

/-- `InterfaceName::parse` -/
def parseInterfaceName (value : String) : Except String String :=
  if value = "" || 15 < value.utf8ByteSize ||
      value.toList.any (fun c => Portal.isWhitespace c || c = '/' || c.toNat = 0) then
    .error ("invalid network interface name '" ++ value ++ "'")
  else .ok value

/-- A field of an access point, if it is there. -/
def parseFilled (parse : String → Except AnyError String) (value : String) :
    Except AnyError (Option String) :=
  if value = "" then .ok none else (parse value).map some

def connectTargetForNetworkAccessPoint (network : NetworkEntry) (ap : ListedAccessPoint)
    (enterpriseIdentity : Option String) : Except AnyError ConnectTarget := do
  let ssid ← untyped env (ssidFromBytes env.displaySsid ap.exactSsid)
  let apPath ← parseFilled env.parseObjectPath ap.path
  let bssid ← parseFilled (fun value => untyped env (parseTargetBssid value)) ap.bssid
  let ifname ← parseFilled (fun value => untyped env (parseInterfaceName value)) ap.deviceIface
  let devicePath ← parseFilled env.parseObjectPath ap.devicePath
  pure { connectTargetForSsid ssid with
    apPath, bssid, ifname, devicePath
    security := some ap.security
    keyMgmt := (keyManagement network).head?
    enterprise := enterpriseAuthForNetwork network enterpriseIdentity }

def connectTargetForNetwork (network : NetworkEntry) (enterpriseIdentity : Option String) :
    Except AnyError ConnectTarget :=
  connectTargetForNetworkAccessPoint env network network.accessPoint enterpriseIdentity

/-! ## Candidates -/

/-- Another band first, then the strongest signal, then the address. -/
def alternativeLe (primary a b : ListedAccessPoint) : Bool :=
  ((compare (decide (a.band = primary.band)).toNat (decide (b.band = primary.band)).toNat).then
    ((compare b.strength a.strength).then
      (compareBytes a.bssid.toUTF8.data.toList b.bssid.toUTF8.data.toList))).isLE

def rankedAlternatives (primary : ListedAccessPoint) (accessPoints : List ListedAccessPoint) :
    List ListedAccessPoint :=
  (accessPoints.filter fun ap =>
    ap.path ≠ primary.path || !eqIgnoreAsciiCase ap.bssid primary.bssid).mergeSort
      (alternativeLe primary)

/-- The access point of a network, and the others to try after it. -/
def resolveConnectCandidates (network : Option NetworkEntry) (key : String)
    (enterpriseIdentity : Option String) : Except AnyError (Candidate × List Candidate) :=
  match network with
  | none =>
    if ¬key.toList.contains '|' then do
      -- keys of the first protocol name only an SSID: there is no group of access points
      let target ← connectTargetForNetworkKey env key enterpriseIdentity
      pure (.fromTarget target, [])
    else
      .error (.ofDomain ((DomainError.validation .connect
        "selected Wi-Fi network is no longer available; refresh the network list").withDetail
          "network_key" (.str key)))
  | some network => do
    let target ← connectTargetForNetwork env network enterpriseIdentity
    let alternatives ← (rankedAlternatives network.accessPoint network.accessPoints).mapM
      fun ap => do
        let target ← connectTargetForNetworkAccessPoint env network ap enterpriseIdentity
        pure (Candidate.fromAccessPoint target ap)
    pure (.fromAccessPoint target network.accessPoint, alternatives)

/-- A fallback must be one that the saved profile allows, and there is none if that is not known. -/
def constrainAlternativesToSavedProfile (reads : Reads) (network : NetworkEntry)
    (alternatives : List Candidate) : List Candidate :=
  match network.primaryProfile with
  | none => alternatives
  | some profile =>
    match reads.wifiProfileDetailsByPath profile.path with
    | .error _ => []
    | .ok details =>
      alternatives.filter fun candidate =>
        candidateMatchesProfileRestrictions (candidate.wire env) details

def connectValidationError (error : AnyError) : AnyError :=
  ⟨error.display :: error.chain, .inl (.validation .connect error.display)⟩

/-- `WifiConnectTarget::validate` -/
def validateTarget (target : ConnectTarget) : Except AnyError Unit :=
  untyped env (Connection.validate (target.wire env))

def networkEntriesForAccessPoints (reads : Reads) (accessPoints : List ListedAccessPoint) :
    Except AnyError (List NetworkEntry) := do
  pure (networkEntriesWithProfileMatches accessPoints
    (← reads.compatibleProfileMatches accessPoints))

/-- The request for a key that a client got from a list of networks. -/
def connectRequestForKey (reads : Reads) (key : String) (password : Option String)
    (wepKeyType : Option WepKeyType) (enterpriseIdentity : Option String) :
    Except AnyError Request :=
  (do
    let accessPoints ← reads.listAllAccessPoints
    let networks ← networkEntriesForAccessPoints reads accessPoints
    let network := networks.find? fun network => network.key = key
    let (candidate, alternatives) ← resolveConnectCandidates env network key enterpriseIdentity
    let request : Request :=
      { networkKey := some key
        password
        wepKeyType
        candidate
        alternatives := network.elim alternatives fun network =>
          constrainAlternativesToSavedProfile env reads network alternatives }
    (validateTarget env request.candidate.target).mapError connectValidationError
    pure request : Except AnyError Request).mapError (AnyError.ensureDomain .connect)

/-! ## The two readings of the parameters -/

namespace DbusConnectTargetParams

variable (params : DbusConnectTargetParams)

def validatedIdentity : Except AnyError ConnectTargetIdentity :=
  match params.key, params.target with
  | some key, none => do
    let target ← connectTargetForNetworkKey env key none
    pure (.fromTarget (target.wire env) (some key))
  | none, some target => do
    validateTarget env target
    pure (.fromTarget (target.wire env) none)
  | some _, some _ =>
    .error (env.raise "connect request must provide either key or target, not both")
  | none, none => .error (env.raise "connect request must provide key or target")

/-- Are there credentials? A target's own are not looked at. -/
def suppliedCredentials : Bool := params.password.isSome || params.enterprise.isSome

def attemptKey (identity : ConnectTargetIdentity) : Except AnyError ConnectAttemptKey := do
  let name := identity.networkKey.getD
    (identity.ssidHex ++ ":" ++ identity.deviceIface.getD "" ++ ":" ++ identity.bssid.getD "")
  pure ⟨name, ← env.credentialFingerprint params, params.suppliedCredentials⟩

/-- The enterprise object of the request for one candidate. -/
def setEnterprise (enterprise : EnterpriseAuth) (candidate : Candidate) : Candidate :=
  { candidate with
    target := { candidate.target with
      enterprise := some { enterprise with
        keyMgmt := enterprise.keyMgmt.or (candidate.target.enterprise.bind (·.keyMgmt)) } } }

def setRemember (remember : Option Bool) (candidate : Candidate) : Candidate :=
  { candidate with
    target := { candidate.target with
      profile := { candidate.target.profile with remember } } }

/-- The request that the parameters stand for: a target, or a key. -/
def intoRequest (reads : Reads) : Except AnyError Request :=
  match params.target with
  | some target =>
    let target :=
      if params.remember.isSome then
        { target with profile := { target.profile with remember := params.remember } }
      else target
    .ok (.single target params.password params.wepKeyType)
  | none => do
    let enterpriseIdentity := params.enterpriseIdentity.or (params.enterprise.bind (·.identity))
    let request ← connectRequestForKey env reads (params.key.getD "") params.password
      params.wepKeyType enterpriseIdentity
    let request := request.eachCandidate (setRemember params.remember)
    pure (params.enterprise.elim request fun enterprise =>
      request.eachCandidate (setEnterprise enterprise))

end DbusConnectTargetParams

/-- Why no task is started for a request. -/
inductive Refusal : Type where
  | invalid (error : AnyError)
  | admission (reason : ConnectAdmission)

/-- `start_connect_target` up to its task: the request is checked and then admitted. -/
def startConnectTarget (params : DbusConnectTargetParams) (policy : ConnectAttemptPolicy)
    (now : Admission.Instant) : ConnectAttemptPolicy × Except Refusal ConnectAttemptKey :=
  match params.validatedIdentity env >>= params.attemptKey env with
  | .error error => (policy, .error (.invalid (connectValidationError error)))
  | .ok attempt =>
    let (policy, answer) := policy.admitAttempt attempt now
    (policy, (answer.mapError .admission).map fun _ => attempt)

/-! ## Candidates for a network -/

/-- No password of its own. -/
def Bare (enterprise : Option EnterpriseAuth) : Prop := ∀ e ∈ enterprise, e.password = none

theorem bare_none : Bare none := fun _ h => absurd h (Option.not_mem_none _)

theorem bare_some {e : EnterpriseAuth} (h : e.password = none) : Bare (some e) := by
  intro e' he
  cases he
  exact h

theorem bare_enterpriseDefaults (network : NetworkEntry) : Bare (enterpriseDefaults network) := by
  unfold enterpriseDefaults
  split
  · exact bare_none
  · dsimp only
    split
    · exact bare_some rfl
    all_goals exact bare_none

theorem bare_enterpriseAuthForNetwork (network : NetworkEntry) (identity : Option String) :
    Bare (enterpriseAuthForNetwork network identity) := by
  rcases identity with _ | identity
  · exact bare_none
  · refine bare_some ?_
    rcases hdefaults : enterpriseDefaults network with _ | defaults
    · rfl
    · exact bare_enterpriseDefaults network defaults (by rw [hdefaults]; rfl)

variable {env}

variable {identity : Option String} {key : String} {target : ConnectTarget}

theorem bare_connectTargetForNetworkKey
    (h : connectTargetForNetworkKey env key identity = .ok target) : Bare target.enterprise := by
  obtain ⟨ssid, -, h⟩ := bind_eq_ok.mp h
  cases h
  rcases identity with _ | identity
  · exact bare_none
  · exact bare_some rfl

theorem bare_connectTargetForNetworkAccessPoint {network : NetworkEntry} {ap : ListedAccessPoint}
    (h : connectTargetForNetworkAccessPoint env network ap identity = .ok target) :
    Bare target.enterprise := by
  obtain ⟨ssid, -, h⟩ := bind_eq_ok.mp h
  obtain ⟨apPath, -, h⟩ := bind_eq_ok.mp h
  obtain ⟨bssid, -, h⟩ := bind_eq_ok.mp h
  obtain ⟨ifname, -, h⟩ := bind_eq_ok.mp h
  obtain ⟨devicePath, -, h⟩ := bind_eq_ok.mp h
  cases h
  exact bare_enterpriseAuthForNetwork network identity

theorem bare_resolveConnectCandidates {network : Option NetworkEntry} {candidate : Candidate}
    {alternatives : List Candidate}
    (h : resolveConnectCandidates env network key identity = .ok (candidate, alternatives)) :
    ∀ c ∈ candidate :: alternatives, Bare c.target.enterprise := by
  unfold resolveConnectCandidates at h
  rcases network with _ | network
  · dsimp only at h
    split at h
    · obtain ⟨target, htarget, h⟩ := bind_eq_ok.mp h
      cases h
      intro c hc
      cases List.mem_singleton.mp hc
      exact bare_connectTargetForNetworkKey htarget
    · cases h
  · obtain ⟨target, htarget, h⟩ := bind_eq_ok.mp h
    obtain ⟨others, hothers, h⟩ := bind_eq_ok.mp h
    cases h
    intro c hc
    rcases List.mem_cons.mp hc with rfl | hc
    · exact bare_connectTargetForNetworkAccessPoint htarget
    · obtain ⟨ap, -, hc⟩ := (mapM_eq_ok hothers).1 c hc
      obtain ⟨target, htarget, hc⟩ := bind_eq_ok.mp hc
      cases hc
      exact bare_connectTargetForNetworkAccessPoint htarget

theorem constrained_subset (reads : Reads) (network : NetworkEntry)
    (alternatives : List Candidate) :
    constrainAlternativesToSavedProfile env reads network alternatives ⊆ alternatives := by
  unfold constrainAlternativesToSavedProfile
  split
  · exact List.Subset.refl _
  · split
    · exact List.nil_subset _
    · exact List.filter_subset_self _

theorem connectRequestForKey_ok {reads : Reads} {password : Option String}
    {wepKeyType : Option WepKeyType} {request : Request}
    (h : connectRequestForKey env reads key password wepKeyType identity = .ok request) :
    request.password = password ∧ ∀ c ∈ request.candidates, Bare c.target.enterprise := by
  obtain ⟨accessPoints, -, h⟩ := bind_eq_ok.mp (mapError_eq_ok h)
  obtain ⟨networks, -, h⟩ := bind_eq_ok.mp h
  obtain ⟨⟨candidate, alternatives⟩, hresolved, h⟩ := bind_eq_ok.mp h
  obtain ⟨-, -, h⟩ := bind_eq_ok.mp h
  cases h
  have hbare := bare_resolveConnectCandidates hresolved
  refine ⟨rfl, fun c hc => ?_⟩
  rcases List.mem_cons.mp hc with rfl | hc
  · exact hbare _ List.mem_cons_self
  · refine hbare c (List.mem_cons_of_mem _ ?_)
    rcases hnetwork : networks.find? (fun network => network.key = key) with _ | network
    · rw [hnetwork] at hc
      exact hc
    · rw [hnetwork] at hc
      exact constrained_subset reads network alternatives hc

/-! ## What the candidates carry -/

/-- The supplied object; only a key management that it does not name is filled in. -/
def SameEnterprise (supplied : EnterpriseAuth) (carried : Option EnterpriseAuth) : Prop :=
  ∃ keyMgmt, carried = some { supplied with keyMgmt } ∧
    (supplied.keyMgmt ≠ none → keyMgmt = supplied.keyMgmt)

variable {params : DbusConnectTargetParams} {reads : Reads} {request : Request}

theorem intoRequest_exact (htarget : params.target = some target)
    (h : params.intoRequest env reads = .ok request) :
    request.password = params.password ∧
      ∀ c ∈ request.candidates, c.target.enterprise = target.enterprise := by
  unfold DbusConnectTargetParams.intoRequest at h
  rw [htarget] at h
  cases h
  refine ⟨rfl, fun c hc => ?_⟩
  cases List.mem_singleton.mp hc
  dsimp only [Candidate.fromTarget]
  split <;> rfl

/-- An exact target always makes a request. -/
theorem exists_intoRequest (env : Env) (reads : Reads) (htarget : params.target = some target) :
    ∃ request, params.intoRequest env reads = .ok request := by
  unfold DbusConnectTargetParams.intoRequest
  rw [htarget]
  exact ⟨_, rfl⟩

theorem sameEnterprise_setEnterprise (enterprise : EnterpriseAuth) (c : Candidate) :
    SameEnterprise enterprise
      (DbusConnectTargetParams.setEnterprise enterprise c).target.enterprise := by
  refine ⟨_, rfl, fun hnamed => ?_⟩
  obtain ⟨keyMgmt, hkey⟩ := Option.ne_none_iff_exists'.mp hnamed
  rw [hkey]
  rfl

theorem intoRequest_key (htarget : params.target = none)
    (h : params.intoRequest env reads = .ok request) :
    request.password = params.password ∧
      (∀ enterprise, params.enterprise = some enterprise →
        ∀ c ∈ request.candidates, SameEnterprise enterprise c.target.enterprise) ∧
      (params.enterprise = none → ∀ c ∈ request.candidates, Bare c.target.enterprise) := by
  unfold DbusConnectTargetParams.intoRequest at h
  rw [htarget] at h
  obtain ⟨built, hbuilt, h⟩ := bind_eq_ok.mp h
  obtain ⟨hpassword, hbare⟩ := connectRequestForKey_ok hbuilt
  cases h
  rcases hparams : params.enterprise with _ | enterprise
  · refine ⟨hpassword, fun e he => absurd he.symm (Option.some_ne_none e), fun _ c hc => ?_⟩
    rw [Option.elim_none, Request.candidates_eachCandidate] at hc
    obtain ⟨c, hmem, rfl⟩ := List.mem_map.mp hc
    exact hbare c hmem
  · refine ⟨hpassword, fun e he c hc => ?_, fun hnone => absurd hnone (Option.some_ne_none _)⟩
    rw [Option.elim_some, Request.candidates_eachCandidate] at hc
    obtain ⟨c, -, rfl⟩ := List.mem_map.mp hc
    rw [← Option.some.inj he]
    exact sameEnterprise_setEnterprise enterprise c

/-! ## Admission -/

variable {attempt : ConnectAttemptKey}

theorem admitAttempt_supplied {policy : ConnectAttemptPolicy} {now : Admission.Instant}
    (h : attempt.suppliedCredentials = true) :
    (policy.admitAttempt attempt now).2 ≠ .error .credentialsRequired := by
  unfold ConnectAttemptPolicy.admitAttempt
  dsimp only
  split
  · nofun
  · rw [if_neg fun hstale => Bool.false_ne_true (hstale.2.symm.trans h)]
    split <;> nofun

/-- After a failure of the saved credentials, a request without any is refused. -/
theorem admitAttempt_stale (h : attempt.suppliedCredentials = false) (now : Admission.Instant) :
    (ConnectAttemptPolicy.admitAttempt ⟨∅, ∅, {attempt.identity}⟩ attempt now).2 =
      .error .credentialsRequired := by
  have hactive : attempt.identity ∉
      (ConnectAttemptPolicy.prune ⟨∅, ∅, {attempt.identity}⟩ now).activeIdentities :=
    Finset.notMem_empty _
  have hstale : attempt.identity ∈
      (ConnectAttemptPolicy.prune ⟨∅, ∅, {attempt.identity}⟩ now).staleCredentials :=
    Finset.mem_singleton_self _
  unfold ConnectAttemptPolicy.admitAttempt
  rw [if_neg hactive, if_pos ⟨hstale, h⟩]

theorem supplied_of_attemptKey
    (h : (params.validatedIdentity env >>= params.attemptKey env) = .ok attempt) :
    attempt.suppliedCredentials = params.suppliedCredentials := by
  obtain ⟨identity, -, h⟩ := bind_eq_ok.mp h
  obtain ⟨fingerprint, -, h⟩ := bind_eq_ok.mp h
  cases h
  rfl

theorem startConnectTarget_valid
    (h : (params.validatedIdentity env >>= params.attemptKey env) = .ok attempt)
    (policy : ConnectAttemptPolicy) (now : Admission.Instant) :
    (startConnectTarget env params policy now).2 = .error (.admission .credentialsRequired) ↔
      (policy.admitAttempt attempt now).2 = .error .credentialsRequired := by
  have hstart : (startConnectTarget env params policy now).2 =
      ((policy.admitAttempt attempt now).2.mapError Refusal.admission).map fun _ => attempt := by
    unfold startConnectTarget
    rw [h]
  rw [hstart]
  rcases (policy.admitAttempt attempt now).2 with reason | ⟨⟩
  · constructor
    · intro hrefused
      cases hrefused
      rfl
    · intro hrefused
      cases hrefused
      rfl
  · exact ⟨nofun, nofun⟩

/-! ## The two readings -/

/-- The supplied password and enterprise object are in every candidate. -/
structure Used (params : DbusConnectTargetParams) (request : Request) : Prop where
  password : request.password = params.password
  key : params.target = none → ∀ enterprise, params.enterprise = some enterprise →
    ∀ c ∈ request.candidates, SameEnterprise enterprise c.target.enterprise
  exact : ∀ target, params.target = some target →
    ∀ c ∈ request.candidates, c.target.enterprise = target.enterprise

/-- A password or an enterprise password. -/
def carriesPassword (request : Request) (candidate : Candidate) : Bool :=
  request.password.isSome || candidate.target.enterprise.any (·.password.isSome)

/-- Without a password for the request, it is in the enterprise object. -/
theorem exists_password {candidate : Candidate} (hnone : request.password = none)
    (h : carriesPassword request candidate = true) :
    ∃ e, candidate.target.enterprise = some e ∧ e.password ≠ none := by
  rw [carriesPassword, hnone, Option.isSome_none, Bool.false_or] at h
  rcases he : candidate.target.enterprise with _ | e
  · rw [he, Option.any_none] at h
    exact absurd h Bool.false_ne_true
  · rw [he, Option.any_some] at h
    exact ⟨e, rfl, Option.isSome_iff_ne_none.mp h⟩

variable (env params) in
/-- If a candidate carries a password, admission knows of it and never asks for credentials. -/
def Counted : Prop :=
  ∀ reads request, params.intoRequest env reads = .ok request →
    (∃ c ∈ request.candidates, carriesPassword request c = true) →
    (∀ attempt, (params.validatedIdentity env >>= params.attemptKey env) = .ok attempt →
      attempt.suppliedCredentials = true) ∧
    ∀ policy now, (startConnectTarget env params policy now).2 ≠
      .error (.admission .credentialsRequired)

variable (params) in
/-- The only password of the request is in the enterprise object of its exact target. -/
def OnlyInTarget : Prop :=
  params.password = none ∧ params.enterprise = none ∧
    ∃ target enterprise, params.target = some target ∧ target.enterprise = some enterprise ∧
      enterprise.password ≠ none

/-- What is in the candidates is in the parameters, unless it came with the target. -/
theorem supplied_of_carried (h : params.intoRequest env reads = .ok request)
    (hcarried : ∃ c ∈ request.candidates, carriesPassword request c = true)
    (hnot : ¬OnlyInTarget params) : params.suppliedCredentials = true := by
  by_contra hsupplied
  rw [DbusConnectTargetParams.suppliedCredentials, Bool.or_eq_true, not_or,
    Option.not_isSome_iff_eq_none, Option.not_isSome_iff_eq_none] at hsupplied
  obtain ⟨hpassword, henterprise⟩ := hsupplied
  obtain ⟨c, hc, hcarries⟩ := hcarried
  rcases htarget : params.target with _ | target
  · -- built for a network, and no enterprise object was supplied
    obtain ⟨hrequest, -, hbare⟩ := intoRequest_key htarget h
    obtain ⟨e, he, hsome⟩ := exists_password (hrequest.trans hpassword) hcarries
    exact hsome (hbare henterprise c hc e he)
  · obtain ⟨hrequest, hown⟩ := intoRequest_exact htarget h
    obtain ⟨e, he, hsome⟩ := exists_password (hrequest.trans hpassword) hcarries
    exact hnot ⟨hpassword, henterprise, target, e, htarget, (hown c hc).symm.trans he, hsome⟩

/-- **The credentials of a request are used and counted.** In every valid request, whatever
NetworkManager says, each candidate carries the password, and either the supplied enterprise
object or the exact target's own. Admission agrees that credentials were supplied exactly if they
are not only in the enterprise object of an exact target: such a request is refused after an
earlier failure although its candidate has a password. -/
theorem supplied_counts_iff {attempt : ConnectAttemptKey}
    (hvalid : (params.validatedIdentity env >>= params.attemptKey env) = .ok attempt) :
    (∀ reads request, params.intoRequest env reads = .ok request → Used params request) ∧
      (Counted env params ↔ ¬OnlyInTarget params) := by
  refine ⟨fun reads request h => ?_, fun hcounted => ?_, fun hnot reads request h hcarried => ?_⟩
  · rcases htarget : params.target with _ | target
    · obtain ⟨hpassword, hsame, -⟩ := intoRequest_key htarget h
      refine ⟨hpassword, fun _ => hsame, fun target hsome => ?_⟩
      exact absurd (htarget.symm.trans hsome).symm (Option.some_ne_none target)
    · obtain ⟨hpassword, hown⟩ := intoRequest_exact htarget h
      refine ⟨hpassword, fun hnone => ?_, fun target' hsome c hc => ?_⟩
      · exact absurd (htarget.symm.trans hnone) (Option.some_ne_none target)
      · rw [← Option.some.inj (htarget.symm.trans hsome)]
        exact hown c hc
  · -- the candidate of the exact target is there, and admission did not see its password
    rintro ⟨hpassword, henterprise, target, enterprise, htarget, hown, hsome⟩
    let reads : Reads := ⟨.ok [], fun _ => .ok ∅, fun _ => .error (env.raise "")⟩
    obtain ⟨request, hrequest⟩ := exists_intoRequest env reads htarget
    have hcarried : ∃ c ∈ request.candidates, carriesPassword request c = true := by
      refine ⟨request.candidate, List.mem_cons_self, ?_⟩
      rw [carriesPassword, (intoRequest_exact htarget hrequest).2 _ List.mem_cons_self, hown,
        Bool.or_eq_true]
      exact .inr (Option.isSome_iff_ne_none.mpr hsome)
    have hnone : params.suppliedCredentials = false := by
      rw [DbusConnectTargetParams.suppliedCredentials, hpassword, henterprise]
      rfl
    have hrefused := admitAttempt_stale ((supplied_of_attemptKey hvalid).trans hnone) 0
    exact (hcounted reads request hrequest hcarried).2 _ 0
      ((startConnectTarget_valid hvalid _ 0).mpr hrefused)
  · have hsupplied : ∀ attempt,
        (params.validatedIdentity env >>= params.attemptKey env) = .ok attempt →
        attempt.suppliedCredentials = true := fun attempt hattempt =>
      (supplied_of_attemptKey hattempt).trans (supplied_of_carried h hcarried hnot)
    refine ⟨hsupplied, fun policy now hrefused => ?_⟩
    exact admitAttempt_supplied (hsupplied attempt hvalid)
      ((startConnectTarget_valid hvalid policy now).mp hrefused)

/-! ## A corrected password inside a target -/

/-- A daemon whose fingerprints are the lengths of the passwords in the targets. -/
def sampleEnv : Env where
  raise message := ⟨[message], .inr (.internalError, .internal, [])⟩
  displaySsid _ := "corp"
  parseObjectPath path := .ok path
  enterpriseRecord _ := .null
  profileRecord _ := .null
  credentialFingerprint params :=
    .ok (UInt64.ofNat (((params.target.bind (·.enterprise)).bind (·.password)).getD "").length)

def corpSsid : Ssid := ⟨[99, 111, 114, 112], "corp", nofun, by decide⟩

/-- A request for an exact target whose enterprise object has a password. -/
def embedded (password : String) : DbusConnectTargetParams where
  remember := none
  key := none
  target := some { connectTargetForSsid corpSsid with
    keyMgmt := some "wpa-eap"
    enterprise := some { defaultEnterpriseAuth "user" with password := some password } }
  password := none
  wepKeyType := none
  enterpriseIdentity := none
  enterprise := none

def embeddedAttempt (password : String) : ConnectAttemptKey :=
  ⟨"636f7270::", UInt64.ofNat password.length, false⟩

theorem validated_embedded (password : String) :
    ((embedded password).validatedIdentity sampleEnv >>=
      (embedded password).attemptKey sampleEnv) = .ok (embeddedAttempt password) := rfl

theorem supplied_counts_iff_embedded :
    ((embedded "newer").validatedIdentity sampleEnv >>=
        (embedded "newer").attemptKey sampleEnv) = .ok (embeddedAttempt "newer") ∧
      (Counted sampleEnv (embedded "newer") ↔ ¬OnlyInTarget (embedded "newer")) :=
  ⟨validated_embedded "newer", (supplied_counts_iff (validated_embedded "newer")).2⟩

/-- The first attempt is admitted and fails with a wrong password. Twenty seconds later the client
sends the right one, in the target as before: the candidate made of the request carries it, and
yet the request is refused because credentials are required. -/
theorem embedded_password_refused :
    let first := startConnectTarget sampleEnv (embedded "old") .empty 0
    let failed := first.1.complete (embeddedAttempt "old") (some .wrongPassword) false 1000000000
    let reads : Reads := ⟨.ok [], fun _ => .ok ∅, fun _ => .error (sampleEnv.raise "")⟩
    first.2 = .ok (embeddedAttempt "old") ∧
      (∃ request, (embedded "newer").intoRequest sampleEnv reads = .ok request ∧
        ∃ c ∈ request.candidates, carriesPassword request c = true) ∧
      (startConnectTarget sampleEnv (embedded "newer") failed 20000000000).2 =
        .error (.admission .credentialsRequired) := by
  refine ⟨rfl, ⟨_, rfl, _, List.mem_cons_self, rfl⟩, ?_⟩
  refine (startConnectTarget_valid (validated_embedded "newer") _ _).mpr ?_
  rfl

end ConnectParams

end NmDaemon
