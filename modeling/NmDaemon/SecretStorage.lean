import NmDaemon.ProfileService

/-!
# Confirming that a credential was stored

`daemon_secret/storage.rs`: after a credential was handed to NetworkManager, the daemon
waits until the connection it was for is activated, reads the credential back, commits the
profile as it is, and only then reports that it is stored. What it relies on is captured
while NetworkManager still waits for the credential.

* `capture`, `awaitActivation`, `confirm` — the confirmation, call by call;
* `stored_truthful` — what is true of a history that ends with `stored`.
-/

namespace NmDaemon

namespace Profiles

open Client Credentials

/-- What the confirmation uses of the request it is for. -/
structure SecretRequest : Type where
  /-- there is a connection to the bus -/
  transport : Bool
  nmOwner : Option String
  connectionPath : String
  settingName : String
  /-- the keys whose retention policy says that they are saved -/
  persistent : List String

structure Context : Type where
  publicPolicy : ConnectionSettings
  filename : String
  active : String

inductive SecretPersistenceOutcome : Type where
  | stored
  | failed (message : String)

/-! ## The program -/

section

variable (request : SecretRequest)

/-- A proxy needs a transport and an owner; building it calls nobody. -/
def requestProxy : Except String Unit :=
  if request.transport = false then .error "request transport unavailable"
  else if request.nmOwner = none then .error "request owner unavailable"
  else .ok ()

/-- The request is still wanted and NetworkManager is still the one it came from. -/
def current : NmProgram Unit := do
  ask .requestLive id
  lift (if request.transport then .ok () else .error "request transport unavailable")
  let owner ← currentOwner
  ensure (request.nmOwner = some owner) "NetworkManager owner changed"

/-- The active connection is for the request's profile and is being activated. -/
def isPending (path : String) : NmProgram Bool := do
  lift (requestProxy request)
  let connection ← ask (.connectionOf path) id
  if connection = request.connectionPath then do
    let state ← ask (.stateOf path) id
    pure (decide (state = 1))
  else pure false

def pendingActivations (request : SecretRequest) : List String → NmProgram (List String)
  | [] => pure []
  | path :: rest => do
    let pending ← isPending request path
    let others ← pendingActivations request rest
    pure (if pending then path :: others else others)

/-- What is remembered of a profile whose settings are as supplied: its public policy, its file and
the one activation that waits. -/
def capture (supplied : ConnectionSettings) : NmProgram Context := do
  lift (requestProxy request)
  let version ← readVersionId
  ensure (version ≠ 0) "profile version unavailable"
  let settings ← getSettings
  let publicPolicy ← lift (publicSettings settings)
  let suppliedPolicy ← lift (publicSettings supplied)
  ensure (sameSettings publicPolicy suppliedPolicy = true)
    "profile changed during credential prompting"
  let unsaved ← ask .unsaved id
  ensure (unsaved = false) "profile has staged changes"
  let filename ← ask .filename id
  ensure (isUnder "/etc/NetworkManager/system-connections/" filename = true)
    "profile is not durably file-backed"
  let again ← readVersionId
  ensure (again = version) "profile changed during confirmation setup"
  let running ← ask .version id
  ensure (validatedStorageVersion running = true) "unvalidated NetworkManager storage semantics"
  let paths ← ask .activeConnections id
  let pending ← pendingActivations request paths
  let active ← lift (match pending with
    | [active] => .ok active
    | _ => .error "no unambiguous pending activation boundary; storage is unconfirmed")
  pure { publicPolicy, filename, active }

/-- Wait until the connection is activated, with at most `rounds` more looks at it before the
deadline has passed. -/
def awaitActivation (request : SecretRequest) (active : String) (rounds : ℕ) : NmProgram Unit := do
  current request
  let state ← ask (.stateOf active) id
  if state = 2 then pure ()
  else if state = 1 then
    match rounds with
    | 0 => throw "activation boundary timed out; storage is unconfirmed"
    | rounds + 1 => awaitActivation request active rounds
  else throw "activation ended before durable storage could be confirmed"

/-- No authorization dialog is started for a confirmation. -/
def authorizeConfirmation (settings : ConnectionSettings) : NmProgram Unit := do
  lift (requestProxy request)
  let permissions ← ask .getPermissions id
  let acl := ((settings.lookup "connection").map fun values =>
    settingStrings values "permissions").getD []
  let permission :=
    if acl.length = 1 then "org.freedesktop.NetworkManager.settings.modify.own"
    else "org.freedesktop.NetworkManager.settings.modify.system"
  ensure (permissions.lookup permission = some "yes")
    "authorization needed for durable confirmation"

/-- Every credential is still one that is saved. -/
def checkRetention (settings : ConnectionSettings)
    (values : Table String String) : Except String Unit :=
  values.pairs.forM fun e => do
    let retention ← flags settings request.settingName e.1
    if retention &&& (agentOwned ||| notSaved) = 0 then pure ()
    else throw "credential retention changed"

/-- Every credential is what NetworkManager has. -/
def checkStored (stored : ConnectionSettings) (values : Table String String) : Except String Unit :=
  values.pairs.forM fun e =>
    if text stored request.settingName e.1 = some e.2 then .ok ()
    else .error "credential changed or was not retained by NetworkManager"

/-- After the activation has succeeded, the stored secrets are compared with the values, and the
profile is committed as it is, if nothing about it has changed. -/
def confirm (context : Context) (values : Table String String) (rounds : ℕ) : NmProgram Unit := do
  lift (requestProxy request)
  awaitActivation request context.active rounds
  lift (requestProxy request)
  let version ← readVersionId
  let settings ← getSettings
  let publicPolicy ← lift (publicSettings settings)
  ensure (sameSettings publicPolicy context.publicPolicy = true)
    "profile changed before confirmation"
  let unsaved ← ask .unsaved id
  ensure (unsaved = false) "staged changes must not be flushed by credential confirmation"
  let filename ← ask .filename id
  ensure (filename = context.filename) "profile storage changed"
  lift (checkRetention request settings values)
  authorizeConfirmation request settings
  current request
  let again ← readVersionId
  ensure (again = version) "profile changed before secret verification"
  let stored ← ask (.getSecrets request.settingName) id
  let expected ← lift (nextVersion version)
  let now ← readVersionId
  ensure (now = expected) "concurrent edit during secret verification"
  lift (checkStored request stored values)
  current request
  let unsaved ← ask .unsaved id
  ensure (unsaved = false) "profile has staged changes"
  -- without settings it commits the current ones and overlays nothing
  ask (.update2 ∅ 1 expected) id
  current request
  let last ← readVersionId
  let committed ← lift (nextVersion expected)
  ensure (last = committed) "profile changed after commit; storage outcome needs verification"
  let unsaved ← ask .unsaved id
  ensure (unsaved = false) "profile remains unsaved"
  let filename ← ask .filename id
  ensure (filename = context.filename) "profile storage changed after commit"

/-- The supplied credentials that are to be saved. -/
def saveable (values : Table String String) : Table String String :=
  values.filterMap fun key value => if key ∈ request.persistent then some value else none

/-- The confirmation of the credentials a request was answered with. -/
def confirmation (settings : ConnectionSettings)
    (values : Table String String) (rounds : ℕ) : NmProgram Unit := do
  ensure ((saveable request values).entries ≠ []) "request contains no saveable credentials"
  let context ← capture request settings
  confirm request context (saveable request values) rounds

/-- What `prepare` captures and the closure it returns reports. -/
def save (settings : ConnectionSettings) (values : Table String String)
    (rounds : ℕ) : Prog Call Reply SecretPersistenceOutcome :=
  Prog.bind (confirmation request settings values rounds) fun
    | .ok _ => .done .stored
    | .error message => .done (.failed message)

end

/-! ## What a confirmation knows -/

/-- After the settings were read, the connection was seen activating. -/
def SawActivating (settings : ConnectionSettings) (active : String) (tr : List Happening) : Prop :=
  ∃ l t rest, tr = l ++ Event.own t (.stateOf active) (.ok 1) :: rest ∧ ReadSettings settings l

/-- A connection was seen activating after settings with this public policy were read, and
later it was seen activated. -/
def SawActivated (publicPolicy : ConnectionSettings) (active : String) (tr : List Happening) :
    Prop :=
  ∃ settings l t rest, tr = l ++ Event.own t (.stateOf active) (.ok 2) :: rest ∧
    SawActivating settings active l ∧ publicSettings settings = .ok publicPolicy

/-- The secrets of a setting were read. -/
def ReadSecrets (settingName : String) (stored : ConnectionSettings) (m : List Happening) : Prop :=
  ∃ t reply, Event.own t (.getSecrets settingName) (.ok reply) ∈ m ∧
    (id (.ok reply) : Except String ConnectionSettings) = .ok stored

/-- The profile was committed as it was, with these settings. -/
def Committed (settings : ConnectionSettings) (version : ℕ) (m : List Happening) : Prop :=
  ∃ t, Event.own t (.update2 ∅ 1 version) (.ok ()) ∈ m ∧ t.settings = settings

variable {keep : ConnectionSettings → ConnectionSettings} {request : SecretRequest}
  {settings publicPolicy stored : ConnectionSettings} {active settingName : String}
  {version : ℕ} {M K : List Happening → Prop} {α : Type}
  {P : Assertion Profile Call Reply Foreign}

theorem lasting_true : Lasting fun _ => True := fun _ _ _ => trivial

theorem Lasting.and (hM : Lasting M) (hK : Lasting K) : Lasting fun m => M m ∧ K m :=
  fun m e h => ⟨hM m e h.1, hK m e h.2⟩

theorem lasting_sawActivating : Lasting (SawActivating settings active) := by
  rintro tr e ⟨l, t, rest, rfl, hread⟩
  exact ⟨l, t, rest ++ [e], by simp, hread⟩

theorem lasting_sawActivated : Lasting (SawActivated publicPolicy active) := by
  rintro tr e ⟨settings, l, t, rest, rfl, hsaw, hpublic⟩
  exact ⟨settings, l, t, rest ++ [e], by simp, hsaw, hpublic⟩

theorem lasting_readSecrets : Lasting (ReadSecrets settingName stored) :=
  fun _ _ ⟨t, reply, hmem, hreply⟩ => ⟨t, reply, List.mem_append_left _ hmem, hreply⟩

theorem lasting_committed : Lasting (Committed settings version) :=
  fun _ _ ⟨t, hmem, hsettings⟩ => ⟨t, List.mem_append_left _ hmem, hsettings⟩

/-- What is known before a part of a confirmation, and of its result. Nothing is asked of its
single calls. -/
abbrev Brings (keep : ConnectionSettings → ConnectionSettings)
    (P : Assertion Profile Call Reply Foreign) (p : NmProgram α)
    (Q : α → Assertion Profile Call Reply Foreign) : Prop :=
  Triple (networkManager keep) (fun _ _ _ _ => True) P p Q

/-- The connection was seen activating after its policy was read. -/
def Awaited (publicPolicy : ConnectionSettings) (active : String) (tr : List Happening) : Prop :=
  ∃ settings, SawActivating settings active tr ∧ publicSettings settings = .ok publicPolicy

/-- What is known stays known over the checks of the request. -/
theorem triple_current
    (h : ∀ (c : Call) (f : Reply c → Except String Unit), c = .requestLive →
      Brings keep P (ask c f) fun _ => P)
    (howner : Brings keep P currentOwner fun _ => P) :
    Brings keep P (current request) fun _ => P := by
  refine (h .requestLive id rfl).bind fun _ => .lift_bind fun _ _ => ?_
  exact howner.bind fun owner => .ensure fun _ _ hP => hP

theorem lasting_current (hM : Lasting M) :
    Brings keep (fun tr _ => M tr) (current request)
      fun _ tr _ => M tr :=
  triple_current (fun c _ _ => lasting_ask hM c fun _ _ _ => trivial)
    (lasting_ask hM .currentOwner fun _ _ _ => trivial)

/-! ## Capturing -/

theorem triple_isPending (hK : Lasting K) (path : String) :
    Brings keep (fun tr _ => K tr ∧ ReadSettings settings tr)
      (isPending request path) fun pending tr _ => (K tr ∧ ReadSettings settings tr) ∧
        (pending = true → SawActivating settings path tr) := by
  have hlasting : Lasting fun tr => K tr ∧ ReadSettings settings tr := hK.and lasting_readSettings
  refine .lift_bind fun _ _ => ?_
  refine (lasting_ask hlasting (.connectionOf path) fun _ _ _ => trivial).bind fun connection => ?_
  split_ifs
  · -- the state that is read is the one the connection was seen in
    have hstate : Brings keep
        (fun tr _ => K tr ∧ ReadSettings settings tr) (ask (.stateOf path) id)
        fun state tr _ => (K tr ∧ ReadSettings settings tr) ∧
          (state = 1 → SawActivating settings path tr) := by
      refine .ask (lasting_stable hlasting) fun tr s r s' h _ => ⟨trivial, ?_⟩
      rintro state rfl
      refine ⟨hlasting tr _ h, ?_⟩
      rintro rfl
      exact ⟨tr, s, [], rfl, h.2⟩
    exact hstate.bind fun state => .pure fun _ _ h => ⟨h.1, fun hp => h.2 (by simpa using hp)⟩
  · exact .pure fun _ _ h => ⟨h, nofun⟩

/-- Every connection that is found was seen activating. -/
theorem triple_pendingActivations (paths : List String) : ∀ K, Lasting K →
    Brings keep (fun tr _ => K tr ∧ ReadSettings settings tr)
      (pendingActivations request paths) fun pending tr _ => (K tr ∧ ReadSettings settings tr) ∧
        ∀ path ∈ pending, SawActivating settings path tr := by
  induction paths with
  | nil => exact fun K _ => .pure fun _ _ h => ⟨h, fun _ hp => absurd hp List.not_mem_nil⟩
  | cons path rest ih =>
    intro K hK
    refine (triple_isPending hK path).bind fun pending => ?_
    -- what was seen of the first one is kept while the others are looked at
    have hrest := ih (fun tr => K tr ∧ (pending = true → SawActivating settings path tr))
      (hK.and fun m e h hp => lasting_sawActivating m e (h hp))
    refine (hrest.conseq (fun _ _ h => ⟨⟨h.1.1, h.2⟩, h.1.2⟩) fun _ _ _ h => h).bind fun others => ?_
    refine .pure fun tr s h => ⟨⟨h.1.1.1, h.1.2⟩, fun p hp => ?_⟩
    rcases pending with _ | _
    · exact h.2 p hp
    · rcases List.mem_cons.mp hp with rfl | hp
      · exact h.1.1.2 rfl
      · exact h.2 p hp

/-- The captured context: its connection was seen activating after its policy was read. -/
theorem triple_capture (supplied : ConnectionSettings) :
    Brings keep (fun _ _ => True) (capture request supplied)
      fun context tr _ => Awaited context.publicPolicy context.active tr := by
  refine .lift_bind fun _ _ => ?_
  refine (lasting_ask lasting_true .versionId fun _ _ _ => trivial).bind fun version => ?_
  refine .ensure_bind fun _ => ?_
  have hsettings : Brings keep (fun _ _ => True) getSettings
      fun settings tr _ => ReadSettings settings tr := by
    refine .ask (lasting_stable lasting_true) fun tr s r s' _ _ => ⟨trivial, ?_⟩
    rintro settings rfl
    exact ⟨s, by simp⟩
  refine hsettings.bind fun settings => .lift_bind fun publicPolicy hpublic => ?_
  refine .lift_bind fun _ _ => .ensure_bind fun _ => ?_
  have hread : ∀ (c : Call) {α : Type} {f : Reply c → Except String α},
      Brings keep (fun tr _ => ReadSettings settings tr) (ask c f)
        fun _ tr _ => ReadSettings settings tr :=
    fun c => lasting_ask lasting_readSettings c fun _ _ _ => trivial
  refine (hread .unsaved).bind fun unsaved => .ensure_bind fun _ => ?_
  refine (hread .filename).bind fun filename => .ensure_bind fun _ => ?_
  refine (hread .versionId).bind fun again => .ensure_bind fun _ => ?_
  refine (hread .version).bind fun running => .ensure_bind fun _ => ?_
  refine (hread .activeConnections).bind fun paths => ?_
  have hpending : Brings keep
      (fun tr _ => True ∧ ReadSettings settings tr) (pendingActivations request paths) _ :=
    triple_pendingActivations paths (fun _ => True) lasting_true
  refine (hpending.conseq (fun _ _ h => ⟨trivial, h⟩) fun _ _ _ h => h.2).bind fun pending => ?_
  refine .lift_bind fun active hactive => .pure fun tr s h => ?_
  refine ⟨settings, h active ?_, hpublic⟩
  split at hactive
  · cases hactive
    exact List.mem_singleton_self _
  · cases hactive

/-- The loop ends without failure only when the connection was seen activated. -/
theorem triple_awaitActivation (rounds : ℕ) :
    Brings keep (fun tr _ => Awaited publicPolicy active tr)
      (awaitActivation request active rounds) fun _ tr _ => SawActivated publicPolicy active tr := by
  have hlasting : Lasting (Awaited publicPolicy active) :=
    fun m e ⟨settings, hsaw, hpublic⟩ => ⟨settings, lasting_sawActivating m e hsaw, hpublic⟩
  have hstate : Brings keep (fun tr _ => Awaited publicPolicy active tr)
      (ask (.stateOf active) id) fun state tr _ => Awaited publicPolicy active tr ∧
        (state = 2 → SawActivated publicPolicy active tr) := by
    refine .ask (lasting_stable hlasting) fun tr s r s' h _ => ⟨trivial, ?_⟩
    rintro state rfl
    refine ⟨hlasting tr _ h, ?_⟩
    rintro rfl
    obtain ⟨settings, hsaw, hpublic⟩ := h
    exact ⟨settings, tr, s, [], rfl, hsaw, hpublic⟩
  induction rounds with
  | zero =>
    unfold awaitActivation
    refine (lasting_current hlasting).bind fun _ => hstate.bind fun state => ?_
    split_ifs with htwo
    · exact .pure fun _ _ h => h.2 htwo
    · exact .throw _
    · exact .throw _
  | succ rounds ih =>
    unfold awaitActivation
    refine (lasting_current hlasting).bind fun _ => hstate.bind fun state => ?_
    split_ifs with htwo
    · exact .pure fun _ _ h => h.2 htwo
    · exact ih.conseq (fun _ _ h => h.1) fun _ _ _ h => h
    · exact .throw _

/-! ## Confirming -/

/-- What is known in the course of a confirmation: after the connection was seen activated a
version was read, and `M` is true of what happened since. -/
abbrev Confirming (context : Context) (M : List Happening → Prop) (first version : ℕ)
    (settings : ConnectionSettings) : Assertion Profile Call Reply Foreign :=
  Tracked (SawActivated context.publicPolicy context.active) M first version settings

variable {context : Context} {first : ℕ}

theorem confirming_read (hM : Lasting M) (c : Call) {f : Reply c → Except String α}
    (hc : c.IsRead) :
    Brings keep (Confirming context M first version settings) (ask c f)
      fun _ => Confirming context M first version settings :=
  tracked_read hM c hc fun _ _ _ => trivial

theorem confirming_current (hM : Lasting M) :
    Brings keep (Confirming context M first version settings)
      (current request) fun _ => Confirming context M first version settings :=
  triple_current (fun c _ hc => confirming_read hM c (hc ▸ trivial))
    (confirming_read hM .currentOwner trivial)

theorem confirming_authorize (hM : Lasting M) (policy : ConnectionSettings) :
    Brings keep (Confirming context M first version settings)
      (authorizeConfirmation request policy)
      fun _ => Confirming context M first version settings := by
  refine .lift_bind fun _ _ => ?_
  refine (confirming_read hM .getPermissions trivial).bind fun permissions => ?_
  exact .ensure fun _ _ h => h

variable {key value : String} {values : Table String String}

theorem checkRetention_ok (h : checkRetention request settings values = .ok ())
    (hvalue : values.lookup key = some value) :
    ∃ retention, flags settings request.settingName key = .ok retention ∧
      retention &&& (agentOwned ||| notSaved) = 0 := by
  have hkey := forM_eq_ok h (key, value) (Table.mem_pairs.mpr hvalue)
  rcases hflags : flags settings request.settingName key with e | retention
  · simp only [hflags] at hkey
    cases hkey
  · simp only [hflags, bind, Except.bind] at hkey
    split_ifs at hkey with hzero
    · exact ⟨retention, rfl, hzero⟩

theorem checkStored_ok (h : checkStored request stored values = .ok ())
    (hvalue : values.lookup key = some value) :
    text stored request.settingName key = some value := by
  have hkey := forM_eq_ok h (key, value) (Table.mem_pairs.mpr hvalue)
  split_ifs at hkey with htext
  exact htext

/-- What a confirmation that went through says. -/
def Confirmed (request : SecretRequest) (context : Context) (values : Table String String)
    (tr : List Happening) : Prop :=
  ∃ first settings stored publicPolicy,
    Closed (SawActivated context.publicPolicy context.active)
      (fun m => (ReadSettings settings m ∧ ReadSecrets request.settingName stored m) ∧
        Committed settings (first + 1) m) first (first + 2) (first + 2) tr ∧
    publicSettings settings = .ok publicPolicy ∧
    sameSettings publicPolicy context.publicPolicy = true ∧
    checkRetention request settings values = .ok () ∧ checkStored request stored values = .ok ()

theorem triple_confirm (values : Table String String) (rounds : ℕ) :
    Brings keep (fun tr _ => Awaited context.publicPolicy context.active tr)
      (confirm request context values rounds) fun _ tr _ => Confirmed request context values tr := by
  refine .lift_bind fun _ _ => (triple_awaitActivation rounds).bind fun _ => ?_
  refine .lift_bind fun _ _ => ?_
  refine (triple_readVersionId (fun _ _ _ => trivial) (lasting_stable lasting_sawActivated)).bind
    fun first => ?_
  refine (triple_getSettings fun _ _ _ => trivial).bind fun settings => ?_
  refine .lift_bind fun publicPolicy hpublic => .ensure_bind fun hsame => ?_
  have hsettings : Lasting (ReadSettings settings) := lasting_readSettings
  refine (confirming_read hsettings .unsaved trivial).bind fun _ => .ensure_bind fun _ => ?_
  refine (confirming_read hsettings .filename trivial).bind fun _ => .ensure_bind fun _ => ?_
  refine .lift_bind fun _ hretention => ?_
  refine (confirming_authorize hsettings settings).bind fun _ => ?_
  refine (confirming_current hsettings).bind fun _ => ?_
  refine (confirming_read hsettings .versionId trivial).bind fun _ => .ensure_bind fun _ => ?_
  -- from here on the secrets have been read, one version further
  refine (tracked_getSecrets hsettings (fun _ _ _ => trivial) (fun _ _ h => by cases h)).bind
    fun stored => ?_
  have hsecrets : Lasting fun m => ReadSettings settings m ∧ ReadSecrets request.settingName stored m :=
    hsettings.and lasting_readSecrets
  refine .lift_bind fun expected hexpected => ?_
  obtain rfl := nextVersion_ok hexpected
  refine (confirming_read hsecrets .versionId trivial).bind fun _ => .ensure_bind fun _ => ?_
  refine .lift_bind fun _ hstored => ?_
  refine (confirming_current hsecrets).bind fun _ => ?_
  refine (confirming_read hsecrets .unsaved trivial).bind fun _ => .ensure_bind fun _ => ?_
  -- and from here on the profile has been committed, one version further again
  refine (tracked_commit hsecrets (fun _ _ _ => trivial) (fun _ h => by cases h)).bind fun _ => ?_
  have hcommitted : Lasting fun m => (ReadSettings settings m ∧
      ReadSecrets request.settingName stored m) ∧ Committed settings (first + 1) m :=
    hsecrets.and lasting_committed
  refine (confirming_current hcommitted).bind fun _ => ?_
  refine (tracked_close hcommitted fun _ _ _ => trivial).bind fun last => ?_
  refine .lift_bind fun committed hnext => .ensure_bind fun hlast => ?_
  obtain rfl := nextVersion_ok hnext
  subst hlast
  refine (lasting_ask lasting_closed .unsaved fun _ _ _ => trivial).bind fun _ => ?_
  refine .ensure_bind fun _ => ?_
  refine (lasting_ask lasting_closed .filename fun _ _ _ => trivial).bind fun _ => ?_
  exact .ensure fun tr s h =>
    ⟨first, settings, stored, publicPolicy, h, hpublic, hsame, hretention, hstored⟩

theorem triple_confirmation (supplied : ConnectionSettings) (values : Table String String)
    (rounds : ℕ) :
    Brings keep (fun _ _ => True)
      (confirmation request supplied values rounds) fun _ tr _ =>
        ∃ context, Confirmed request context (saveable request values) tr := by
  refine .ensure_bind fun _ => (triple_capture supplied).bind fun context => ?_
  exact (triple_confirm (saveable request values) rounds).conseq (fun _ _ h => h)
    fun _ _ _ h => ⟨context, h⟩

/-- `stored` is reported only after a confirmation that went through. -/
theorem wp_save (supplied : ConnectionSettings) (values : Table String String) (rounds : ℕ)
    (s : Profile) :
    wp (networkManager keep) (fun _ _ _ _ => True) (fun outcome tr _ => outcome = .stored →
        ∃ context, Confirmed request context (saveable request values) tr)
      (save request supplied values rounds) [] s := by
  refine wp_bind _ _ [] s (wp_mono ?_ _ [] s (triple_confirmation supplied values rounds [] s trivial))
  intro r tr s hr
  rcases r with message | ⟨⟩
  · exact fun h => by cases h
  · exact fun _ => hr () rfl

theorem lasting_confirmed : Lasting (Confirmed request context values) := by
  rintro tr e ⟨first, settings, stored, publicPolicy, hclosed, hrest⟩
  exact ⟨first, settings, stored, publicPolicy, lasting_closed tr e hclosed, hrest⟩

theorem lookup_saveable (hvalue : values.lookup key = some value)
    (hkey : key ∈ request.persistent) :
    (saveable request values).lookup key = some value := by
  rw [saveable, Table.lookup_filterMap, hvalue]
  exact if_pos hkey

/-- **What is reported as stored is stored.** In every execution of the confirmation of a
request, among whatever other clients do: if it ends with `stored`, then its history has, in
this order, an active connection seen activating, the same connection seen activated, and
two reads of the profile's version, the later one two above the earlier. Before the first of
these the settings `captured` were read. Between the two version reads,

* no other client's edit took effect,
* the profile was committed, and its settings at that moment had the public policy of the
  captured ones,
* the secrets were read back, and every supplied credential that is to be saved was among
  them with the value it was supplied with, and with flags, in the settings that were
  committed, that are neither agent-owned nor not-saved. -/
theorem stored_truthful (keep : ConnectionSettings → ConnectionSettings) (request : SecretRequest)
    (supplied : ConnectionSettings) (values : Table String String) (rounds : ℕ) {s₀ s : Profile}
    {tr : List Happening}
    (h : Exec (networkManager keep) s₀ (save request supplied values rounds) tr s (.done .stored)) :
    ∃ (active : String) (version : ℕ) (a b c m d : List Happening) (t₁ t₂ t₃ t₄ u u' : Profile)
      (captured stored policy policy' : ConnectionSettings),
      tr = a ++ Event.own t₁ (.stateOf active) (.ok 1) ::
        (b ++ Event.own t₂ (.stateOf active) (.ok 2) ::
          (c ++ Event.own t₃ .versionId (.ok version) ::
            (m ++ Event.own t₄ .versionId (.ok (version + 2)) :: d))) ∧
      ReadSettings captured a ∧ (∀ e ∈ m, ¬ ForeignEdit e) ∧
      Event.own u (.update2 ∅ 1 (version + 1)) (.ok ()) ∈ m ∧
      publicSettings captured = .ok policy ∧ publicSettings u.settings = .ok policy' ∧
      sameSettings policy' policy = true ∧
      Event.own u' (.getSecrets request.settingName) (.ok stored) ∈ m ∧
      ∀ key value, values.lookup key = some value → key ∈ request.persistent →
        text stored request.settingName key = some value ∧
        ∃ retention, flags u.settings request.settingName key = .ok retention ∧
          retention &&& (agentOwned ||| notSaved) = 0 := by
  have hresult := h.result (wp_save supplied values rounds s₀) (by
    intro tr s e s' hstored _ houtcome
    obtain ⟨context, hconfirmed⟩ := hstored houtcome
    exact ⟨context, lasting_confirmed tr _ hconfirmed⟩)
  obtain ⟨context, version, settings, stored, policy', hclosed, hpolicy', hsame, hretention,
    hchecked⟩ := hresult rfl
  obtain ⟨l, t₃, m, t₄, d, rfl, hactivated, ⟨⟨-, hsecrets⟩, hcommitted⟩, hquiet⟩ := hclosed
  obtain ⟨captured, l', t₂, c, rfl, ⟨a, t₁, b, rfl, hread⟩, hpolicy⟩ := hactivated
  obtain ⟨u, hupdate, rfl⟩ := hcommitted
  obtain ⟨u', reply, hreply, heq⟩ := hsecrets
  obtain rfl := Except.ok.inj heq
  refine ⟨context.active, version, a, b, c, m, d, t₁, t₂, t₃, t₄, u, u', captured, reply,
    context.publicPolicy, policy', by simp, hread, hquiet rfl, hupdate, hpolicy, hpolicy', hsame,
    hreply, fun key value hvalue hkey => ?_⟩
  have hsaveable := lookup_saveable hvalue hkey
  exact ⟨checkStored_ok hchecked hsaveable, checkRetention_ok hretention hsaveable⟩

/-- The confirmation of a WPA password: another client edits the profile between the capture
and the activation and leaves its settings as they were, and the password is stored. -/
theorem stored_truthful_password :
    ∃ (tr : List Happening) (s : Profile) (m : List Happening) (u' : Profile)
      (stored : ConnectionSettings),
      Exec (networkManager id) ⟨6, homeProfile⟩
        (save ⟨true, some ":1.5", "/profile/1", "802-11-wireless-security", ["psk"]⟩ homeProfile
          (tableOf [("psk", "secret")]) 3) tr s (.done .stored) ∧
      (∀ e ∈ m, ¬ ForeignEdit e) ∧
      Event.own u' (.getSecrets "802-11-wireless-security") (.ok stored) ∈ m ∧
      text stored "802-11-wireless-security" "psk" = some "secret" := by
  have hplay : (play (networkManager id)
      (List.replicate 9 (.inr (answering ":1.5" "/etc/NetworkManager/system-connections/home" 1
          (tableOf [("802-11-wireless-security", tableOf [("psk", .str "secret")])]))) ++
        .inl (.edit homeProfile 0) ::
        List.replicate 22 (.inr (answering ":1.5" "/etc/NetworkManager/system-connections/home" 2
          (tableOf [("802-11-wireless-security", tableOf [("psk", .str "secret")])]))))
      [] ⟨6, homeProfile⟩
      (save ⟨true, some ":1.5", "/profile/1", "802-11-wireless-security", ["psk"]⟩ homeProfile
        (tableOf [("psk", "secret")]) 3)).map (fun r => r.2.2) = some (.done .stored) := rfl
  obtain ⟨⟨tr, s, p⟩, hplay, hdone⟩ := Option.map_eq_some_iff.mp hplay
  obtain rfl : p = .done .stored := hdone
  have hexec := Exec.start.play _ hplay
  obtain ⟨active, version, a, b, c, m, d, t₁, t₂, t₃, t₄, u, u', captured, stored, policy, policy',
    htr, -, hquiet, -, -, -, -, hread, hvalues⟩ :=
    stored_truthful id _ homeProfile (tableOf [("psk", "secret")]) 3 hexec
  exact ⟨tr, s, m, u', stored, hexec, hquiet, hread,
    (hvalues "psk" "secret" rfl (List.mem_singleton_self _)).1⟩

end Profiles

end NmDaemon
