import NmDaemon.Errors
import NmDaemon.ProfileService

/-!
# Preserving profile edits

`credential_writer.rs`: an edit takes a snapshot of a profile, is changed by whoever asked
for it, and is committed together with the secrets NetworkManager has for it. It is
optimistic: the version of the profile is the only thing that tells it of other clients.

* `beginProfileEdit`, `commitCredentialEdit` — the two ends of an edit, call by call;
* `profile_edit_not_lost` — an update that is accepted had the snapshot it started from as
  the settings of the profile.
-/

namespace NmDaemon

namespace Profiles

open Client Credentials

structure ProfileEdit : Type where
  settings : ConnectionSettings
  original : ConnectionSettings
  version : ℕ
  uuid : String
  owner : String
  explicitRemember : Bool

/-! ## Reading -/

/-- A proxy is only built while a pinned owner still owns NetworkManager's name. -/
def proxyPath (destination : String) : NmProgram Unit :=
  ensureCurrentOwner destination currentOwner DomainError.message

def profileUuid (settings : ConnectionSettings) : Option String :=
  (settings.lookup "connection").bind fun values => setting Value.asStr values "uuid"

/-- Whether the profile may be written: it is saved where profiles are kept, or it is a
volatile one that is explicitly to be remembered. -/
def storageAllowed (explicitRemember : Bool) : NmProgram Bool := do
  let unsaved ← ask .unsaved id
  let filename ← ask .filename id
  if !unsaved && isUnder "/etc/NetworkManager/system-connections/" filename then pure true
  else if explicitRemember then do
    let flags ← ask .flags id
    pure (flags &&& 4 ≠ 0 &&
      (filename = "" || isUnder "/run/NetworkManager/system-connections/" filename))
  else pure false

/-- An edit begins with a snapshot of the profile under a pinned owner and version. -/
def beginProfileEdit (destination : String) (explicitRemember : Bool) : NmProgram ProfileEdit := do
  let owner ← currentOwner
  ensure (destination = owner) "profile writes require a pinned NM owner"
  proxyPath destination
  let version ← readVersionId
  ensure (version ≠ 0) "NetworkManager profile version is unavailable"
  let settings ← getSettings
  let uuid ← lift (match (profileUuid settings).filter fun uuid => uuid ≠ "" with
    | some uuid => .ok uuid
    | none => .error "profile UUID missing")
  let allowed ← storageAllowed explicitRemember
  ensure (allowed = true)
    "refusing implicit persistence of temporary, staged or unsupported-location profiles"
  let again ← readVersionId
  ensure (again = version) "profile changed during snapshot; retry the explicit edit"
  let current ← currentOwner
  ensure (current = owner) "profile changed during snapshot; retry the explicit edit"
  pure { settings, original := settings, version, uuid, owner, explicitRemember }

/-! ## Committing -/

/-- A reply with anything but known secrets is not understood. -/
def validateSecretReply (reply : ConnectionSettings) : Except String Unit :=
  if reply.pairs.all (fun (section', values) => values.keys.all fun key =>
      key ∈ knownKeys section' || (section' = "vpn" && key = "secrets") ||
        (section' = "wireguard" && key = "peers")) then .ok ()
  else .error "unknown secret schema; no update attempted"

/-- The secrets of the sections, one after another, merged into the settings. -/
def preserveSections : List String → ConnectionSettings → ℕ → NmProgram (ConnectionSettings × ℕ)
  | [], settings, version => pure (settings, version)
  | section' :: rest, settings, version => do
    let secrets ← ask (.getSecrets section') fun r =>
      r.mapError fun _ => "cannot preserve existing credentials; no update attempted"
    let expected ← lift (nextVersion version)
    let current ← readVersionId
    ensure (current = expected) "profile changed during secret retrieval; no update attempted"
    lift (validateSecretReply secrets)
    let settings ← lift (mergeSecrets settings secrets)
    preserveSections rest settings expected

def preserveSecrets (settings : ConnectionSettings) (version : ℕ) :
    NmProgram (ConnectionSettings × ℕ) := do
  let sections := (settings.pairs.filter fun e => requiresSecrets e.1 e.2).map Prod.fst
  let (preserved, version) ← preserveSections sections settings version
  -- only the intended secrets go on top, never public or nested peer settings
  let merged ← lift (mergeSecrets preserved settings)
  pure (merged, version)

/-- What an edit may do to the flags of one secret. -/
def validateKeyPolicy (original edited : ConnectionSettings) (section' key : String) :
    Except String Unit := do
  let before ← flags original section' key
  let after ← flags edited section' key
  if ¬ (before &&& notSaved = 0 ∨ after &&& notSaved ≠ 0) then
    throw "refusing to make an existing temporary credential persistent"
  if ¬ (after &&& agentOwned = 0 ∨ before &&& agentOwned ≠ 0) then
    throw "new agent-owned storage is unsupported"
  if ¬ (before &&& 4 = 0 ∨ after &&& 4 ≠ 0) then
    throw "NOT_REQUIRED policy must be preserved during credential replacement"
  if before &&& agentOwned ≠ 0 ∧ after &&& agentOwned = 0 then
    if isUnder "wep-key" key then
      throw "shared WEP agent ownership requires explicit migration"
    if (text edited section' key).isNone then
      throw "ownership conversion requires a supplied credential; use explicit migration"

def validatePolicyChanges (original edited : ConnectionSettings) : Except String Unit :=
  (original.keys.filter fun section' => (edited.lookup section').isSome).forM fun section' =>
    (knownKeys section').forM fun key => validateKeyPolicy original edited section' key

/-- The flags of one secret, changed. They are written to a field of the section, wherever they
were read from. -/
def rememberStep (settings : ConnectionSettings) (e : String × String × String) :
    Except String ConnectionSettings := do
  let old ← flags settings e.1 e.2.1
  if old &&& agentOwned ≠ 0 then throw "agent-owned credentials require explicit migration"
  match settings.lookup e.1 with
  | none => throw "secret setting missing"
  | some values =>
    pure (AList.insert e.1
      (values.insert (flagsKey e.2.1) (.u32 (old &&& ~~~notSaved))) settings)

/-- An explicit opt-in retains cached one-time credentials. -/
def rememberSecrets (settings : ConnectionSettings) : Except String ConnectionSettings := do
  let secrets ← values settings
  secrets.foldlM rememberStep settings

/-- The settings with the secrets NetworkManager has for them, where that matters. -/
def collectSecrets (edit : ProfileEdit) : NmProgram (ConnectionSettings × ℕ) :=
  if hasSecrets edit.settings || edit.explicitRemember then do
    let running ← ask .version id
    ensure (validatedStorageVersion running = true)
      "credential writes require a validated NetworkManager version"
    preserveSecrets edit.settings edit.version
  else pure (edit.settings, edit.version)

/-- The settings to be written and the version they are for. -/
def preserveCredentials (edit : ProfileEdit) : NmProgram (ConnectionSettings × ℕ) := do
  let (settings, version) ← collectSecrets edit
  let settings ← lift (if edit.explicitRemember then rememberSecrets settings else .ok settings)
  pure (settings, version)

/-- A remembered profile may have staged edits, any other may not. -/
def ensureUnstaged (explicitRemember : Bool) : NmProgram Unit :=
  if explicitRemember then pure ()
  else do
    let unsaved ← ask .unsaved id
    ensure (unsaved = false) "profile has staged edits; no update attempted"

/-- The update is for one version of the profile, and durable. -/
def updateProfile (settings : ConnectionSettings) (blockAutoconnect : Bool) (version : ℕ) :
    NmProgram Unit :=
  ask (.update2 settings (1 ||| if blockAutoconnect then 0x20 else 0) version) fun r =>
    r.mapError fun _ => "NetworkManager did not acknowledge a durable profile update; " ++
      "re-inventory before retrying"

/-- An edit is written if owner, version and identity are as in its snapshot and its policy is
valid; the secrets it does not carry are put back in. -/
def commitCredentialEdit (destination : String) (edit : ProfileEdit) (blockAutoconnect : Bool) :
    NmProgram Unit := do
  proxyPath destination
  let owner ← currentOwner
  ensure (owner = edit.owner ∧ destination = edit.owner) "NetworkManager changed; edit cancelled"
  let current ← readVersionId
  ensure (current = edit.version) "profile changed; edit cancelled"
  ensure (profileUuid edit.settings = some edit.uuid) "profile identity changed; edit cancelled"
  lift (validatePolicyChanges edit.original edit.settings)
  let (settings, version) ← preserveCredentials edit
  let owner ← currentOwner
  ensure (owner = edit.owner)
    "profile changed while preserving credentials; no update attempted"
  let current ← readVersionId
  ensure (current = version) "profile changed while preserving credentials; no update attempted"
  ensureUnstaged edit.explicitRemember
  updateProfile settings blockAutoconnect version
  let owner ← currentOwner
  ensure (owner = edit.owner) "NetworkManager changed after write; verification required"

/-- One edit: the snapshot, what whoever asked for it makes of its settings, the commit. -/
def profileEdit (destination : String) (explicitRemember : Bool)
    (change : ConnectionSettings → Except String ConnectionSettings) (blockAutoconnect : Bool) :
    NmProgram Unit := do
  let edit ← beginProfileEdit destination explicitRemember
  let settings ← lift (change edit.settings)
  commitCredentialEdit destination { edit with settings } blockAutoconnect

/-! ## What an edit knows -/

/-- So far the daemon asked for nothing but the owner of NetworkManager's name. -/
def OnlyOwner (tr : List Happening) : Prop :=
  ∀ s c r, Event.own s c r ∈ tr → c = Call.currentOwner

/-- What is known from the snapshot of an edit on. -/
abbrev Known (first version : ℕ) (settings : ConnectionSettings) :
    Assertion Profile Call Reply Foreign :=
  Tracked OnlyOwner (ReadSettings settings) first version settings

/-- Between the first version read of the edit and now no other client's edit took effect,
and the settings that were read in between are those of the profile. -/
def Lossless (tr : List Happening) (s : Profile) : Prop :=
  ∃ l t first m, tr = l ++ Event.own t .versionId (.ok first) :: m ∧ OnlyOwner l ∧
    ReadSettings s.settings m ∧ ∀ e ∈ m, ¬ ForeignEdit e

/-- An update was accepted. -/
def IsUpdate : (c : Call) → Reply c → Prop
  | .update2 _ _ _, .ok _ => True
  | _, _ => False

/-- What an edit guarantees of its calls. -/
def editGuarantee : Guarantee Profile Call Reply Foreign := fun tr s c r =>
  IsUpdate c r → Lossless tr s

variable {keep : ConnectionSettings → ConnectionSettings} {first version : ℕ}
  {settings : ConnectionSettings} {s s' : Profile} {tr : List Happening}
  {P : Assertion Profile Call Reply Foreign} {α : Type}

theorem Tracked.lossless (h : Known first version settings tr s) (heq : s.version = version) :
    Lossless tr s := by
  obtain ⟨l, t, m, htr, hl, hread, hsnap⟩ := h
  refine ⟨l, t, first, m, htr, hl, ?_, hsnap.quiet heq⟩
  rwa [hsnap.settings_eq heq]

theorem not_isUpdate (c : Call) (hc : c.IsRead) (r : Reply c) : ¬ IsUpdate c r := by
  intro h
  cases c with
  | update2 => exact hc
  | _ => exact h

theorem editGuarantee_read (c : Call) (hc : c.IsRead) (tr : List Happening) (s : Profile)
    (r : Reply c) : editGuarantee tr s c r := fun h => absurd h (not_isUpdate c hc r)

/-- What is known before a part of an edit, and of its result; each of its calls keeps the promise. -/
abbrev Edits (keep : ConnectionSettings → ConnectionSettings)
    (P : Assertion Profile Call Reply Foreign) (p : NmProgram α)
    (Q : α → Assertion Profile Call Reply Foreign) : Prop :=
  Triple (networkManager keep) editGuarantee P p Q

/-- A read in the course of an edit. -/
theorem known_read (c : Call) {f : Reply c → Except String α} (hc : c.IsRead) :
    Edits keep (Known first version settings) (ask c f)
      fun _ => Known first version settings :=
  tracked_read lasting_readSettings c hc (editGuarantee_read c hc)

/-! ## The snapshot -/

theorem onlyOwner_stable :
    Stable (networkManager keep) fun tr (_ : Profile) => OnlyOwner tr := by
  intro tr s a s' h _ t c r hmem
  rcases List.mem_append.mp hmem with hmem | hmem
  · exact h t c r hmem
  · cases List.mem_singleton.mp hmem

theorem onlyOwner_currentOwner :
    Edits keep (fun tr _ => OnlyOwner tr) currentOwner
      fun _ tr _ => OnlyOwner tr := by
  refine triple_read .currentOwner trivial (editGuarantee_read .currentOwner trivial)
    onlyOwner_stable fun tr s r h t c r' hmem => ?_
  rcases List.mem_append.mp hmem with hmem | hmem
  · exact h t c r' hmem
  · cases List.mem_singleton.mp hmem
    rfl

/-- A proxy is built with reads of the owner only. -/
theorem triple_proxyPath {nm : Service Profile Call Reply Foreign}
    {G : Guarantee Profile Call Reply Foreign}
    (h : Triple nm G P currentOwner fun _ => P) (destination : String) :
    Triple nm G P (proxyPath destination) fun _ => P := by
  unfold proxyPath ensureCurrentOwner
  split_ifs
  · exact h.bind fun owner => .ensure fun _ _ hP => hP
  · exact .pure fun _ _ hP => hP

theorem triple_storageAllowed (explicitRemember : Bool) :
    Edits keep (Known first version settings)
      (storageAllowed explicitRemember) fun _ => Known first version settings := by
  refine (known_read .unsaved trivial).bind fun unsaved => ?_
  refine (known_read .filename trivial).bind fun filename => ?_
  split_ifs
  · exact .pure fun _ _ h => h
  · exact (known_read .flags trivial).bind fun flags => .pure fun _ _ h => h
  · exact .pure fun _ _ h => h

/-- An edit begins with a snapshot of the profile. -/
theorem triple_beginProfileEdit (destination : String) (explicitRemember : Bool) :
    Edits keep (fun tr _ => OnlyOwner tr)
      (beginProfileEdit destination explicitRemember) fun edit =>
        Known edit.version edit.version edit.original := by
  refine onlyOwner_currentOwner.bind fun owner => .ensure_bind fun _ => ?_
  refine (triple_proxyPath onlyOwner_currentOwner destination).bind fun _ => ?_
  refine (triple_readVersionId (editGuarantee_read .versionId trivial) onlyOwner_stable).bind
    fun version => .ensure_bind fun _ => ?_
  refine (triple_getSettings (editGuarantee_read .getSettings trivial)).bind
    fun settings => .lift_bind fun uuid _ => ?_
  refine (triple_storageAllowed explicitRemember).bind fun allowed => .ensure_bind fun _ => ?_
  refine (known_read .versionId trivial).bind fun again => .ensure_bind fun _ => ?_
  refine (known_read .currentOwner trivial).bind fun current => .ensure_bind fun _ => ?_
  exact .pure fun _ _ h => h

/-! ## The commit -/

/-- Every successful read of secrets is followed by one version, as the loop expects. -/
theorem triple_preserveSections (sections : List String) :
    ∀ (patched : ConnectionSettings) (version : ℕ),
      Edits keep (Known first version settings)
        (preserveSections sections patched version) fun r => Known first r.2 settings := by
  induction sections with
  | nil => exact fun patched version => .pure fun _ _ h => h
  | cons section' rest ih =>
    intro patched version
    -- what is expected of the version is what the read made of it
    have hsecrets : Edits keep (Known first version settings)
        (ask (.getSecrets section') fun r =>
          r.mapError fun _ => "cannot preserve existing credentials; no update attempted")
        fun _ => Known first (version + 1) settings :=
      (tracked_getSecrets lasting_readSettings (fun _ _ _ => False.elim)
        (fun _ _ h => by cases h)).conseq
        (fun _ _ h => h) fun _ _ _ h => h.mono fun _ hm => hm.1
    refine hsecrets.bind fun secrets => .lift_bind fun expected hexpected => ?_
    obtain rfl := nextVersion_ok hexpected
    refine (known_read .versionId trivial).bind fun current => .ensure_bind fun _ => ?_
    refine .lift_bind fun _ _ => .lift_bind fun merged _ => ?_
    exact ih merged (version + 1)

theorem triple_preserveSecrets (patched : ConnectionSettings) (version : ℕ) :
    Edits keep (Known first version settings)
      (preserveSecrets patched version) fun r => Known first r.2 settings := by
  refine (triple_preserveSections _ patched version).bind fun r => .lift_bind fun merged _ => ?_
  exact .pure fun _ _ h => h

theorem triple_preserveCredentials (edit : ProfileEdit) :
    Edits keep (Known first edit.version settings)
      (preserveCredentials edit) fun r => Known first r.2 settings := by
  have hcollect : Edits keep (Known first edit.version settings)
      (collectSecrets edit) fun r => Known first r.2 settings := by
    unfold collectSecrets
    split_ifs
    · refine (known_read .version trivial).bind fun running => .ensure_bind fun _ => ?_
      exact triple_preserveSecrets edit.settings edit.version
    · exact .pure fun _ _ h => h
  refine hcollect.bind fun r => .lift_bind fun remembered _ => ?_
  exact .pure fun _ _ h => h

/-- An update is accepted only for the version its snapshot is known for. -/
theorem triple_commitCredentialEdit (destination : String) (edit : ProfileEdit)
    (blockAutoconnect : Bool) :
    Edits keep (Known first edit.version settings)
      (commitCredentialEdit destination edit blockAutoconnect) fun _ _ _ => True := by
  refine (triple_proxyPath (known_read .currentOwner trivial) destination).bind fun _ => ?_
  refine (known_read .currentOwner trivial).bind fun owner => .ensure_bind fun _ => ?_
  refine (known_read .versionId trivial).bind fun current => .ensure_bind fun _ => ?_
  refine .ensure_bind fun _ => .lift_bind fun _ _ => ?_
  refine (triple_preserveCredentials edit).bind fun r => ?_
  refine (known_read .currentOwner trivial).bind fun owner => .ensure_bind fun _ => ?_
  refine (known_read .versionId trivial).bind fun current => .ensure_bind fun _ => ?_
  have hstaged : Edits keep (Known first r.2 settings)
      (ensureUnstaged edit.explicitRemember) fun _ => Known first r.2 settings := by
    unfold ensureUnstaged
    split_ifs
    · exact .pure fun _ _ h => h
    · exact (known_read .unsaved trivial).bind fun unsaved => .ensure fun _ _ h => h
  refine hstaged.bind fun _ => ?_
  have hupdate : Edits keep (Known first r.2 settings)
      (updateProfile r.1 blockAutoconnect r.2) fun _ _ _ => True := by
    refine .ask (tracked_stable lasting_readSettings)
      fun tr s reply s' h hserve => ⟨fun hupdate => ?_, ?_⟩
    · rcases reply with e | ⟨⟩
      · exact hupdate.elim
      · exact h.lossless (serve_update2 hserve).1.symm
    · exact fun _ _ => trivial
  refine hupdate.bind fun _ => ?_
  -- nothing depends on what is read after the update
  refine .bind (Q := fun _ _ _ => True) ?_ fun owner => .ensure fun _ _ _ => trivial
  exact triple_read .currentOwner trivial (editGuarantee_read .currentOwner trivial)
    (fun _ _ _ _ _ _ => trivial) fun _ _ _ _ => trivial

theorem triple_profileEdit (destination : String) (explicitRemember : Bool)
    (change : ConnectionSettings → Except String ConnectionSettings) (blockAutoconnect : Bool) :
    Edits keep (fun tr _ => OnlyOwner tr)
      (profileEdit destination explicitRemember change blockAutoconnect) fun _ _ _ => True := by
  refine (triple_beginProfileEdit destination explicitRemember).bind fun edit => ?_
  exact .lift_bind fun changed _ =>
    triple_commitCredentialEdit destination { edit with settings := changed } blockAutoconnect

/-- **No lost edit.** In every execution of an edit, among whatever other clients do: when
its update is accepted, no other client's edit took effect since the first version read of
the edit (before which it asked for nothing but NetworkManager's owner), and the settings it
read after that, from which it started, are the settings of the profile. -/
theorem profile_edit_not_lost (keep : ConnectionSettings → ConnectionSettings)
    (destination : String) (explicitRemember : Bool)
    (change : ConnectionSettings → Except String ConnectionSettings) (blockAutoconnect : Bool)
    {s₀ s : Profile} {tr : List Happening} {p : Prog Call Reply (Except String Unit)}
    (h : Exec (networkManager keep) s₀
      (profileEdit destination explicitRemember change blockAutoconnect) tr s p) :
    ∀ (l₁ l₂ : List Happening) (t : Profile) (written : ConnectionSettings) (flags : UInt32)
      (version : ℕ), tr = l₁ ++ Event.own t (.update2 written flags version) (.ok ()) :: l₂ →
      ∃ (m₁ m₂ : List Happening) (u u' : Profile) (first : ℕ),
        l₁ = m₁ ++ Event.own u .versionId (.ok first) :: m₂ ∧
        (∀ v c r, Event.own v c r ∈ m₁ → c = Call.currentOwner) ∧
        Event.own u' .getSettings (.ok t.settings) ∈ m₂ ∧
        ∀ e ∈ m₂, ¬ ForeignEdit e := by
  intro l₁ l₂ t written flags version htr
  have hstart : OnlyOwner [] := fun _ _ _ hmem => absurd hmem List.not_mem_nil
  have hcalls := (h.sound (triple_profileEdit destination explicitRemember change blockAutoconnect
    [] s₀ hstart)).2
  obtain ⟨m₁, u, first, m₂, hl₁, hm₁, ⟨u', hread⟩, hquiet⟩ := hcalls l₁ l₂ t _ _ htr trivial
  exact ⟨m₁, m₂, u, u', first, hl₁, hm₁, hread, hquiet⟩

/-- An edit that replaces the password. -/
def replacePsk (settings : ConnectionSettings) : Except String ConnectionSettings :=
  .ok (AList.insert "802-11-wireless-security"
    (tableOf [("key-mgmt", .str "wpa-psk"), ("psk", .str "secret")]) settings)

/-- Another client reads the secrets, then the edit goes through; the update is accepted for
a version one above that of the snapshot. -/
theorem profile_edit_not_lost_password :
    ∃ (tr : List Happening) (s : Profile) (p : Prog Call Reply (Except String Unit))
      (l₁ : List Happening) (written : ConnectionSettings),
      Exec (networkManager id) ⟨6, homeProfile⟩ (profileEdit ":1.5" false replacePsk false) tr s p ∧
      tr = l₁ ++ [Event.own ⟨8, homeProfile⟩ (.update2 written 1 8) (.ok ())] ∧
      ∃ m₁ m₂ u u' first, l₁ = m₁ ++ Event.own u .versionId (.ok first) :: m₂ ∧
        Event.own u' .getSettings (.ok homeProfile) ∈ m₂ ∧ ∀ e ∈ m₂, ¬ ForeignEdit e := by
  obtain ⟨written, hplay⟩ : ∃ written, (play (networkManager id) (.inl .readSecrets ::
      List.replicate 18 (.inr (answering ":1.5" "/etc/NetworkManager/system-connections/home" 2 ∅)))
      [] ⟨6, homeProfile⟩ (profileEdit ":1.5" false replacePsk false)).bind (fun r => r.1.getLast?) =
      some (Event.own ⟨8, homeProfile⟩ (.update2 written 1 8) (.ok ())) := ⟨_, rfl⟩
  obtain ⟨⟨tr, s, p⟩, hplay, hlast⟩ := Option.bind_eq_some_iff.mp hplay
  have hexec := Exec.start.play _ hplay
  obtain ⟨l₁, rfl⟩ := List.getLast?_eq_some_iff.mp hlast
  obtain ⟨m₁, m₂, u, u', first, hl₁, -, hread, hquiet⟩ :=
    profile_edit_not_lost id ":1.5" false replacePsk false hexec l₁ [] _ written 1 8 rfl
  exact ⟨_, s, p, l₁, written, hexec, rfl, m₁, m₂, u, u', first, hl₁, hread, hquiet⟩

end Profiles

end NmDaemon
